import Flowgraph.Proofs.Action.WriteBack
import Flowgraph.Proofs.Query.ByKey
/-!
# Records that keep their identity

Operations on a collection keep its records apart: where the records have keys of one kind and no
two keys share a text (`RecordSchema.Identifies`), this is still so after a record is added, with a
key of its own or a generated one (`Identifies.add`), after fields are written over one
(`Identifies.update`), and after one is removed (`Identifies.eraseIdx`).
-/

namespace Flowgraph

/-! ## Keys of added records -/

/-- A generated key fits 64 bits. -/
theorem Collection.isSigned64_nextKey (collection : Collection) :
    Number.isSigned64 collection.nextKey = true := by
  have hlow := Int.le_bmod (x := highestKey collection.schema collection.records + 1)
    (m := 0x10000000000000000) (by decide)
  have hhigh := Int.bmod_lt (x := highestKey collection.schema collection.records + 1)
    (m := 0x10000000000000000) (by decide)
  rw [← nextKey] at hlow hhigh
  rw [Number.isSigned64_iff]
  omega

/-! ## Operations -/

namespace RecordSchema

variable {kind : FieldKind}

/-- The integers of 64 bits are keys of a kind that has integer keys. -/
theorem KeyedBy.keys_int {schema : RecordSchema} (h : schema.KeyedBy kind)
    (hinteger : schema.hasIntegerKey = true) {n : Int} (hn : Number.isSigned64 n = true) :
    kind.Keys (.int n) := by
  obtain ⟨field, hfield, -, hkind⟩ := h.primaryKeyField?
  simp only [hasIntegerKey, hfield, Option.any_some, Bool.or_eq_true, decide_eq_true_eq,
    hkind] at hinteger
  rcases hinteger with rfl | rfl
  · exact .int hn
  · exact .long hn

theorem identifies_nil (schema : RecordSchema) (kind : FieldKind) : schema.Identifies kind [] where
  keyed _ h := absurd h List.not_mem_nil
  distinct := .nil

namespace Identifies

/-- Adding a record keeps records apart. -/
theorem add {collection after : Collection} {record stored : Record}
    (hrecords : collection.schema.Identifies kind collection.records)
    (hkeyed : collection.schema.KeyedBy kind)
    (hsupplied : ∀ key, collection.schema.keyOf? record = some key → kind.Keys key)
    (h : collection.add record = (.ok stored, after)) :
    collection.schema.Identifies kind after.records := by
  obtain ⟨key, hmade, hplace, rfl⟩ := Collection.records_add h
  have hown := Collection.keyOf?_of_keyed hmade
  have hkind : kind.Keys key := by
    obtain ⟨hgiven, -⟩ | ⟨hinteger, rfl, -⟩ := Collection.keyed_eq_ok hmade
    · exact hsupplied key hgiven
    · exact hkeyed.keys_int hinteger collection.isSigned64_nextKey
  refine ⟨fun other hother => ?_, ?_⟩
  · rcases List.mem_append.1 hother with hother | hother
    · exact hrecords.keyed other hother
    · rw [List.mem_singleton.1 hother]
      exact ⟨key, hown, hkind⟩
  · rw [List.map_append, List.nodup_append]
    refine ⟨hrecords.distinct, by simp, fun text htext new hnew => ?_⟩
    obtain ⟨other, hother, rfl⟩ := List.mem_map.1 htext
    rw [List.mem_singleton.1 hnew, keyText?_of_keyOf? hown]
    exact Collection.keyText?_ne_of_position? hplace hother

variable {schema : RecordSchema} {records : List Record} (hrecords : schema.Identifies kind records)
  {i : Nat}

include hrecords

/-- Replacing a record by one with the same key keeps records apart. -/
theorem set {record written : Record} (hr : records[i]? = some record)
    (hkey : schema.keyOf? written = schema.keyOf? record) :
    schema.Identifies kind (records.set i written) where
  keyed other hother := by
    rcases List.mem_or_eq_of_mem_set hother with hother | rfl
    · exact hrecords.keyed other hother
    · rw [hkey]
      exact hrecords.keyed record (List.mem_of_getElem? hr)
  distinct := by
    have htext : (records.map schema.keyText?)[i]? = some (schema.keyText? written) := by
      rw [List.getElem?_map, hr, Option.map_some, keyText?, keyText?, hkey]
    obtain ⟨hlt, hget⟩ := List.getElem?_eq_some_iff.1 htext
    rw [List.map_set, ← hget, List.set_getElem_self]
    exact hrecords.distinct

/-- Removing a record keeps records apart. -/
theorem eraseIdx : schema.Identifies kind (records.eraseIdx i) where
  keyed other hother := hrecords.keyed other (List.mem_of_mem_eraseIdx hother)
  distinct := by
    have hsublist := (List.eraseIdx_sublist records i).map schema.keyText?
    exact hrecords.distinct.sublist hsublist

omit hrecords

/-- Every key leads back to its record. -/
theorem leadsBack {collection : Collection}
    (hrecords : collection.schema.Identifies kind collection.records) {record : Record}
    (hr : collection.records[i]? = some record) : collection.LeadsBack i := by
  obtain ⟨key, hkey, -⟩ := hrecords.keyed record (List.mem_of_getElem? hr)
  refine ⟨record, key.stringify, hr, keyText?_of_keyOf? hkey, fun j hj earlier hearlier htext => ?_⟩
  rw [← keyText?_of_keyOf? hkey] at htext
  have hplace := place_unique hrecords.distinct hearlier hr htext
  omega

/-- Writing over a record keeps records apart. -/
theorem update {collection after : Collection} {record entry stored : Record}
    (hrecords : collection.schema.Identifies kind collection.records)
    (hr : record ∈ collection.records)
    (h : collection.update (Data.overwrite collection.schema record entry) = (.ok stored, after)) :
    collection.schema.Identifies kind after.records := by
  obtain ⟨i, hi⟩ := List.mem_iff_getElem?.1 hr
  obtain ⟨key, hkey, -⟩ := hrecords.keyed record hr
  obtain ⟨j, -, hafter, hplace⟩ := Data.update_place hi h
  rw [hafter, hplace.2 (hrecords.leadsBack hi)]
  exact hrecords.set hi (by rw [Data.keyOf?_overwrite hkey, hkey])

end Identifies

end RecordSchema

end Flowgraph

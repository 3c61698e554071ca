import Flowgraph.Store.Collection
/-!
# Places of keys

A collection tells its records apart by the texts of their keys (`RecordSchema.keyText?`), and finds
a record at the first place whose key has the wanted text (`position?_eq_some_iff`). Where no two
records share a text, that is the one place of the record (`position?_of_nodup`).
-/

namespace Flowgraph

namespace RecordSchema

/-- The text of the key of a record, by which records are told apart. -/
def keyText? (schema : RecordSchema) (record : Record) : Option String :=
  (schema.keyOf? record).map Value.stringify

theorem keyText?_of_keyOf? {schema : RecordSchema} {record : Record} {key : Value}
    (h : schema.keyOf? record = some key) : schema.keyText? record = some key.stringify := by
  rw [keyText?, h, Option.map_some]

end RecordSchema

namespace Collection

theorem hasKeyText_iff {schema : RecordSchema} {key : String} {record : Record} :
    hasKeyText schema key record = true ↔ schema.keyText? record = some key := by
  unfold hasKeyText RecordSchema.keyText?
  cases schema.keyOf? record <;> simp

variable {collection : Collection} {key : Value} {i : Nat}

/-- A key is found at the first record whose key has its text. -/
theorem position?_eq_some_iff :
    collection.position? key = some i ↔
      (∃ record, collection.records[i]? = some record ∧
        collection.schema.keyText? record = some key.stringify) ∧
      ∀ j < i, ∀ record, collection.records[j]? = some record →
        collection.schema.keyText? record ≠ some key.stringify := by
  unfold position?
  rw [List.findIdx?_eq_some_iff_getElem]
  constructor
  · rintro ⟨hlt, hkey, hbefore⟩
    refine ⟨⟨collection.records[i], List.getElem?_eq_getElem hlt, hasKeyText_iff.1 hkey⟩, ?_⟩
    intro j hj record hr htext
    obtain ⟨hjlt, rfl⟩ := List.getElem?_eq_some_iff.1 hr
    exact hbefore j hj (hasKeyText_iff.2 htext)
  · rintro ⟨⟨record, hr, htext⟩, hbefore⟩
    obtain ⟨hlt, rfl⟩ := List.getElem?_eq_some_iff.1 hr
    refine ⟨hlt, hasKeyText_iff.2 htext, fun j hj hkey => ?_⟩
    exact hbefore j hj _ (List.getElem?_eq_getElem (by omega)) (hasKeyText_iff.1 hkey)

/-- The record at the place of a key has that key. -/
theorem keyText?_of_position? (h : collection.position? key = some i) {record : Record}
    (hr : collection.records[i]? = some record) :
    collection.schema.keyText? record = some key.stringify := by
  obtain ⟨⟨found, hfound, htext⟩, -⟩ := position?_eq_some_iff.1 h
  rw [hfound, Option.some.injEq] at hr
  rw [← hr]
  exact htext

/-- A key has no place where no record has it. -/
theorem position?_eq_none_iff :
    collection.position? key = none ↔
      ∀ record ∈ collection.records, collection.schema.keyText? record ≠ some key.stringify := by
  unfold position?
  rw [List.findIdx?_eq_none_iff]
  simp only [← Bool.not_eq_true, hasKeyText_iff, ne_eq]

/-- Where a key has no place, no record has it. -/
theorem keyText?_ne_of_position? (h : collection.position? key = none) {record : Record}
    (hr : record ∈ collection.records) :
    collection.schema.keyText? record ≠ some key.stringify :=
  position?_eq_none_iff.1 h record hr

/-- A key that some record has is found. -/
theorem exists_position? {record : Record} (hr : record ∈ collection.records)
    (htext : collection.schema.keyText? record = some key.stringify) :
    ∃ i, collection.position? key = some i := by
  cases h : collection.position? key with
  | none => exact absurd htext (keyText?_ne_of_position? h hr)
  | some i => exact ⟨i, rfl⟩

end Collection

/-! ## Distinct keys -/

namespace RecordSchema

variable {schema : RecordSchema} {records : List Record}
  (hnodup : (records.map schema.keyText?).Nodup)

include hnodup

/-- Where no two keys have the same text, the text of a key tells the place of its record. -/
theorem place_unique {i j : Nat} {record other : Record} (hi : records[i]? = some record)
    (hj : records[j]? = some other) (htext : schema.keyText? record = schema.keyText? other) :
    i = j := by
  have hlt : i < (records.map schema.keyText?).length := by
    rw [List.length_map]
    exact (List.getElem?_eq_some_iff.1 hi).1
  have hsame : (records.map schema.keyText?)[i]? = (records.map schema.keyText?)[j]? := by
    rw [List.getElem?_map, List.getElem?_map, hi, hj, Option.map_some, Option.map_some, htext]
  exact (List.getElem?_inj hlt hnodup).1 hsame

theorem eq_of_keyText? {record other : Record} (hr : record ∈ records) (ho : other ∈ records)
    (htext : schema.keyText? record = schema.keyText? other) : record = other := by
  obtain ⟨i, hi⟩ := List.mem_iff_getElem?.1 hr
  obtain ⟨j, hj⟩ := List.mem_iff_getElem?.1 ho
  rw [place_unique hnodup hi hj htext, hj] at hi
  exact (Option.some.inj hi).symm

end RecordSchema

/-- Where no two keys have the same text, a key is found at the one place of its record. -/
theorem Collection.position?_of_nodup {collection : Collection} {key : Value} {i : Nat}
    (hnodup : (collection.records.map collection.schema.keyText?).Nodup) {record : Record}
    (hr : collection.records[i]? = some record)
    (htext : collection.schema.keyText? record = some key.stringify) :
    collection.position? key = some i := by
  obtain ⟨j, hj⟩ := exists_position? (List.mem_of_getElem? hr) htext
  obtain ⟨⟨found, hfound, hfoundText⟩, -⟩ := position?_eq_some_iff.1 hj
  rw [hj, RecordSchema.place_unique hnodup hr hfound (htext.trans hfoundText.symm)]

end Flowgraph

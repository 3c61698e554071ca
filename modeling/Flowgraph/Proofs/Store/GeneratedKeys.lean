import Flowgraph.Proofs.Query.ByKey
import Flowgraph.Store.Shared
/-!
# Generated keys

A record that is added without an integer key gets the one behind the largest integer key of the
collection (`Collection.highestKey`). This key serves its purpose (`Collection.GeneratesKey`)
exactly where there is room for it (`Collection.HasRoom`, `generatesKey_iff`): there is an integer
of 64 bits behind every integer key, the one behind the largest is not the zero that stands for no
key, and no record has a key of another kind with the same text. Where all keys are integers that
count up, there is room until the last one is reached (`hasRoom_of_counted`). Anything can be
seeded, so a store also comes to collections without room (`generated_keys_fail`).
-/

namespace Flowgraph

namespace Collection

/-- The largest integer that is a key. -/
def lastKey : Int := 0x7FFFFFFFFFFFFFFF

/-! ## The largest key -/

section HighestKey

variable {schema : RecordSchema} {records : List Record}

theorem bind_signed64?_eq_some {key : Option Value} {n : Int} :
    key.bind Value.signed64? = some n ↔ key = some (.int n) ∧ Number.isSigned64 n = true := by
  rw [Option.bind_eq_some_iff]
  constructor
  · rintro ⟨v, rfl, hv⟩
    cases v with
    | int m =>
      obtain ⟨hm, rfl⟩ := Number.within?_eq_some.1 hv
      exact ⟨rfl, hm⟩
    | _ => cases hv
  · rintro ⟨rfl, hn⟩
    exact ⟨_, rfl, Number.within?_eq_some.2 ⟨hn, rfl⟩⟩

/-- The integer keys of some records, as far as they fit 64 bits with a sign. -/
def integerKeys (schema : RecordSchema) (records : List Record) : List Int :=
  records.filterMap fun record => (schema.keyOf? record).bind Value.signed64?

theorem highestKey_eq_max? (schema : RecordSchema) (records : List Record) :
    highestKey schema records = (integerKeys schema records).max?.getD 0 := rfl

/-- No integer key is larger than the largest one. -/
theorem le_highestKey {record : Record} {n : Int} (hr : record ∈ records)
    (hkey : schema.keyOf? record = some (.int n)) (hn : Number.isSigned64 n = true) :
    n ≤ highestKey schema records := by
  have hmem : n ∈ integerKeys schema records :=
    List.mem_filterMap.2 ⟨record, hr, bind_signed64?_eq_some.2 ⟨hkey, hn⟩⟩
  rw [highestKey_eq_max?]
  cases hmax : (integerKeys schema records).max? with
  | none =>
    rw [List.max?_eq_none_iff.1 hmax] at hmem
    cases hmem
  | some highest => exact (List.max?_eq_some_iff.1 hmax).2 n hmem

/-- The largest key is zero or the key of some record. -/
theorem highestKey_eq (schema : RecordSchema) (records : List Record) :
    highestKey schema records = 0 ∨ ∃ record ∈ records,
      schema.keyOf? record = some (.int (highestKey schema records)) ∧
        Number.isSigned64 (highestKey schema records) = true := by
  cases hmax : (integerKeys schema records).max? with
  | none =>
    rw [highestKey_eq_max?, hmax]
    exact .inl rfl
  | some highest =>
    have heq : highestKey schema records = highest := by
      rw [highestKey_eq_max?, hmax, Option.getD_some]
    obtain ⟨record, hr, hkey⟩ := List.mem_filterMap.1 (List.max?_eq_some_iff.1 hmax).1
    rw [heq]
    exact .inr ⟨record, hr, bind_signed64?_eq_some.1 hkey⟩

/-- The largest key lies in the range of 64 bits, also when there is no integer key. -/
theorem isSigned64_highestKey (schema : RecordSchema) (records : List Record) :
    Number.isSigned64 (highestKey schema records) = true := by
  obtain h | ⟨record, -, -, h⟩ := highestKey_eq schema records
  · rw [h]
    decide
  · exact h

end HighestKey

/-! ## Generating a key -/

variable {collection : Collection} {record : Record}

/-- What is asked of a key that is generated for a new record. -/
structure IsFreshKey (collection : Collection) (n : Int) : Prop where
  isSigned64 : Number.isSigned64 n = true
  ne_zero : n ≠ 0
  /-- The key behind the largest one is counted without overflow. -/
  eq_next : n = highestKey collection.schema collection.records + 1
  text_ne : ∀ other ∈ collection.records,
    collection.schema.keyText? other ≠ some (Value.int n).stringify
  larger : ∀ other ∈ collection.records, ∀ m,
    collection.schema.keyOf? other = some (.int m) → m < n

/-- Whether a record is added, with a key that serves its purpose. -/
def GeneratesKey (collection : Collection) (record : Record) : Prop :=
  ∃ n stored after, collection.add record = (.ok stored, after) ∧
    collection.schema.keyOf? stored = some (.int n) ∧ collection.IsFreshKey n

/-- Whether there is a key behind the largest one of a collection. -/
structure HasRoom (collection : Collection) : Prop where
  /-- The key behind it would be the zero that stands for no key. -/
  highest_ne : highestKey collection.schema collection.records ≠ -1
  lt_last : ∀ other ∈ collection.records, ∀ m,
    collection.schema.keyOf? other = some (.int m) → m < lastKey
  /-- Records are told apart by the texts of their keys, of which some may not be integers. -/
  text_ne : ∀ other ∈ collection.records, collection.schema.keyText? other ≠
    some (Value.int (highestKey collection.schema collection.records + 1)).stringify

/-- The key behind the largest one is generated for a record that is added without a key. -/
theorem keyed_of_unset (hinteger : collection.schema.hasIntegerKey = true)
    (hunset : collection.schema.keyOf? record = none ∨
      collection.schema.keyOf? record = some (.int 0)) :
    collection.keyed record =
      .ok (Keyed.insert collection.schema.primaryKey (.int collection.nextKey) record,
        .int collection.nextKey) := by
  have hsupplied : suppliedKey? collection.schema record = none := by
    rcases hunset with hunset | hunset
    · rw [suppliedKey?, hunset, Option.filter_none]
    · rw [suppliedKey?, hunset, hinteger]
      rfl
  rw [keyed, hsupplied]
  exact if_pos hinteger

theorem HasRoom.highestKey_lt (h : collection.HasRoom) :
    highestKey collection.schema collection.records < lastKey := by
  obtain hzero | ⟨other, hother, hkey, -⟩ := highestKey_eq collection.schema collection.records
  · rw [hzero]
    decide
  · exact h.lt_last other hother _ hkey

/-- The arithmetic of 64 bits does not interfere while the largest key has a successor. -/
theorem nextKey_of_lt (h : highestKey collection.schema collection.records < lastKey) :
    collection.nextKey = highestKey collection.schema collection.records + 1 := by
  have hrange := Number.isSigned64_iff.1
    (isSigned64_highestKey collection.schema collection.records)
  rw [lastKey] at h
  rw [nextKey, Int.bmod_eq_of_le] <;> omega

theorem HasRoom.isFreshKey (h : collection.HasRoom) :
    collection.IsFreshKey (highestKey collection.schema collection.records + 1) := by
  have hrange := Number.isSigned64_iff.1
    (isSigned64_highestKey collection.schema collection.records)
  have hlt := h.highestKey_lt
  have hne := h.highest_ne
  rw [lastKey] at hlt
  refine ⟨Number.isSigned64_iff.2 (by omega), by omega, rfl, h.text_ne,
    fun other hother m hkey => ?_⟩
  by_cases hm : Number.isSigned64 m = true
  · have hle := le_highestKey hother hkey hm
    omega
  · -- An integer that does not fit is below all that do.
    have hbelow := h.lt_last other hother m hkey
    rw [Number.isSigned64_iff] at hm
    rw [lastKey] at hbelow
    omega

theorem IsFreshKey.hasRoom {n : Int} (h : collection.IsFreshKey n) : collection.HasRoom := by
  obtain ⟨hn, hzero, rfl, htext, hlarger⟩ := h
  rw [Number.isSigned64_iff] at hn
  refine ⟨by omega, fun other hother m hkey => ?_, htext⟩
  have hm := hlarger other hother m hkey
  rw [lastKey]
  omega

/-- **Generated keys serve their purpose exactly where there is room.** A record without an integer
key is then added, and its key fits 64 bits and is not zero, comes behind the largest one without
overflow, is no other record's key, and is larger than every integer key. -/
theorem generatesKey_iff (hinteger : collection.schema.hasIntegerKey = true)
    (hunset : collection.schema.keyOf? record = none ∨
      collection.schema.keyOf? record = some (.int 0)) :
    collection.GeneratesKey record ↔ collection.HasRoom := by
  constructor
  · rintro ⟨n, stored, after, -, -, hfresh⟩
    exact hfresh.hasRoom
  · intro hroom
    have hkeyed := keyed_of_unset hinteger hunset
    rw [nextKey_of_lt hroom.highestKey_lt] at hkeyed
    exact ⟨_, _, _, add_of_keyed hkeyed (position?_eq_none_iff.2 hroom.text_ne),
      keyOf?_of_keyed hkeyed, hroom.isFreshKey⟩

/-- Where all keys are integers that count up, there is room until the last one is reached. -/
theorem hasRoom_of_counted (h : ∀ other ∈ collection.records, ∃ n,
    collection.schema.keyOf? other = some (.int n) ∧ 0 ≤ n ∧ n < lastKey) :
    collection.HasRoom := by
  have hlt : ∀ other ∈ collection.records, ∀ m,
      collection.schema.keyOf? other = some (.int m) → m < lastKey := by
    intro other hother m hkey
    obtain ⟨n, hn, -, hlast⟩ := h other hother
    cases hn.symm.trans hkey
    exact hlast
  have hnonneg : 0 ≤ highestKey collection.schema collection.records ∧
      highestKey collection.schema collection.records < lastKey := by
    obtain hzero | ⟨other, hother, hkey, -⟩ := highestKey_eq collection.schema collection.records
    · rw [hzero]
      decide
    · obtain ⟨n, hn, hbounds⟩ := h other hother
      cases hn.symm.trans hkey
      exact hbounds
  refine ⟨by omega, hlt, fun other hother htext => ?_⟩
  obtain ⟨n, hn, hzero, hlast⟩ := h other hother
  rw [RecordSchema.keyText?_of_keyOf? hn, Option.some.injEq] at htext
  -- A key with the text of the next one would be the next one, which none of them reaches.
  rw [lastKey] at hlast hnonneg
  have hsigned : Number.isSigned64 n = true := Number.isSigned64_iff.2 (by omega)
  have heq := Value.int_eq_of_stringify hsigned (Number.isSigned64_iff.2 (by omega)) htext
  have hle := le_highestKey hother hn hsigned
  omega

/-- A post with a number and a title. -/
def numberedPost : RecordSchema :=
  { name := "Post", primaryKey := "postId", fields := [.plain "postId" .int, .plain "title" .text] }

/-- Posts of which one has the number seven. -/
def numberedPosts : Collection := ⟨numberedPost, [[("postId", .int 7)]], false⟩

/-- A post without a number gets one behind seven. -/
theorem generatesKey_numbered :
    numberedPosts.schema.hasIntegerKey = true ∧ numberedPost.keyOf? [("title", .text "x")] = none ∧
      numberedPosts.GeneratesKey [("title", .text "x")] := by
  have hroom : numberedPosts.HasRoom := hasRoom_of_counted fun other hother => by
    rw [List.mem_singleton.1 hother]
    exact ⟨7, rfl, by decide, by decide⟩
  exact ⟨rfl, rfl, (generatesKey_iff rfl (.inl rfl)).2 hroom⟩

/-! ## Collections that a store comes to -/

/-- Seeds a collection of an empty store and opens a session that looks it up. -/
def seedingRun (schema : RecordSchema) (records : List Record) : SharedStore.Run where
  provider := { store := { name := "Blog", schemas := [("Posts", schema)] } }
  schedule
    | 0 => .seed "Posts" records
    | 1 => .opening
    | _ => .act 0 "Posts" .touch

/-- A session comes to see any records under any schema. -/
theorem copy?_seedingRun (schema : RecordSchema) (records : List Record) :
    ((seedingRun schema records).state 3).copy? 0 "Posts" = some { schema, records } := by
  rfl

/-- **Generated keys do not always serve their purpose.** Behind the key minus one comes the zero
that stands for no key, and where the text 1 is a key, the integer behind zero is taken. -/
theorem generated_keys_fail :
    ((⟨numberedPost, [[("postId", .int (-1))]], false⟩ : Collection).add []).1 =
      .ok [("postId", .int 0)] ∧
    ((⟨numberedPost, [[("postId", .text "1")]], false⟩ : Collection).add []).1 =
      .error (.duplicateKey "Post" "1") ∧
    ¬∀ (run : SharedStore.Run) (t place : Nat) (name : String) (collection : Collection)
      (record : Record), (run.state t).copy? place name = some collection →
        collection.schema.hasIntegerKey = true →
        collection.schema.keyOf? record = none ∨
          collection.schema.keyOf? record = some (.int 0) →
        collection.GeneratesKey record := by
  refine ⟨rfl, rfl, fun h => ?_⟩
  obtain ⟨n, stored, after, -, -, hfresh⟩ := h _ 3 0 "Posts" _ []
    (copy?_seedingRun numberedPost [[("postId", .int (-1))]]) rfl (.inl rfl)
  exact hfresh.hasRoom.highest_ne rfl

end Collection

end Flowgraph

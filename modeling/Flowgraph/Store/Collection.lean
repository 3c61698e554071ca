import Flowgraph.Query.Compiled
/-!
# Collections of records

The operations on the records of one collection inside a session. Records are found by the plain
text of their keys, the first one with a given text counting. An operation answers a record or why
it fails, and leaves a collection behind in either case; one that fails leaves the collection that
it found.

Main definitions: `StoreError`, `Collection`, `Collection.add`, `Collection.update`,
`Collection.remove`, `Collection.query`, `Collection.count`.
Main statements: `add_cases`, `update_cases`, `remove_cases`.
-/

namespace Flowgraph

/-- Why a store refuses an operation. -/
inductive StoreError where
  | unknownCollection (name : String)
  | duplicateKey (collection key : String)
  | notFound (collection key : String)
  | missingKey (collection : String)
  | backend (message : String)

/-- The message of an error. -/
def StoreError.message : StoreError → String
  | unknownCollection name => s!"unknown collection '{name}'"
  | duplicateKey collection key => s!"record with key {key} already exists in '{collection}'"
  | notFound collection key => s!"no record with key {key} in '{collection}'"
  | missingKey collection => s!"record for '{collection}' has no primary key value"
  | backend message => s!"store backend error: {message}"

/-- The records of one collection as a session sees them. -/
structure Collection where
  schema : RecordSchema
  records : List Record
  /-- Whether the session has changed them since it last committed. -/
  dirty : Bool := false

namespace Collection

/-- Whether the key of a record has a given text. -/
def hasKeyText (schema : RecordSchema) (key : String) (record : Record) : Bool :=
  (schema.keyOf? record).any fun v => v.stringify = key

/-- The place of the first record whose key has the text of `key`. -/
def position? (collection : Collection) (key : Value) : Option Nat :=
  collection.records.findIdx? (hasKeyText collection.schema key.stringify)

/-- The largest integer key of some records, zero when there is none. -/
def highestKey (schema : RecordSchema) (records : List Record) : Int :=
  ((records.filterMap fun record => (schema.keyOf? record).bind Value.signed64?).max?).getD 0

/-- The key after the largest integer key, in the arithmetic of 64 bits with a sign. -/
def nextKey (collection : Collection) : Int :=
  (highestKey collection.schema collection.records + 1).bmod 0x10000000000000000

/-- The key that a record brings along; the integer zero stands for none where keys are
generated. -/
def suppliedKey? (schema : RecordSchema) (record : Record) : Option Value :=
  (schema.keyOf? record).filter fun key => !(schema.hasIntegerKey && key.signed64? = some 0)

/-- The record to store and its key: the one it brings along, or a generated one. -/
def keyed (collection : Collection) (record : Record) : Except StoreError (Record × Value) :=
  match suppliedKey? collection.schema record with
  | some key => .ok (record, key)
  | none =>
    if collection.schema.hasIntegerKey then
      let key : Value := .int collection.nextKey
      .ok (Keyed.insert collection.schema.primaryKey key record, key)
    else .error (.missingKey collection.schema.name)

/-- Stores a new record at the end and answers it as it is stored. -/
def add (collection : Collection) (record : Record) : Except StoreError Record × Collection :=
  match collection.keyed record with
  | .error error => (.error error, collection)
  | .ok (record, key) =>
    match collection.position? key with
    | some _ => (.error (.duplicateKey collection.schema.name key.stringify), collection)
    | none =>
      (.ok record, { collection with records := collection.records ++ [record], dirty := true })

/-- Replaces the record with the same key. -/
def update (collection : Collection) (record : Record) : Except StoreError Record × Collection :=
  match collection.schema.keyOf? record with
  | none => (.error (.missingKey collection.schema.name), collection)
  | some key =>
    match collection.position? key with
    | none => (.error (.notFound collection.schema.name key.stringify), collection)
    | some i =>
      (.ok record, { collection with records := collection.records.set i record, dirty := true })

/-- Removes the record with a key and answers it. -/
def remove (collection : Collection) (key : Value) : Except StoreError Record × Collection :=
  match collection.position? key with
  | none => (.error (.notFound collection.schema.name key.stringify), collection)
  | some i =>
    (.ok ((collection.records[i]?).getD []),
      { collection with records := collection.records.eraseIdx i, dirty := true })

/-- The result of a query on the records. -/
def query (collection : Collection) (q : CompiledQuery) : List Record :=
  q.apply collection.records

/-- The number of records that satisfy every predicate. -/
def count (collection : Collection) (filters : List Predicate) : Nat :=
  collection.records.countP fun record => filters.all fun predicate => predicate.matches record

/-! ## What the operations do to the records -/

/-- The key under which a record is stored: the one that it brings along, or a generated one. -/
theorem keyed_eq_ok {collection : Collection} {record stored : Record} {key : Value}
    (h : collection.keyed record = .ok (stored, key)) :
    collection.schema.keyOf? record = some key ∧ stored = record ∨
      collection.schema.hasIntegerKey = true ∧ key = .int collection.nextKey ∧
        stored = Keyed.insert collection.schema.primaryKey key record := by
  unfold keyed at h
  split at h
  · next hsupplied =>
    cases h
    exact .inl ⟨(Option.filter_eq_some_iff.1 hsupplied).1, rfl⟩
  · split at h
    · next hinteger =>
      cases h
      exact .inr ⟨hinteger, rfl, rfl⟩
    · cases h

theorem keyOf?_of_keyed {collection : Collection} {record stored : Record} {key : Value}
    (h : collection.keyed record = .ok (stored, key)) :
    collection.schema.keyOf? stored = some key := by
  obtain ⟨hown, rfl⟩ | ⟨-, rfl, rfl⟩ := keyed_eq_ok h
  · exact hown
  · exact RecordSchema.keyOf?_insert ..

/-- What adding a record can come to. -/
theorem add_cases (collection : Collection) (record : Record) :
    (∃ error, collection.add record = (.error error, collection)) ∨
      ∃ stored key, collection.keyed record = .ok (stored, key) ∧
        collection.position? key = none ∧
        collection.add record = (.ok stored,
          { collection with records := collection.records ++ [stored], dirty := true }) := by
  unfold add
  cases hkeyed : collection.keyed record with
  | error error => exact .inl ⟨error, rfl⟩
  | ok made =>
    obtain ⟨stored, key⟩ := made
    cases hplace : collection.position? key with
    | some i =>
      refine .inl ⟨.duplicateKey collection.schema.name key.stringify, ?_⟩
      simp only [hplace]
    | none => exact .inr ⟨stored, key, rfl, hplace, by simp only [hplace]⟩

/-- What writing a record can come to. -/
theorem update_cases (collection : Collection) (record : Record) :
    (∃ error, collection.update record = (.error error, collection)) ∨
      ∃ key i, collection.schema.keyOf? record = some key ∧ collection.position? key = some i ∧
        collection.update record = (.ok record,
          { collection with records := collection.records.set i record, dirty := true }) := by
  unfold update
  cases hkey : collection.schema.keyOf? record with
  | none => exact .inl ⟨_, rfl⟩
  | some key =>
    cases hplace : collection.position? key with
    | none =>
      refine .inl ⟨.notFound collection.schema.name key.stringify, ?_⟩
      simp only [hplace]
    | some i => exact .inr ⟨key, i, rfl, hplace, by simp only [hplace]⟩

/-- What removing a record can come to. -/
theorem remove_cases (collection : Collection) (key : Value) :
    (∃ error, collection.remove key = (.error error, collection)) ∨
      ∃ i, collection.position? key = some i ∧
        collection.remove key = (.ok ((collection.records[i]?).getD []),
          { collection with records := collection.records.eraseIdx i, dirty := true }) := by
  unfold remove
  cases hplace : collection.position? key with
  | none => exact .inl ⟨_, rfl⟩
  | some i => exact .inr ⟨i, rfl, rfl⟩

theorem records_add {collection after : Collection} {record stored : Record}
    (h : collection.add record = (.ok stored, after)) :
    ∃ key, collection.keyed record = .ok (stored, key) ∧ collection.position? key = none ∧
      after =
        { collection with records := collection.records ++ [stored], dirty := true } := by
  obtain ⟨error, hadd⟩ | ⟨made, key, hkeyed, hplace, hadd⟩ := add_cases collection record
  · rw [hadd] at h
    cases h
  · rw [hadd] at h
    cases h
    exact ⟨key, hkeyed, hplace, rfl⟩

/-- A record is added when no record has its key. -/
theorem add_of_keyed {collection : Collection} {record stored : Record} {key : Value}
    (hkeyed : collection.keyed record = .ok (stored, key))
    (hplace : collection.position? key = none) :
    collection.add record = (.ok stored,
      { collection with records := collection.records ++ [stored], dirty := true }) := by
  simp only [add, hkeyed, hplace]

theorem records_update {collection after : Collection} {record stored : Record}
    (h : collection.update record = (.ok stored, after)) :
    stored = record ∧ ∃ key i, collection.schema.keyOf? record = some key ∧
      collection.position? key = some i ∧
      after = { collection with records := collection.records.set i record, dirty := true } := by
  obtain ⟨error, hupdate⟩ | ⟨key, i, hkey, hi, hupdate⟩ := update_cases collection record
  · rw [hupdate] at h
    cases h
  · rw [hupdate] at h
    cases h
    exact ⟨rfl, key, i, hkey, hi, rfl⟩

theorem records_remove {collection after : Collection} {key : Value} {removed : Record}
    (h : collection.remove key = (.ok removed, after)) :
    ∃ i, collection.position? key = some i ∧ removed = (collection.records[i]?).getD [] ∧
      after = { collection with records := collection.records.eraseIdx i, dirty := true } := by
  obtain ⟨error, hremove⟩ | ⟨i, hi, hremove⟩ := remove_cases collection key
  · rw [hremove] at h
    cases h
  · rw [hremove] at h
    cases h
    exact ⟨i, hi, rfl, rfl⟩

end Collection

end Flowgraph

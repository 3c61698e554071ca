import Flowgraph.Action.Data
import Flowgraph.Proofs.Number.Padded
import Flowgraph.Proofs.Query.Places
import Flowgraph.Proofs.Store.Keys
/-!
# Finding a record by its key

A store tells keys apart by their texts, while a lookup by key compiles to a filter that reads both
its text and the keys of the records as the kind of the key. For keys of the kinds that are read
back from their own texts (`FieldKind.Keys`), integers and texts, the two agree (`equals_iff`), so a
lookup by the text of a key finds the record with that key (`find_of_keyText?`).
-/

namespace Flowgraph

/-- The kinds of which a key is the same as its text. -/
def FieldKind.keyKinds : List FieldKind := [.int, .long, .text]

/-- The keys of these kinds: integers of 64 bits, and texts. -/
inductive FieldKind.Keys : FieldKind → Value → Prop
  | int {n : Int} (h : Number.isSigned64 n = true) : Keys .int (.int n)
  | long {n : Int} (h : Number.isSigned64 n = true) : Keys .long (.int n)
  | text (s : String) : Keys .text (.text s)

/-! ## Reading a key back from its text -/

theorem Number.isBlank_of_mem_signedDigits {n : Int} {c : Char} (h : c ∈ signedDigits n) :
    Text.isBlank c = false := by
  rw [signedDigits] at h
  split at h
  · rcases List.mem_cons.1 h with rfl | h
    · decide
    · exact isBlank_of_isDigit (isDigit_of_mem_digits h)
  · exact isBlank_of_isDigit (isDigit_of_mem_digits h)

/-- An integer is read back from its text. -/
theorem Value.toSigned64?_stringify {n : Int} (h : Number.isSigned64 n = true) :
    (Value.text (Value.int n).stringify).toSigned64? = some n := by
  have htext : (Value.int n).stringify = String.ofList (Number.signedDigits n) := rfl
  have htrim : Text.trimBoth (Number.signedDigits n) = Number.signedDigits n :=
    Text.trimBoth_eq_self fun c hc => Number.isBlank_of_mem_signedDigits hc
  rw [htext, toSigned64?, String.toList_ofList, htrim, Number.readInt?_signedDigits,
    Option.bind_some, Number.within?_eq_some]
  exact ⟨h, rfl⟩

/-- Integers with the same text are the same. -/
theorem Value.int_eq_of_stringify {n m : Int} (hn : Number.isSigned64 n = true)
    (hm : Number.isSigned64 m = true) (h : (Value.int n).stringify = (Value.int m).stringify) :
    n = m := by
  have hread := toSigned64?_stringify hn
  rw [h, toSigned64?_stringify hm, Option.some.injEq] at hread
  exact hread.symm

namespace Scalar

variable {kind : FieldKind} {v w : Value}

/-- An integer key, read as its kind. -/
theorem ofValue_int {n : Int} (hn : Number.isSigned64 n = true) :
    ofValue .int (.int n) = .int n ∧ ofValue .long (.int n) = .int n := by
  have hread : (Value.int n).toSigned64? = some n := Number.within?_eq_some.2 ⟨hn, rfl⟩
  simp only [ofValue, read?, Value.isNull, hread]
  exact ⟨rfl, rfl⟩

/-- A text reads as the key whose text it is. -/
theorem read?_stringify (h : kind.Keys v) :
    read? kind (.text v.stringify) = some (ofValue kind v) := by
  cases h with
  | int hn =>
    rw [(ofValue_int hn).1]
    simp only [read?, Value.isNull, Value.toSigned64?_stringify hn]
    rfl
  | long hn =>
    rw [(ofValue_int hn).2]
    simp only [read?, Value.isNull, Value.toSigned64?_stringify hn]
    rfl
  | text s => rfl

theorem equals_int_iff {n m : Int} (hn : Number.isSigned64 n = true)
    (hm : Number.isSigned64 m = true) :
    (Scalar.int n).equals (.int m) = true ↔ (Value.int n).stringify = (Value.int m).stringify := by
  simp only [equals, order?, beq_iff_eq, Option.some.injEq, Std.compare_eq_iff_eq]
  exact ⟨fun h => by rw [h], Value.int_eq_of_stringify hn hm⟩

/-- **Keys of one kind are equal when they have the same text.** -/
theorem equals_iff (hv : kind.Keys v) (hw : kind.Keys w) :
    (ofValue kind v).equals (ofValue kind w) = true ↔ v.stringify = w.stringify := by
  cases hv with
  | int hn =>
    cases hw with
    | int hm =>
      rw [(ofValue_int hn).1, (ofValue_int hm).1]
      exact equals_int_iff hn hm
  | long hn =>
    cases hw with
    | long hm =>
      rw [(ofValue_int hn).2, (ofValue_int hm).2]
      exact equals_int_iff hn hm
  | text s =>
    cases hw with
    | text t =>
      change ((Scalar.text s).equals (.text t) = true ↔ s = t)
      simp only [equals, order?, beq_iff_eq, Option.some.injEq, Std.compare_eq_iff_eq]

end Scalar

/-! ## Records with keys of a kind -/

/-- Whether a schema declares a key of a kind, under a name that is not empty, and nothing that
could stand in for a key that cannot be read. -/
structure RecordSchema.KeyedBy (schema : RecordSchema) (kind : FieldKind) : Prop where
  kind_mem : kind ∈ FieldKind.keyKinds
  named : schema.primaryKey ≠ ""
  declared : ∃ field ∈ schema.fields, field.name = schema.primaryKey
  plain : ∀ field ∈ schema.fields, field.name = schema.primaryKey →
    field.kind = kind ∧ field.default = none

/-- Whether records have keys of a kind, and no two of them keys of the same text. -/
structure RecordSchema.Identifies (schema : RecordSchema) (kind : FieldKind)
    (records : List Record) : Prop where
  keyed : ∀ record ∈ records, ∃ key, schema.keyOf? record = some key ∧ kind.Keys key
  distinct : (records.map schema.keyText?).Nodup

/-- The declared field of the key. -/
theorem RecordSchema.KeyedBy.primaryKeyField? {schema : RecordSchema} {kind : FieldKind}
    (h : schema.KeyedBy kind) :
    ∃ field, schema.primaryKeyField? = some field ∧ field.name = schema.primaryKey ∧
      field.kind = kind := by
  obtain ⟨declared, hmem, hname⟩ := h.declared
  have hsome : schema.primaryKeyField?.isSome = true :=
    List.find?_isSome.2 ⟨declared, hmem, decide_eq_true hname⟩
  obtain ⟨field, hfield⟩ := Option.isSome_iff_exists.1 hsome
  have hfound : field.name = schema.primaryKey := of_decide_eq_true (List.find?_some hfield :)
  exact ⟨field, hfield, hfound, (h.plain field (List.mem_of_find?_eq_some hfield) hfound).1⟩

namespace Data

variable {collection : Collection} {kind : FieldKind} {lookup : RecordLookup} {key : Value}
  {record : Record}

/-- The query of a lookup by the text of a key. -/
theorem lookupQuery_of_key (hkeyed : collection.schema.KeyedBy kind) (hkey : kind.Keys key)
    (hid : lookup.idValue = some key.stringify) :
    lookupQuery lookup collection.schema =
      .ok (some { filters := [.compare collection.schema.primaryKey kind .equal
        (.ofValue kind key)] }) := by
  obtain ⟨field, hfield, hname, hkind⟩ := hkeyed.primaryKeyField?
  have hempty : collection.schema.primaryKey.isEmpty = false := by
    rw [Bool.eq_false_iff, ne_eq, String.isEmpty_iff]
    exact hkeyed.named
  have hcompile : FilterRule.compile?
      { attr := some collection.schema.primaryKey, type := some .equal,
        value := .text key.stringify } collection.schema =
      some (.compare collection.schema.primaryKey kind .equal (.ofValue kind key)) := by
    have hread := Scalar.read?_stringify hkey
    have hdeclared : collection.schema.field? collection.schema.primaryKey = some field := hfield
    simp only [FilterRule.compile?, bind, Option.bind, hempty, FilterRule.isSkipped,
      Bool.false_and, Bool.or_false, hdeclared, FilterRule.compileType?,
      FilterRule.compileComparison, hname, hkind, hread]
    rfl
  simp only [lookupQuery, hid, hfield, CompiledQuery.ofFilters, CompiledQuery.compileFilters,
    List.filterMap_cons, hcompile, List.filterMap_nil]

/-- A record satisfies that query when its key has the text. -/
theorem matches_key_iff (hkey : kind.Keys key) {schema : RecordSchema} {own : Value}
    (hown : schema.keyOf? record = some own) (hkind : kind.Keys own) :
    (CompiledQuery.mk [.compare schema.primaryKey kind .equal (.ofValue kind key)] []
      none).matches record = true ↔ schema.keyText? record = some key.stringify := by
  have hvalue : Predicate.valueOf schema.primaryKey record = own := by
    have hget := (Option.filter_eq_some_iff.1 hown).1
    rw [Predicate.valueOf, hget]
    rfl
  simp only [CompiledQuery.matches, List.all_cons, List.all_nil, Bool.and_true,
    Predicate.matches, FieldComparison.holds, hvalue]
  rw [Scalar.equals_iff hkind hkey, RecordSchema.keyText?_of_keyOf? hown, Option.some.injEq]

/-- **A lookup by the text of a key finds the record with that key.** -/
theorem find_of_keyText? (hkeyed : collection.schema.KeyedBy kind)
    (hrecords : collection.schema.Identifies kind collection.records)
    (hr : record ∈ collection.records) {text : String}
    (htext : collection.schema.keyText? record = some text) (hid : lookup.idValue = some text) :
    find lookup collection = .ok (some record) := by
  obtain ⟨key, hkey, hkind⟩ := hrecords.keyed record hr
  rw [RecordSchema.keyText?_of_keyOf? hkey, Option.some.injEq] at htext
  subst htext
  let query : CompiledQuery :=
    { filters := [.compare collection.schema.primaryKey kind .equal (.ofValue kind key)] }
  have hmatch : ∀ other ∈ collection.records, query.matches other = true ↔ other = record := by
    intro other hother
    obtain ⟨own, hown, hownKind⟩ := hrecords.keyed other hother
    rw [matches_key_iff hkind hown hownKind, ← RecordSchema.keyText?_of_keyOf? hkey]
    exact ⟨RecordSchema.eq_of_keyText? hrecords.distinct hother hr, fun h => by rw [h]⟩
  have hfirst : (collection.query query).head? = some record := by
    rw [Collection.query, CompiledQuery.apply_eq_filter rfl rfl, List.head?_filter]
    cases hfound : collection.records.find? query.matches with
    | none =>
      exact absurd ((hmatch record hr).2 rfl) (List.find?_eq_none.1 hfound record hr)
    | some other =>
      have hother := (hmatch other (List.mem_of_find?_eq_some hfound)).1 (List.find?_some hfound)
      rw [hother]
  unfold find
  simp only [lookupQuery_of_key hkeyed hkind hid, bind, Except.bind, Option.bind_some]
  exact congrArg Except.ok hfirst

end Data

end Flowgraph

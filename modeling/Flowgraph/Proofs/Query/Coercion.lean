import Flowgraph.Proofs.Query.ByKey
import Flowgraph.Proofs.Registry.Population
import Flowgraph.Proofs.Time.ReadBack
import Flowgraph.Query.Predicate
import Flowgraph.Registry.Basic
/-!
# Filters on populated fields

A value is read as the kind of a field twice: once when a field is populated with it, and once when
a filter asks for records that have it. A filter for equality matches the records that were
populated with its own value exactly when both readings agree on it (`matches_populated_iff`,
`FieldKind.ReadsAlike`), which they always do on texts, truth values and numbers. They part on a
variant that is named by its ordinal in a text, which population alone understands, and on a date of
a year that is written with a sign, which is not read back from its written form
(`not_mirrorsPopulation`).
-/

namespace Flowgraph

/-- Whether population and filters make the same of a value of a kind: a text names a variant by its
name, and a date has a year of four digits. -/
def FieldKind.ReadsAlike : FieldKind → Value → Prop
  | enumeration variants, .text s => s ∈ variants
  | date, v => ∀ t, v.toInstant? = some t → 0 ≤ t.date.year ∧ t.date.year ≤ 9999
  | _, _ => True

theorem FieldKind.readsAlike_date_iff {v : Value} {t : Instant} (h : v.toInstant? = some t) :
    FieldKind.date.ReadsAlike v ↔ 0 ≤ t.date.year ∧ t.date.year ≤ 9999 := by
  constructor
  · intro halike
    exact halike t h
  · intro hyear t' ht'
    cases h.symm.trans ht'
    exact hyear

/-- A point in time that a value is read as is one that a clock can show. -/
theorem Value.isProper_of_toInstant? {v : Value} {t : Instant} (h : v.toInstant? = some t) :
    t.IsProper := by
  cases v with
  | text s => exact Instant.isProper_of_read? h
  | int n =>
    obtain ⟨m, -, hcounted⟩ := Option.bind_eq_some_iff.1 h
    exact Instant.isProper_of_ofUnixSeconds? hcounted
  | _ => cases h

namespace Scalar

open PopulateScope (readScalar?)

/-! ## Reading a value twice -/

variable {v w : Value}

theorem equals_text_iff {s s' : String} : (Scalar.text s).equals (.text s') = true ↔ s = s' := by
  simp only [equals, order?, beq_iff_eq, Option.some.injEq, Std.compare_eq_iff_eq]

/-- A scalar that is no document equals itself. -/
theorem equals_self {a : Scalar} (h : ∀ v, a ≠ .json v) : a.equals a = true := by
  rw [equals, beq_iff_eq]
  cases a with
  | null => rfl
  | bool flag => exact congrArg some Std.ReflCmp.compare_self
  | int n => exact congrArg some Std.ReflCmp.compare_self
  | decimal x => exact congrArg some ((Binary64.compare_eq_iff x x).2 rfl)
  | text s => exact congrArg some Std.ReflCmp.compare_self
  | date t =>
    simp only [order?, Instant.compare, Date.compare, Std.ReflCmp.compare_self, Ordering.then_eq]
  | json v => exact absurd rfl (h v)

/-- A date that is stored is the date that was read if it can be read back, and else null. -/
theorem ofValue_ofInstant {t : Instant} (ht : t.IsProper) :
    ofValue .date (.ofInstant t) =
      if 0 ≤ t.date.year ∧ t.date.year ≤ 9999 then .date t else .null := by
  have hback : (Value.ofInstant t).toInstant? = Instant.read? t.render := rfl
  have hread : read? .date (.ofInstant t) = (Value.ofInstant t).toInstant?.map .date := rfl
  rw [ofValue, hread, hback, Instant.read?_render ht]
  split <;> rfl

/-- A variant that is named by an ordinal is none of that name. -/
theorem readVariant?_text_iff {variants : List String} {s variant : String}
    (h : PopulateScope.readVariant? variants (.text s) = some variant) :
    variant = s ↔ s ∈ variants := by
  simp only [PopulateScope.readVariant?, List.contains_iff_mem] at h
  split at h
  · next hmem =>
    cases h
    exact iff_of_true rfl hmem
  · next hmem =>
    obtain ⟨ordinal, -, hget⟩ := Option.bind_eq_some_iff.1 h
    refine iff_of_false (fun heq => hmem ?_) hmem
    rw [← heq]
    exact List.mem_of_getElem? hget

/-- **A populated field equals what a filter asks for** exactly when both readings of the value
agree. -/
theorem equals_of_readScalar? {kind : FieldKind} (hscalar : kind.isScalar = true)
    (hnull : v.isNull = false) (h : readScalar? kind v = some w) :
    ∃ wanted, read? kind v = some wanted ∧
      ((ofValue kind w).equals wanted = true ↔ kind.ReadsAlike v) := by
  have hfilled : ¬v.isNull = true := by
    rw [hnull]
    exact Bool.false_ne_true
  cases kind with
  | text =>
    cases h
    exact ⟨.text v.stringify, if_neg hfilled, iff_of_true (equals_self nofun) trivial⟩
  | bool =>
    obtain ⟨flag, hflag, rfl⟩ := Option.map_eq_some_iff.1 h
    refine ⟨.bool flag, (if_neg hfilled).trans ?_, iff_of_true (equals_self nofun) trivial⟩
    rw [hflag, Option.map_some]
  | int =>
    -- Population keeps to 32 bits; a filter reads 64, and so it reads what population accepts.
    obtain ⟨n, hn, rfl⟩ := Option.map_eq_some_iff.1 h
    obtain ⟨m, hm, hwithin⟩ := Option.bind_eq_some_iff.1 hn
    obtain ⟨-, rfl⟩ := Number.within?_eq_some.1 hwithin
    refine ⟨.int m, (if_neg hfilled).trans ?_, iff_of_true ?_ trivial⟩
    · rw [hm, Option.map_some]
    · rw [(ofValue_int (Value.isSigned64_of_toSigned64? hm)).1]
      exact equals_self nofun
  | long =>
    obtain ⟨n, hn, rfl⟩ := Option.map_eq_some_iff.1 h
    refine ⟨.int n, (if_neg hfilled).trans ?_, iff_of_true ?_ trivial⟩
    · rw [hn, Option.map_some]
    · rw [(ofValue_int (Value.isSigned64_of_toSigned64? hn)).2]
      exact equals_self nofun
  | decimal =>
    obtain ⟨x, hx, rfl⟩ := Option.map_eq_some_iff.1 h
    refine ⟨.decimal x, (if_neg hfilled).trans ?_, iff_of_true (equals_self nofun) trivial⟩
    rw [hx, Option.map_some]
  | date =>
    obtain ⟨t, ht, rfl⟩ := Option.map_eq_some_iff.1 h
    refine ⟨.date t, (if_neg hfilled).trans ?_, ?_⟩
    · rw [ht, Option.map_some]
    · rw [ofValue_ofInstant (Value.isProper_of_toInstant? ht), FieldKind.readsAlike_date_iff ht]
      split
      · next hyear => exact iff_of_true (equals_self nofun) hyear
      · next hsigned => exact iff_of_false Bool.false_ne_true hsigned
  | enumeration variants =>
    obtain ⟨variant, hvariant, rfl⟩ := Option.map_eq_some_iff.1 h
    cases v with
    | text s =>
      -- The filter asks for the text as it stands, whatever variant population took it for.
      refine ⟨.text s, rfl, ?_⟩
      exact equals_text_iff.trans (readVariant?_text_iff hvariant)
    | int n =>
      refine ⟨.text variant, ?_, iff_of_true (equals_self nofun) trivial⟩
      exact congrArg (Option.map Scalar.text) hvariant
    | _ => cases hvariant
  | json => cases hscalar
  | map => cases hscalar
  | capability base => cases hscalar
  | childAction => cases hscalar
  | actionMap => cases hscalar
  | list inner => cases hscalar

end Scalar

/-! ## Filtering by a value that was populated -/

namespace FilterRule

variable {rule : FilterRule} {schema : RecordSchema} {field : FieldDescriptor}

/-- **Filters mirror population where both read a value alike.** A rule for equality on a field
asks something of records unless the name of the field is empty or the rule is skipped, and then a
record that was populated with the value of the rule is matched exactly when both readings of the
value agree. -/
theorem matches_populated_iff {scope : PopulateScope} {w : Value} {record : Record}
    (hfield : schema.field? field.name = some field) (hscalar : field.kind.isScalar = true)
    (hattr : rule.attr = some field.name) (htype : rule.type = some .equal)
    (hnull : rule.value.isNull = false)
    (hcoerce : scope.coerce field.kind rule.value = .ok (.scalar w))
    (hrecord : Keyed.get? field.name record = some w) :
    (rule.compile? schema = none ↔ field.name = "" ∨ rule.isSkipped = true) ∧
      ∀ predicate, rule.compile? schema = some predicate →
        (predicate.matches record = true ↔ field.kind.ReadsAlike rule.value) := by
  have hread : PopulateScope.readScalar? field.kind rule.value = some w := by
    rw [scope.coerce_of_isScalar hscalar, hnull] at hcoerce
    simp only [Bool.false_eq_true, if_false] at hcoerce
    split at hcoerce
    · next made hmade =>
      cases hcoerce
      exact hmade
    · cases hcoerce
  obtain ⟨wanted, hwanted, hequals⟩ := Scalar.equals_of_readScalar? hscalar hnull hread
  have hpredicate : compileType? field rule.value .equal =
      some (.compare field.name field.kind .equal wanted) := by
    rw [compileType?, compileComparison, hwanted]
  have hmatches : (Predicate.compare field.name field.kind .equal wanted).matches record =
      (Scalar.ofValue field.kind w).equals wanted := by
    rw [Predicate.matches, Predicate.valueOf, hrecord, Option.getD_some, FieldComparison.holds]
  rw [compile?_eq hfield hattr htype, hpredicate]
  constructor
  · split
    · next hskipped => exact iff_of_true rfl hskipped
    · next hasked => exact iff_of_false (Option.some_ne_none _) hasked
  · intro predicate hsome
    split at hsome
    · cases hsome
    · cases hsome
      rw [hmatches]
      exact hequals

/-! ### Calls by method and time -/

/-- The methods of calls. -/
def callMethod : FieldDescriptor := .plain "method" (.enumeration ["Get", "Post"])

/-- The times of calls. -/
def callTime : FieldDescriptor := .plain "time" .date

/-- Calls with a method and a time. -/
def calls : RecordSchema := { name := "Call", primaryKey := "id", fields := [callMethod, callTime] }

/-- What population looks at when nothing is registered. -/
def bareScope : PopulateScope := Registry.scope {} .empty

/-- The calls of which a field equals a value. -/
def callsWith (name : String) (v : Value) : FilterRule :=
  { attr := some name, type := some .equal, value := v }

/-- Calls of the last second that has a year of four digits are found by it. -/
theorem matches_last_second :
    (Value.int 253402300799).isNull = false ∧
      bareScope.coerce .date (.int 253402300799) =
        .ok (.scalar (.text "9999-12-31T23:59:59+00:00")) ∧
      ∃ predicate, (callsWith "time" (.int 253402300799)).compile? calls = some predicate ∧
        predicate.matches [("time", .text "9999-12-31T23:59:59+00:00")] = true := by
  have hcoerce : bareScope.coerce .date (.int 253402300799) =
      .ok (.scalar (.text "9999-12-31T23:59:59+00:00")) := by rfl
  have hread : (Value.int 253402300799).toInstant? =
      some ⟨⟨9999, 12, 31, by decide⟩, 86399, 0⟩ := by rfl
  obtain ⟨-, hmatches⟩ := @matches_populated_iff (callsWith "time" (.int 253402300799)) calls
    callTime bareScope (.text "9999-12-31T23:59:59+00:00")
    [("time", .text "9999-12-31T23:59:59+00:00")] rfl rfl rfl rfl rfl hcoerce rfl
  refine ⟨rfl, hcoerce, _, rfl, (hmatches _ rfl).2 fun t ht => ?_⟩
  cases hread.symm.trans ht
  decide

/-- Whether every filter for a value of a kind matches the records that were populated with it. -/
def MirrorsPopulation (kind : FieldKind) : Prop :=
  ∀ (scope : PopulateScope) (schema : RecordSchema) (field : FieldDescriptor) (rule : FilterRule)
    (w : Value) (record : Record) (predicate : Predicate),
    schema.field? field.name = some field → field.kind = kind →
    rule.attr = some field.name → rule.type = some .equal → rule.value.isNull = false →
    scope.coerce kind rule.value = .ok (.scalar w) → Keyed.get? field.name record = some w →
    rule.compile? schema = some predicate → predicate.matches record = true

/-- **Filters do not mirror population on ordinals in texts and on far dates.** A call that was
populated with the method `"1"` has the method `Post` and is not found by `"1"`, and a call of the
first second of the year 10000 is not found by that second. -/
theorem not_mirrorsPopulation :
    ¬MirrorsPopulation callMethod.kind ∧ ¬MirrorsPopulation callTime.kind := by
  constructor
  · intro h
    have hmatches := h bareScope calls callMethod (callsWith "method" (.text "1"))
      (.text "Post") [("method", .text "Post")]
      (.compare "method" callMethod.kind .equal (.text "1")) rfl rfl rfl rfl rfl rfl rfl rfl
    exact absurd hmatches (by decide)
  · intro h
    have hmatches := h bareScope calls callTime (callsWith "time" (.int 253402300800))
      (.text "+10000-01-01T00:00:00+00:00") [("time", .text "+10000-01-01T00:00:00+00:00")]
      (.compare "time" .date .equal (.date ⟨⟨10000, 1, 1, by decide⟩, 0, 0⟩)) rfl rfl rfl rfl rfl
      rfl rfl rfl
    exact absurd hmatches (by decide)

end FilterRule

end Flowgraph

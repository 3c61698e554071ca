import Flowgraph.Proofs.Query.Membership
/-!
# Filter operators agree with each other

What rules of every type with one value say of one record. Two values of a scalar kind are ordered
unless one of them is null (`Scalar.exists_order?`), and only null is read as null
(`Scalar.isNull_of_read?`), so that a comparison of two such values is decided by their order alone
(`FieldComparison.holds_of_order?`), while no ordering holds of null
(`FieldComparison.not_holds_of_isNull`). With the value that cannot be read as the kind of the field
and the searches in a text these are the laws between the operators, `FilterRule.Coherent`.
-/

namespace Flowgraph

/-! ## Scalars of one kind -/

namespace Scalar

variable {kind : FieldKind} {v w : Value} {wanted : Scalar}

/-- Two values of a scalar kind are ordered unless one of them is null. -/
theorem exists_order? (h : kind.isScalar = true) (hv : (ofValue kind v).isNull = false)
    (hw : (ofValue kind w).isNull = false) :
    ∃ order, (ofValue kind v).order? (ofValue kind w) = some order := by
  obtain ⟨α, _, _, wrap, read, -, horder, hread⟩ := exists_reading h
  rw [hread] at hv hw
  rw [hread, hread]
  cases hreadV : read v with
  | none =>
    rw [hreadV] at hv
    cases hv
  | some a =>
    cases hreadW : read w with
    | none =>
      rw [hreadW] at hw
      cases hw
    | some b => exact ⟨_, horder a b⟩

theorem ofValue_of_read? (h : read? kind v = some wanted) : ofValue kind v = wanted := by
  rw [ofValue, h, Option.getD_some]

/-- Only null is read as null. -/
theorem isNull_of_read? (h : read? kind v = some wanted) (hv : v ≠ .null) :
    wanted.isNull = false := by
  have hnull : ¬v.isNull = true := fun hnull => hv ((Value.isNull_iff v).1 hnull)
  have hwrap : ∀ {α : Type} {read : Option α} {wrap : α → Scalar},
      read.map wrap = some wanted → (∀ a, (wrap a).isNull = false) → wanted.isNull = false := by
    intro α read wrap hread hwrap
    obtain ⟨a, -, rfl⟩ := Option.map_eq_some_iff.1 hread
    exact hwrap a
  unfold read? at h
  rw [if_neg hnull] at h
  split at h
  · cases h
    rfl
  · exact hwrap h fun _ => rfl
  · exact hwrap h fun _ => rfl
  · exact hwrap h fun _ => rfl
  · exact hwrap h fun _ => rfl
  · exact hwrap h fun _ => rfl
  · unfold readVariant? at h
    split at h
    · exact hwrap h fun _ => rfl
    · cases h
      rfl
  · cases h
    rfl

end Scalar

/-! ## Comparisons and searches -/

namespace FieldComparison

/-- The type of the rule that asks for a comparison. -/
def type : FieldComparison → FilterType
  | equal => .equal
  | notEqual => .notEqual
  | greater => .greater
  | greaterOrEqual => .greaterOrEqual
  | less => .less
  | lessOrEqual => .lessOrEqual

/-- The comparisons that ask for an order. -/
def orderings : List FieldComparison :=
  [less, lessOrEqual, greater, greaterOrEqual]

variable {op : FieldComparison} {actual wanted : Scalar} {order : Ordering}

/-- A comparison of scalars that are ordered is decided by their order alone. -/
theorem holds_of_order? (h : actual.order? wanted = some order) (hactual : actual.isNull = false)
    (hwanted : wanted.isNull = false) : op.holds actual wanted = op.accepts order := by
  cases op with
  | equal =>
    rw [holds, Scalar.equals, h]
    cases order <;> rfl
  | notEqual =>
    rw [holds, Scalar.equals, h]
    cases order <;> rfl
  | _ => simp only [holds, hactual, hwanted, h, Bool.not_false, Bool.true_and, Option.any_some]

/-- No ordering holds of null. -/
theorem not_holds_of_isNull (hop : op ∈ orderings)
    (h : actual.isNull = true ∨ wanted.isNull = true) : op.holds actual wanted = false := by
  cases op with
  | equal => exact absurd hop (by decide)
  | notEqual => exact absurd hop (by decide)
  | _ => rcases h with h | h <;> simp only [holds, h, Bool.not_true, Bool.and_false, Bool.false_and]

end FieldComparison

/-- The type of the rule that asks for a search, or for its negation. -/
def TextMatch.type : TextMatch → (negated : Bool) → FilterType
  | contains, false => .contains
  | contains, true => .notContains
  | startsWith, false => .startsWith
  | startsWith, true => .notStartsWith
  | endsWith, false => .endsWith
  | endsWith, true => .notEndsWith

namespace FilterRule

section Matching

variable {field : FieldDescriptor} {v : Value} {record : Record} {wanted : Scalar}

theorem compileType?_comparison (op : FieldComparison) :
    compileType? field v op.type = some (compileComparison field v op) := by
  cases op <;> rfl

theorem compileType?_search (search : TextMatch) (negated : Bool) :
    compileType? field v (search.type negated) = compileText? field v search negated := by
  cases search <;> cases negated <;> rfl

theorem matches_compileComparison (hread : Scalar.read? field.kind v = some wanted)
    (op : FieldComparison) :
    (compileComparison field v op).matches record =
      op.holds (.ofValue field.kind (Predicate.valueOf field.name record)) wanted := by
  rw [compileComparison, hread]
  rfl

theorem not_matches_compileComparison (hread : Scalar.read? field.kind v = none)
    (op : FieldComparison) : (compileComparison field v op).matches record = false := by
  rw [compileComparison, hread]
  rfl

/-- Text fields are searched for a value that is not null. -/
theorem compileText?_eq_some (hkind : field.kind = .text) (hv : v ≠ .null) (search : TextMatch)
    (negated : Bool) :
    compileText? field v search negated = some (.text field.name search v.stringify negated) := by
  have hnull : v.isNull = false := Bool.eq_false_iff.2 fun h => hv ((Value.isNull_iff v).1 h)
  rw [compileText?, hkind, hnull]
  rfl

end Matching

/-! ## The laws between the operators -/

/-- What a rule, given a type, says of a record; `none` when it asks nothing. -/
def verdict? (rule : FilterRule) (schema : RecordSchema) (record : Record) (type : FilterType) :
    Option Bool :=
  ((rule.withType type).compile? schema).map fun predicate => predicate.matches record

/-- What makes the rules of all types with the value of a rule agree on a field of a record. -/
structure Coherent (rule : FilterRule) (schema : RecordSchema) (field : FieldDescriptor)
    (record : Record) : Prop where
  /-- A value that cannot be read as the kind of the field compares with nothing. -/
  unreadable : Scalar.read? field.kind rule.value = none →
    ∀ op : FieldComparison, rule.verdict? schema record op.type = some false
  negated : Scalar.read? field.kind rule.value ≠ none →
    ∃ equal, rule.verdict? schema record .equal = some equal ∧
      rule.verdict? schema record .notEqual = some !equal
  /-- Of two scalars that are not null, one is less, or they are equal, or one is greater. -/
  trichotomy : field.kind.isScalar = true → Scalar.read? field.kind rule.value ≠ none →
    rule.value ≠ .null →
    (Scalar.ofValue field.kind (Predicate.valueOf field.name record)).isNull = false →
    [FilterType.less, .equal, .greater].countP
        (fun type => rule.verdict? schema record type = some true) = 1 ∧
      (rule.verdict? schema record .greaterOrEqual = some true ↔
        rule.verdict? schema record .greater = some true ∨
          rule.verdict? schema record .equal = some true) ∧
      (rule.verdict? schema record .lessOrEqual = some true ↔
        rule.verdict? schema record .less = some true ∨
          rule.verdict? schema record .equal = some true)
  /-- No ordering holds of null. -/
  null : rule.value = .null ∨
      (Scalar.ofValue field.kind (Predicate.valueOf field.name record)).isNull = true →
    ∀ op ∈ FieldComparison.orderings, rule.verdict? schema record op.type = some false
  /-- A stored text is found by a search or by its negation. -/
  text : field.kind = .text → rule.value ≠ .null →
    ∀ s, Predicate.valueOf field.name record = .text s → ∀ search : TextMatch,
      rule.verdict? schema record (search.type false) = some (search.holds s rule.value.stringify) ∧
        rule.verdict? schema record (search.type true) =
          some !search.holds s rule.value.stringify
  /-- Nothing else that is stored is found by either of them. -/
  notText : field.kind = .text → rule.value ≠ .null →
    (∀ s, Predicate.valueOf field.name record ≠ .text s) → ∀ (search : TextMatch) (negated : Bool),
      rule.verdict? schema record (search.type negated) = some false

variable {rule : FilterRule} {schema : RecordSchema} {field : FieldDescriptor} {record : Record}

section Verdicts

variable {wanted : Scalar} (hfield : schema.field? field.name = some field)
  (hname : field.name ≠ "") (hattr : rule.attr = some field.name)
  (hasked : rule.isSkipped = false)

include hfield hname hattr hasked

theorem verdict?_comparison (hread : Scalar.read? field.kind rule.value = some wanted)
    (op : FieldComparison) : rule.verdict? schema record op.type =
      some (op.holds (.ofValue field.kind (Predicate.valueOf field.name record)) wanted) := by
  rw [verdict?, compile?_withType rule hfield hname hattr hasked, compileType?_comparison,
    Option.map_some, matches_compileComparison hread]

/-- The verdicts on two scalars of a kind that are not null are those of their order. -/
theorem verdict?_of_isScalar (hscalar : field.kind.isScalar = true)
    (hread : Scalar.read? field.kind rule.value = some wanted) (hvalue : rule.value ≠ .null)
    (hactual : (Scalar.ofValue field.kind (Predicate.valueOf field.name record)).isNull = false) :
    ∃ order, ∀ op : FieldComparison,
      rule.verdict? schema record op.type = some (op.accepts order) := by
  have hwanted : wanted.isNull = false := Scalar.isNull_of_read? hread hvalue
  obtain ⟨order, horder⟩ := Scalar.exists_order? (w := rule.value) hscalar hactual
    (by rwa [Scalar.ofValue_of_read? hread])
  rw [Scalar.ofValue_of_read? hread] at horder
  exact ⟨order, fun op => (verdict?_comparison hfield hname hattr hasked hread op).trans
    (congrArg some (FieldComparison.holds_of_order? horder hactual hwanted))⟩

theorem verdict?_unreadable (hread : Scalar.read? field.kind rule.value = none)
    (op : FieldComparison) : rule.verdict? schema record op.type = some false := by
  rw [verdict?, compile?_withType rule hfield hname hattr hasked, compileType?_comparison,
    Option.map_some, not_matches_compileComparison hread]

theorem verdict?_search (hkind : field.kind = .text) (hvalue : rule.value ≠ .null)
    (search : TextMatch) (negated : Bool) :
    rule.verdict? schema record (search.type negated) =
      some ((Predicate.text field.name search rule.value.stringify negated).matches record) := by
  rw [verdict?, compile?_withType rule hfield hname hattr hasked, compileType?_search,
    compileText?_eq_some hkind hvalue, Option.map_some]

end Verdicts

/-- **The operators agree with each other** on a declared field of a name, unless the rule is
skipped because its value is empty. -/
theorem operators_coherent (hfield : schema.field? field.name = some field)
    (hname : field.name ≠ "") (hattr : rule.attr = some field.name)
    (hasked : rule.isSkipped = false) : rule.Coherent schema field record where
  unreadable := verdict?_unreadable hfield hname hattr hasked
  negated hne := by
    obtain ⟨wanted, hread⟩ := Option.ne_none_iff_exists'.1 hne
    have hholds : ∀ op : FieldComparison, rule.verdict? schema record op.type = some _ :=
      verdict?_comparison hfield hname hattr hasked hread
    exact ⟨_, hholds .equal, hholds .notEqual⟩
  trichotomy hscalar hne hvalue hactual := by
    obtain ⟨wanted, hread⟩ := Option.ne_none_iff_exists'.1 hne
    obtain ⟨order, haccepts⟩ :=
      verdict?_of_isScalar hfield hname hattr hasked hscalar hread hvalue hactual
    have hless := haccepts .less
    have hlessOrEqual := haccepts .lessOrEqual
    have hequal := haccepts .equal
    have hgreater := haccepts .greater
    have hgreaterOrEqual := haccepts .greaterOrEqual
    simp only [FieldComparison.type] at hless hlessOrEqual hequal hgreater hgreaterOrEqual
    simp only [List.countP_cons, List.countP_nil, hless, hlessOrEqual, hequal, hgreater,
      hgreaterOrEqual]
    cases order <;> decide
  null h op hop := by
    cases hread : Scalar.read? field.kind rule.value with
    | none => exact verdict?_unreadable hfield hname hattr hasked hread op
    | some wanted =>
      rw [verdict?_comparison hfield hname hattr hasked hread]
      refine congrArg some (FieldComparison.not_holds_of_isNull hop (h.symm.imp_right ?_))
      intro hvalue
      rw [hvalue] at hread
      cases hread
      rfl
  text hkind hvalue s hstored search := by
    rw [verdict?_search hfield hname hattr hasked hkind hvalue,
      verdict?_search hfield hname hattr hasked hkind hvalue]
    simp only [Predicate.matches, hstored, Bool.bne_false, Bool.bne_true, and_self]
  notText hkind hvalue hstored search negated := by
    rw [verdict?_search hfield hname hattr hasked hkind hvalue]
    -- The last branch of a search, by `hstored`.
    simp only [Predicate.matches]

/-! ### People older than somebody -/

/-- Asks about an age, written as a text. -/
def writtenAge : FilterRule := { attr := some "age", value := .text "21" }

/-- Somebody of thirty is older than that, and therefore at least as old. -/
theorem operators_coherent_people :
    people.field? age.name = some age ∧ age.name ≠ "" ∧ writtenAge.attr = some age.name ∧
      writtenAge.isSkipped = false ∧
      writtenAge.verdict? people [("age", .int 30)] .greater = some true ∧
      writtenAge.verdict? people [("age", .int 30)] .greaterOrEqual = some true := by
  have hcoherent : writtenAge.Coherent people age [("age", .int 30)] :=
    operators_coherent rfl (by decide) rfl rfl
  have hgreater : writtenAge.verdict? people [("age", .int 30)] .greater = some true := rfl
  obtain ⟨-, hgreaterOrEqual, -⟩ := hcoherent.trichotomy rfl nofun nofun rfl
  exact ⟨rfl, by decide, rfl, rfl, hgreater, hgreaterOrEqual.2 (.inl hgreater)⟩

end FilterRule

end Flowgraph

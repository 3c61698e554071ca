import Flowgraph.Proofs.Query.Order
/-!
# Membership rules

A membership rule looks for a field among the items of its value: the items of a list, the pieces of
a text between commas, or the value itself (`FilterRule.Item`). It matches the records that a rule
for equality with some item matches, its negation matches the other ones, and an item that cannot be
read as the kind of the field is equal to no record (`matches_membership_iff`).
-/

namespace Flowgraph

/-! ## Equality of scalars -/

namespace Scalar

/-- Comparing from the other side turns the order around. -/
theorem order?_swap (a b : Scalar) : b.order? a = (a.order? b).map Ordering.swap := by
  cases a with
  | null => cases b <;> rfl
  | bool x =>
    cases b with
    | bool y => exact congrArg some Std.OrientedOrd.eq_swap
    | _ => rfl
  | int n =>
    cases b with
    | int m => exact congrArg some Std.OrientedOrd.eq_swap
    | decimal y => exact congrArg some (Binary64.compare_swap _ _).symm
    | _ => rfl
  | decimal x =>
    cases b with
    | int m => exact congrArg some (Binary64.compare_swap _ _).symm
    | decimal y => exact congrArg some (Binary64.compare_swap x y).symm
    | _ => rfl
  | text s =>
    cases b with
    | text t => exact congrArg some Std.OrientedOrd.eq_swap
    | _ => rfl
  | date t =>
    cases b with
    | date u => exact congrArg some (Std.OrientedOrd.eq_swap (α := Instant))
    | _ => rfl
  | json v =>
    cases b with
    | json w =>
      have hcomm : (w == v) = (v == w) := Value.beq_comm w v
      rw [order?, order?, hcomm]
      split <;> rfl
    | _ => rfl

/-- Equality does not depend on the side. -/
theorem equals_comm (a b : Scalar) : a.equals b = b.equals a := by
  rw [equals, equals, order?_swap a b]
  cases a.order? b with
  | none => rfl
  | some order => cases order <;> rfl

end Scalar

namespace FilterRule

/-! ## The items of a value -/

/-- What a membership rule looks among: the items of a list, the pieces of a text between commas,
and any other value but null by itself. -/
inductive Item : Value → Value → Prop
  | ofList {items : List Value} {item : Value} (h : item ∈ items) : Item (.list items) item
  | ofText {pieces : List (List Char)} {piece : List Char}
    (hfree : ∀ piece ∈ pieces, ',' ∉ piece) (h : piece ∈ pieces) :
    Item (.text (String.ofList ([','].intercalate pieces))) (.text (String.ofList piece))
  | alone {v : Value} (hnull : v.isNull = false) (hlist : v.items? = none)
    (htext : v.text? = none) : Item v v

theorem notMem_of_mem_splitOn {α : Type} [DecidableEq α] {mark : α} {as piece : List α}
    (h : piece ∈ as.splitOn mark) : mark ∉ piece := by
  induction as generalizing piece with
  | nil =>
    rw [List.splitOn_nil, List.mem_singleton] at h
    rw [h]
    exact List.not_mem_nil
  | cons a rest ih =>
    rw [List.splitOn_cons_eq_if_modifyHead] at h
    split at h
    · rcases List.mem_cons.1 h with rfl | h
      · exact List.not_mem_nil
      · exact ih h
    · next hne =>
      cases hpieces : rest.splitOn mark with
      | nil =>
        rw [hpieces] at h
        cases h
      | cons first others =>
        rw [hpieces] at h ih
        rcases List.mem_cons.1 h with rfl | h
        · rw [List.mem_cons, not_or]
          exact ⟨fun heq => hne (beq_iff_eq.2 heq.symm), ih List.mem_cons_self⟩
        · exact ih (List.mem_cons_of_mem _ h)

/-- A membership rule looks among the items of its value. -/
theorem mem_memberValues_iff {v item : Value} : item ∈ memberValues v ↔ Item v item := by
  have halone : v.isNull = false → v.items? = none → v.text? = none → memberValues v = [v] →
      (item ∈ memberValues v ↔ Item v item) := by
    intro hnull hlist htext hvalues
    rw [hvalues, List.mem_singleton]
    constructor
    · rintro rfl
      exact .alone hnull hlist htext
    · intro h
      cases h with
      | ofList => cases hlist
      | ofText => cases htext
      | alone => rfl
  cases v with
  | null =>
    refine iff_of_false List.not_mem_nil fun h => ?_
    cases h with
    | alone hnull => cases hnull
  | list items =>
    constructor
    · exact .ofList
    · intro h
      cases h with
      | ofList h => exact h
      | alone _ hlist => cases hlist
  | text s =>
    simp only [memberValues, List.mem_map]
    constructor
    · rintro ⟨piece, hpiece, rfl⟩
      have hitem := Item.ofText (fun piece => notMem_of_mem_splitOn) hpiece
      rwa [List.intercalate_splitOn, String.ofList_toList] at hitem
    · intro h
      cases h with
      | ofText hfree hpiece =>
        refine ⟨_, ?_, rfl⟩
        rwa [String.toList_ofList, List.splitOn_intercalate _ hfree (List.ne_nil_of_mem hpiece)]
      | alone _ _ htext => cases htext
  | bool flag => exact halone rfl rfl rfl rfl
  | int n => exact halone rfl rfl rfl rfl
  | float x => exact halone rfl rfl rfl rfl
  | map fields => exact halone rfl rfl rfl rfl

/-! ## Matching -/

section Matching

variable {field : FieldDescriptor} {v item : Value} {record : Record}

/-- A record equals a value that can be read as the kind of the field. -/
theorem matches_compileComparison_iff :
    (compileComparison field item .equal).matches record = true ↔
      ∃ wanted, Scalar.read? field.kind item = some wanted ∧
        wanted.equals (.ofValue field.kind (Predicate.valueOf field.name record)) = true := by
  rw [compileComparison]
  cases Scalar.read? field.kind item with
  | none =>
    refine iff_of_false Bool.false_ne_true ?_
    rintro ⟨wanted, hread, -⟩
    cases hread
  | some wanted =>
    have hmatches : (Predicate.compare field.name field.kind .equal wanted).matches record =
        wanted.equals (.ofValue field.kind (Predicate.valueOf field.name record)) :=
      Scalar.equals_comm _ _
    simp only [hmatches, Option.some.injEq, exists_eq_left']

/-- A record is a member when it equals an item. -/
theorem matches_compileMembership_iff :
    (compileMembership field v false).matches record = true ↔
      ∃ item, Item v item ∧ (compileComparison field item .equal).matches record = true := by
  have hmatches : (compileMembership field v false).matches record =
      ((memberValues v).filterMap (Scalar.read? field.kind)).any
        (fun member => member.equals (.ofValue field.kind (Predicate.valueOf field.name record))) :=
    Bool.bne_false _
  simp only [hmatches, List.any_eq_true, List.mem_filterMap, mem_memberValues_iff,
    matches_compileComparison_iff]
  constructor
  · rintro ⟨wanted, ⟨item, hitem, hread⟩, hequals⟩
    exact ⟨item, hitem, wanted, hread, hequals⟩
  · rintro ⟨item, hitem, wanted, hread, hequals⟩
    exact ⟨wanted, ⟨item, hitem, hread⟩, hequals⟩

theorem matches_compileMembership_true :
    (compileMembership field v true).matches record =
      !(compileMembership field v false).matches record := by
  simp only [compileMembership, Predicate.matches, Bool.bne_true, Bool.bne_false]

end Matching

/-- The rule with another type. -/
def withType (rule : FilterRule) (type : FilterType) : FilterRule :=
  { rule with type := some type }

/-- The rule for equality of an attribute with a value. -/
def equalTo (attr : String) (v : Value) : FilterRule :=
  { attr := some attr, type := some .equal, value := v }

variable {rule : FilterRule} {schema : RecordSchema} {field : FieldDescriptor} {record : Record}

/-- A rule on a declared field of a name that is not skipped asks what its type says. -/
theorem compile?_withType (rule : FilterRule) (hfield : schema.field? field.name = some field)
    (hname : field.name ≠ "") (hattr : rule.attr = some field.name)
    (hasked : rule.isSkipped = false) (type : FilterType) :
    (rule.withType type).compile? schema = compileType? field rule.value type := by
  have hcompile : (rule.withType type).compile? schema =
      if field.name = "" ∨ rule.isSkipped = true then none
      else compileType? field rule.value type := compile?_eq hfield hattr rfl
  rw [hcompile, hasked, if_neg (not_or.2 ⟨hname, Bool.false_ne_true⟩)]

/-- **Membership is a disjunction of equalities.** Rules on a declared field of a name that are not
skipped because their value is empty ask something of records. A record is matched by the rule for
membership exactly when the rule for equality with some item of the value matches it, and by the
negated rule exactly when not; a rule for equality with an item that cannot be read as the kind of
the field matches no record. -/
theorem matches_membership_iff (hfield : schema.field? field.name = some field)
    (hname : field.name ≠ "") (hattr : rule.attr = some field.name)
    (hasked : rule.isSkipped = false) :
    ∃ isIn notIn,
      (rule.withType .isIn).compile? schema = some isIn ∧
      (rule.withType .notIn).compile? schema = some notIn ∧
      (isIn.matches record = true ↔
        ∃ item, Item rule.value item ∧ ∃ predicate,
          (equalTo field.name item).compile? schema = some predicate ∧
            predicate.matches record = true) ∧
      (notIn.matches record = true ↔ ¬isIn.matches record = true) ∧
      ∀ item, Item rule.value item → Scalar.read? field.kind item = none →
        ∃ predicate, (equalTo field.name item).compile? schema = some predicate ∧
          predicate.matches record = false := by
  have hequal : ∀ item, (equalTo field.name item).compile? schema =
      some (compileComparison field item .equal) :=
    fun item => compile?_withType { attr := some field.name, value := item } hfield hname rfl rfl
      .equal
  refine ⟨compileMembership field rule.value false, compileMembership field rule.value true,
    compile?_withType rule hfield hname hattr hasked .isIn,
    compile?_withType rule hfield hname hattr hasked .notIn, ?_, ?_,
    fun item _ hread => ⟨_, hequal item, ?_⟩⟩
  · simp only [hequal, Option.some.injEq, exists_eq_left']
    exact matches_compileMembership_iff
  · rw [matches_compileMembership_true, Bool.not_eq_true', Bool.not_eq_true]
  · rw [compileComparison, hread]
    rfl

/-! ### People by age -/

/-- The age of a person. -/
def age : FieldDescriptor := .plain "age" .int

/-- People have an age. -/
def people : RecordSchema := { name := "Person", primaryKey := "name", fields := [age] }

/-- Asks for ages of which one cannot be read. -/
def listedAges : FilterRule := { attr := some "age", value := .text "many,30" }

/-- Somebody of thirty is a member by the second age, and the first one matches nobody. -/
theorem matches_membership_people :
    people.field? age.name = some age ∧ age.name ≠ "" ∧ listedAges.attr = some age.name ∧
      listedAges.isSkipped = false ∧
      ∃ isIn notIn, (listedAges.withType .isIn).compile? people = some isIn ∧
        (listedAges.withType .notIn).compile? people = some notIn ∧
        isIn.matches [("age", .int 30)] = true ∧ notIn.matches [("age", .int 30)] = false := by
  obtain ⟨isIn, notIn, hisIn, hnotIn, hmatches, hnegated, -⟩ :=
    @matches_membership_iff listedAges people age [("age", .int 30)] rfl (by decide) rfl rfl
  have hitem : Item (.text "many,30") (.text "30") :=
    mem_memberValues_iff.1 (List.mem_of_getElem? (i := 1) rfl)
  have hmember : isIn.matches [("age", .int 30)] = true := hmatches.2 ⟨_, hitem, _, rfl, rfl⟩
  exact ⟨rfl, by decide, rfl, rfl, isIn, notIn, hisIn, hnotIn, hmember,
    Bool.eq_false_iff.2 fun h => hnegated.1 h hmember⟩

end FilterRule

end Flowgraph

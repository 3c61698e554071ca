import Flowgraph.Proofs.Query.Sorting
import Flowgraph.Proofs.Time.Order
/-!
# The order of a result

Values of one kind of field, null included, are totally preordered (`Scalar.transCmp_sortOrder`), so
each key of an order (`SortKey.transCmp_compare`) and a list of keys, the first one deciding
(`SortKey.transCmp_compareBy`), totally preorder the records.

What a key asks is said here without comparing anything: a value goes below another one if it is
null and the other is not, or if it is less (`Scalar.Below`); a record goes before another one if
its value goes below, or above where the direction is descending (`SortKey.Precedes`); and with
several keys, if it does so by one of them and the earlier keys do not tell the two apart
(`SortKey.Before`). The comparisons of the query are these relations (`compare_eq_lt_iff`,
`compareBy_eq_lt_iff`, `compareBy_eq_eq_iff`).

So the order of a query never contradicts itself, however it is asked
(`compareRecords_totalPreorder`).
-/

namespace Flowgraph

/-! ## Values of one kind -/

instance : Ord Binary64 := ⟨Binary64.compare⟩

instance : Std.TransOrd Binary64 :=
  inferInstanceAs (Std.TransCmp (compareOn Binary64.key))

namespace Scalar

/-- Whether a scalar goes below another one: null below everything else, and what is less below what
is more. -/
inductive Below : Scalar → Scalar → Prop
  | null {b : Scalar} (h : b.isNull = false) : Below .null b
  | less {a b : Scalar} (h : a.order? b = some .lt) : Below a b

theorem sortOrder_eq_lt_iff {a b : Scalar} : a.sortOrder b = .lt ↔ a.Below b := by
  constructor
  · intro h
    cases ha : a.isNull with
    | true =>
      cases a <;> cases ha
      cases hb : b.isNull with
      | true =>
        rw [sortOrder, hb] at h
        cases h
      | false => exact .null hb
    | false =>
      cases hb : b.isNull with
      | true =>
        rw [sortOrder, ha, hb] at h
        cases h
      | false =>
        simp only [sortOrder, ha, hb] at h
        cases horder : a.order? b with
        | none =>
          rw [horder] at h
          cases h
        | some order =>
          rw [horder, Option.getD_some] at h
          exact .less (horder.trans (congrArg some h))
  · intro h
    cases h with
    | null hb =>
      rw [sortOrder, hb]
      rfl
    | less horder =>
      cases a <;> cases b <;> first | cases horder | simp only [sortOrder, isNull, horder]; rfl

section Kinds

variable {kind : FieldKind}

/-- A kind whose scalars are all made of something that is totally preordered is so itself. -/
theorem transCmp_of_wrap {α κ : Type} [Ord κ] [Std.TransOrd κ] (wrap : α → Scalar) (place : α → κ)
    (hnull : ∀ a, (wrap a).isNull = false)
    (horder : ∀ a b, ((wrap a).order? (wrap b)).getD .eq = compare (place a) (place b))
    (read : Value → Option α) (hread : ∀ v, ofValue kind v = ((read v).map wrap).getD .null) :
    Std.TransCmp fun v w => (ofValue kind v).sortOrder (ofValue kind w) := by
  have hplaces : (fun v w => (ofValue kind v).sortOrder (ofValue kind w)) =
      compareOn fun v => (read v).map place := by
    funext v w
    rw [hread, hread, compareOn]
    cases read v with
    | none =>
      cases read w with
      | none => rfl
      | some b => simp only [Option.map_some, Option.getD_some, sortOrder, hnull]; rfl
    | some a =>
      cases read w with
      | none => simp only [Option.map_some, Option.getD_some, sortOrder, hnull]; rfl
      | some b => simp only [Option.map_some, Option.getD_some, sortOrder, hnull]; exact horder a b
  rw [hplaces]
  infer_instance

/-- The values of a scalar kind other than null are made by one constructor from something that is
totally preordered, and are ordered as that is. -/
theorem exists_reading (h : kind.isScalar = true) :
    ∃ (α : Type) (_ : Ord α) (_ : Std.TransOrd α) (wrap : α → Scalar) (read : Value → Option α),
      (∀ a, (wrap a).isNull = false) ∧ (∀ a b, (wrap a).order? (wrap b) = some (compare a b)) ∧
        ∀ v, ofValue kind v = ((read v).map wrap).getD .null := by
  cases kind with
  | text =>
    exact ⟨_, _, inferInstance, text, fun v => if v.isNull then none else some v.stringify,
      fun _ => rfl, fun _ _ => rfl, fun v => by cases v <;> rfl⟩
  | bool =>
    exact ⟨_, _, inferInstance, bool, Value.toBool?, fun _ => rfl, fun _ _ => rfl,
      fun v => by cases v <;> rfl⟩
  | int =>
    exact ⟨_, _, inferInstance, int, Value.toSigned64?, fun _ => rfl, fun _ _ => rfl,
      fun v => by cases v <;> rfl⟩
  | long =>
    exact ⟨_, _, inferInstance, int, Value.toSigned64?, fun _ => rfl, fun _ _ => rfl,
      fun v => by cases v <;> rfl⟩
  | decimal =>
    exact ⟨_, _, inferInstance, decimal, Value.toDecimal?, fun _ => rfl, fun _ _ => rfl,
      fun v => by cases v <;> rfl⟩
  | date =>
    exact ⟨_, _, inferInstance, date, Value.toInstant?, fun _ => rfl, fun _ _ => rfl,
      fun v => by cases v <;> rfl⟩
  | enumeration variants =>
    exact ⟨_, _, inferInstance, text, fun v =>
        if v.isNull then none
        else if v.isNumber then v.unsigned64?.bind fun ordinal => variants[ordinal]?
        else some v.stringify,
      fun _ => rfl, fun _ _ => rfl, fun v => by cases v <;> rfl⟩
  | _ => cases h

/-- The values of a kind that is not scalar are documents as they are, all equal for sorting. -/
theorem transCmp_of_json (h : ∀ v, ofValue kind v = if v.isNull then .null else .json v) :
    Std.TransCmp fun v w => (ofValue kind v).sortOrder (ofValue kind w) := by
  refine transCmp_of_wrap json (fun _ => 0) (fun _ => rfl) (fun a b => ?_)
    (fun v => if v.isNull then none else some v) (fun v => ?_)
  · rw [order?]
    split <;> rfl
  · rw [h]
    split <;> rfl

end Kinds

/-- **The values of one kind are totally preordered.** -/
theorem transCmp_sortOrder (kind : FieldKind) :
    Std.TransCmp fun v w => (ofValue kind v).sortOrder (ofValue kind w) := by
  cases hscalar : kind.isScalar with
  | true =>
    obtain ⟨α, _, _, wrap, read, hnull, horder, hread⟩ := exists_reading hscalar
    exact transCmp_of_wrap wrap id hnull (fun a b => by rw [horder]; rfl) read hread
  | false =>
    refine transCmp_of_json fun v => ?_
    cases kind <;> first | cases hscalar; done | cases v <;> rfl

end Scalar

/-! ## One key -/

namespace SortKey

/-- The value by which a key places a record. -/
def valueOf (key : SortKey) (record : Record) : Scalar :=
  .ofValue key.kind (Predicate.valueOf key.field record)

/-- Whether a record goes before another one by a key. -/
def Precedes (key : SortKey) (a b : Record) : Prop :=
  match key.direction with
  | .ascending => (key.valueOf a).Below (key.valueOf b)
  | .descending => (key.valueOf b).Below (key.valueOf a)

/-- Whether a key does not tell two records apart. -/
def Ties (key : SortKey) (a b : Record) : Prop :=
  ¬key.Precedes a b ∧ ¬key.Precedes b a

/-- **A key totally preorders the records.** -/
instance transCmp_compare (key : SortKey) : Std.TransCmp key.compare := by
  have hkind := Scalar.transCmp_sortOrder key.kind
  have hrecords : Std.TransCmp fun a b => (key.valueOf a).sortOrder (key.valueOf b) :=
    { eq_swap := hkind.eq_swap, isLE_trans := hkind.isLE_trans }
  cases hdirection : key.direction with
  | ascending =>
    have hcompare : key.compare = fun a b => (key.valueOf a).sortOrder (key.valueOf b) := by
      funext a b
      simp only [compare, hdirection]
      rfl
    rw [hcompare]
    exact hrecords
  | descending =>
    have hcompare : key.compare = fun a b => (key.valueOf b).sortOrder (key.valueOf a) := by
      funext a b
      simp only [compare, hdirection]
      rfl
    rw [hcompare]
    exact @Std.TransCmp.opposite _ _ hrecords

variable {key : SortKey} {a b : Record}

theorem compare_eq_lt_iff : key.compare a b = .lt ↔ key.Precedes a b := by
  simp only [compare, Precedes]
  cases key.direction <;> exact Scalar.sortOrder_eq_lt_iff

theorem compare_eq_eq_iff : key.compare a b = .eq ↔ key.Ties a b := by
  have hswap : key.compare b a = (key.compare a b).swap := Std.OrientedCmp.eq_swap
  rw [Ties, ← compare_eq_lt_iff, ← compare_eq_lt_iff, hswap]
  cases key.compare a b <;> simp

/-! ## Several keys -/

/-- The order by several keys: the first one that tells two records apart decides. -/
def compareBy : List SortKey → Record → Record → Ordering
  | [] => fun _ _ => .eq
  | key :: later => compareLex key.compare (compareBy later)

/-- Whether a record goes before another one by the first key that tells them apart. -/
inductive Before : List SortKey → Record → Record → Prop
  | here {key : SortKey} {later : List SortKey} {a b : Record} (h : key.Precedes a b) :
    Before (key :: later) a b
  | later {key : SortKey} {later : List SortKey} {a b : Record} (htie : key.Ties a b)
    (h : Before later a b) : Before (key :: later) a b

instance transCmp_compareBy : (keys : List SortKey) → Std.TransCmp (compareBy keys)
  | [] => { eq_swap := rfl, isLE_trans := fun _ _ => rfl }
  | key :: later =>
    have := transCmp_compareBy later
    inferInstanceAs (Std.TransCmp (compareLex key.compare (compareBy later)))

variable {keys : List SortKey}

theorem compareBy_eq_lt_iff : compareBy keys a b = .lt ↔ Before keys a b := by
  induction keys with
  | nil => exact iff_of_false nofun nofun
  | cons key later ih =>
    rw [compareBy, compareLex, Ordering.then_eq_lt, compare_eq_lt_iff, compare_eq_eq_iff, ih]
    constructor
    · rintro (hprecedes | ⟨hties, hbefore⟩)
      · exact .here hprecedes
      · exact .later hties hbefore
    · intro h
      cases h with
      | here hprecedes => exact .inl hprecedes
      | later hties hbefore => exact .inr ⟨hties, hbefore⟩

theorem compareBy_eq_eq_iff : compareBy keys a b = .eq ↔ ∀ key ∈ keys, key.Ties a b := by
  induction keys with
  | nil => exact iff_of_true rfl nofun
  | cons key later ih =>
    rw [compareBy, compareLex, Ordering.then_eq_eq, compare_eq_eq_iff, ih, List.forall_mem_cons]

theorem isLE_compareBy_iff : (compareBy keys a b).isLE = true ↔ ¬Before keys b a := by
  have hswap : compareBy keys b a = (compareBy keys a b).swap := Std.OrientedCmp.eq_swap
  rw [← compareBy_eq_lt_iff, hswap]
  cases compareBy keys a b <;> simp

end SortKey

namespace CompiledQuery

/-- A query orders records by its keys. -/
theorem compareRecords_eq (query : CompiledQuery) :
    query.compareRecords = SortKey.compareBy query.sorts := by
  funext a b
  rw [compareRecords]
  induction query.sorts with
  | nil => rfl
  | cons key later ih =>
    rw [List.foldr_cons, ih]
    rfl

/-! ## The order of a query -/

instance transCmp_compareRecords (query : CompiledQuery) : Std.TransCmp query.compareRecords := by
  rw [compareRecords_eq]
  infer_instance

/-- **The order of a query is a total preorder**, whatever its keys are and whatever stands in the
records. A record is equal to itself, swapping two records reverses their order, going before or
being equal is transitive, and so is each of the three answers. Hence, however a sort asks for the
order of some records, it hears how the numbers of records that go before them compare. -/
theorem compareRecords_totalPreorder (query : CompiledQuery) :
    (∀ a, query.compareRecords a a = .eq) ∧
      (∀ a b, query.compareRecords b a = (query.compareRecords a b).swap) ∧
      (∀ a b c, (query.compareRecords a b).isLE = true → (query.compareRecords b c).isLE = true →
        (query.compareRecords a c).isLE = true) ∧
      (∀ a b c answer, query.compareRecords a b = answer → query.compareRecords b c = answer →
        query.compareRecords a c = answer) ∧
      ∀ records : List Record, ∀ a ∈ records, ∀ b ∈ records,
        query.compareRecords a b =
          compare (Query.countBefore query.compareRecords records a)
            (Query.countBefore query.compareRecords records b) := by
  refine ⟨fun a => Std.ReflCmp.compare_self, fun a b => Std.OrientedCmp.eq_swap,
    fun a b c => Std.TransCmp.isLE_trans, fun a b c answer hab hbc => ?_,
    fun records a ha b hb => Query.eq_compare_countBefore ha hb⟩
  cases answer with
  | lt => exact Std.TransCmp.lt_trans hab hbc
  | eq => exact Std.TransCmp.eq_trans hab hbc
  | gt => exact Std.TransCmp.gt_trans hab hbc

/-! ### Guests by age and name -/

def ada : Record := [("age", .int 30), ("name", .text "Ada")]

def bea : Record := [("age", .text "30"), ("name", .text "Bea")]

/-- A guest whose age cannot be read. -/
def cleo : Record := [("age", .text "unknown"), ("name", .text "Cleo")]

/-- The oldest guests first, and those of one age by name. -/
def oldestFirst : CompiledQuery where
  sorts := [⟨"age", .int, .descending⟩, ⟨"name", .text, .ascending⟩]

/-- Ada goes before Bea by her name and Bea before Cleo by her age, so Ada goes before Cleo, and
fewer guests go before her. -/
theorem compareRecords_totalPreorder_guests :
    oldestFirst.compareRecords ada bea = .lt ∧ oldestFirst.compareRecords bea cleo = .lt ∧
      oldestFirst.compareRecords ada cleo = .lt ∧ ada ∈ [cleo, bea, ada] ∧ cleo ∈ [cleo, bea, ada] ∧
      compare (Query.countBefore oldestFirst.compareRecords [cleo, bea, ada] ada)
        (Query.countBefore oldestFirst.compareRecords [cleo, bea, ada] cleo) = .lt := by
  have hfirst : oldestFirst.compareRecords ada bea = .lt := rfl
  have hsecond : oldestFirst.compareRecords bea cleo = .lt := rfl
  obtain ⟨-, -, -, htrans, hnumbers⟩ := compareRecords_totalPreorder oldestFirst
  have hboth : oldestFirst.compareRecords ada cleo = .lt := htrans _ _ _ _ hfirst hsecond
  have hada : ada ∈ [cleo, bea, ada] := by simp
  have hcleo : cleo ∈ [cleo, bea, ada] := by simp
  exact ⟨hfirst, hsecond, hboth, hada, hcleo, (hnumbers _ _ hada _ hcleo).symm.trans hboth⟩

end CompiledQuery

end Flowgraph

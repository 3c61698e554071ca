import Flowgraph.Query.Compiled
/-!
# Stable sorting

The stable sort by an order that is oriented and transitive ascends (`pairwise_mergeSort_isLE`) and
leaves elements that are equal to each other as they stood (`filter_mergeSort`). There is only one
such rearrangement of a list (`eq_of_pairwise`). So sorting by two orders, the first one deciding,
is sorting by the second and then by the first (`mergeSort_compareLex`).

On the elements of a list such an order answers what the numbers of the elements that go before them
answer (`eq_compare_countBefore`), so that no comparison contradicts another one.
-/

namespace Flowgraph.Query

variable {α : Type} {order : α → α → Ordering}

/-! ## The order -/

/-- Whether an element is equal to a given one. -/
def ties (order : α → α → Ordering) (a b : α) : Bool :=
  order a b == .eq

/-- How many elements of a list go before an element. -/
def countBefore (order : α → α → Ordering) (as : List α) (a : α) : Nat :=
  as.countP fun b => order b a == .lt

section Order

variable [Std.TransCmp order]

theorem isLE_total (a b : α) : ((order a b).isLE || (order b a).isLE) = true := by
  have hswap : order b a = (order a b).swap := Std.OrientedCmp.eq_swap
  rw [hswap]
  cases order a b <;> rfl

theorem isLE_self (a : α) : (order a a).isLE = true := by
  have hself : order a a = .eq := Std.ReflCmp.compare_self
  rw [hself]
  rfl

/-- **A sorted list ascends.** -/
theorem pairwise_mergeSort_isLE (as : List α) :
    (as.mergeSort fun a b => (order a b).isLE).Pairwise fun a b => (order a b).isLE = true :=
  List.pairwise_mergeSort (fun _ _ _ => Std.TransCmp.isLE_trans) isLE_total as

/-- **Equal elements keep their order.** -/
theorem filter_mergeSort {p : α → Bool} (hp : ∀ a b, p a = true → p b = true → order a b = .eq)
    (as : List α) : (as.mergeSort fun a b => (order a b).isLE).filter p = as.filter p := by
  have hascends : (as.filter p).Pairwise fun a b => (order a b).isLE = true := by
    refine List.Pairwise.imp_of_mem ?_ (List.pairwise_of_forall fun _ _ => trivial)
    intro a b ha hb _
    rw [hp a b (List.mem_filter.1 ha).2 (List.mem_filter.1 hb).2]
    rfl
  have hsublist := (List.sublist_mergeSort (fun _ _ _ => Std.TransCmp.isLE_trans) isLE_total
    hascends List.filter_sublist).filter p
  rw [List.filter_filter, List.filter_congr (q := p) fun a _ => Bool.and_self (p a)] at hsublist
  exact (hsublist.eq_of_length ((List.mergeSort_perm as _).filter p).length_eq.symm).symm

/-! ## There is only one sorted list -/

theorem ties_self (a : α) : ties order a a = true :=
  beq_iff_eq.2 Std.ReflCmp.compare_self

/-- The elements that are equal to one element are equal to each other. -/
theorem eq_of_ties (c a b : α) (ha : ties order c a = true) (hb : ties order c b = true) :
    order a b = .eq :=
  Std.TransCmp.eq_trans (Std.OrientedCmp.eq_symm (beq_iff_eq.1 ha)) (beq_iff_eq.1 hb)

/-- An element stands among those that are equal to it. -/
theorem mem_of_filter_ties {as bs : List α} {a : α}
    (h : as.filter (ties order a) = bs.filter (ties order a)) (ha : a ∈ as) : a ∈ bs := by
  have hself : ties order a a = true := ties_self a
  have hmem := List.mem_filter.2 ⟨ha, hself⟩
  rw [h] at hmem
  exact (List.mem_filter.1 hmem).1

/-- The first element of an ascending list is not above any of them. -/
theorem isLE_of_mem_cons {a b : α} {as : List α}
    (h : (a :: as).Pairwise fun a b => (order a b).isLE = true) (hb : b ∈ a :: as) :
    (order a b).isLE = true := by
  rcases List.mem_cons.1 hb with rfl | hb
  · exact isLE_self b
  · exact List.rel_of_pairwise_cons h hb

/-- **Two lists are the same** if both ascend and have the same elements that are equal to any one,
in the same order. -/
theorem eq_of_pairwise {as bs : List α} (has : as.Pairwise fun a b => (order a b).isLE = true)
    (hbs : bs.Pairwise fun a b => (order a b).isLE = true)
    (hties : ∀ c, as.filter (ties order c) = bs.filter (ties order c)) : as = bs := by
  induction as generalizing bs with
  | nil =>
    cases bs with
    | nil => rfl
    | cons b bs =>
      exact absurd (mem_of_filter_ties (hties b).symm List.mem_cons_self) List.not_mem_nil
  | cons a as ih =>
    have ha := mem_of_filter_ties (hties a) List.mem_cons_self
    cases bs with
    | nil => cases ha
    | cons b bs =>
      -- The two first elements are equal, so each is the first of those that are.
      have hb := mem_of_filter_ties (hties b).symm List.mem_cons_self
      have htie : ties order a b = true :=
        beq_iff_eq.2 (Std.OrientedCmp.isLE_antisymm (isLE_of_mem_cons has hb)
          (isLE_of_mem_cons hbs ha))
      have hsame := hties a
      rw [List.filter_cons_of_pos (ties_self a), List.filter_cons_of_pos htie] at hsame
      obtain rfl := (List.cons.inj hsame).1
      refine congrArg (a :: ·) (ih has.of_cons hbs.of_cons fun c => ?_)
      have hrest := hties c
      rw [List.filter_cons, List.filter_cons] at hrest
      split at hrest
      · exact (List.cons.inj hrest).2
      · exact hrest

/-! ## Counting what goes before -/

theorem countBefore_le (as : List α) {a b : α} (h : (order a b).isLE = true) :
    countBefore order as a ≤ countBefore order as b :=
  List.countP_mono_left fun _ _ hbefore =>
    beq_iff_eq.2 (Std.TransCmp.lt_of_lt_of_isLE (beq_iff_eq.1 hbefore) h)

/-- An element of the list that goes before another one is counted for that one alone. -/
theorem countBefore_lt {as : List α} {a b : α} (ha : a ∈ as) (h : order a b = .lt) :
    countBefore order as a < countBefore order as b := by
  have hle : (order a b).isLE = true := by
    rw [h]
    rfl
  have hself : (order a a == .lt) = false := by
    rw [show order a a = .eq from Std.ReflCmp.compare_self]
    rfl
  have hbefore : (order a b == .lt) = true := beq_iff_eq.2 h
  obtain ⟨front, back, rfl⟩ := List.append_of_mem ha
  have hfront := countBefore_le front hle
  have hback := countBefore_le back hle
  simp only [countBefore, List.countP_append, List.countP_cons, hself, hbefore, Bool.false_eq_true,
    if_true, if_false] at hfront hback ⊢
  omega

/-- **Two elements of a list compare as the numbers** of those that go before them. -/
theorem eq_compare_countBefore {as : List α} {a b : α} (ha : a ∈ as) (hb : b ∈ as) :
    order a b = compare (countBefore order as a) (countBefore order as b) := by
  have hswap : order b a = (order a b).swap := Std.OrientedCmp.eq_swap
  cases h : order a b with
  | lt => exact (Nat.compare_eq_lt.2 (countBefore_lt ha h)).symm
  | gt =>
    rw [h] at hswap
    exact (Nat.compare_eq_gt.2 (countBefore_lt hb hswap)).symm
  | eq =>
    have hab : countBefore order as a ≤ countBefore order as b := countBefore_le as (h ▸ rfl)
    have hba : countBefore order as b ≤ countBefore order as a :=
      countBefore_le as (by rw [hswap, h]; rfl)
    exact (Nat.compare_eq_eq.2 (Nat.le_antisymm hab hba)).symm

end Order

/-! ## Two orders, one after the other -/

section Lexicographic

variable {first later : α → α → Ordering} [Std.TransCmp first]

/-- What ascends by the second order ascends by both once it is sorted by the first. -/
theorem pairwise_mergeSort_of_pairwise {as : List α}
    (h : as.Pairwise fun a b => (later a b).isLE = true) :
    (as.mergeSort fun a b => (first a b).isLE).Pairwise
      fun a b => (compareLex first later a b).isLE = true := by
  refine List.pairwise_iff_forall_sublist.2 fun {a b} hpair => ?_
  have hfirst : (first a b).isLE = true :=
    List.pairwise_iff_forall_sublist.1 (pairwise_mergeSort_isLE as) hpair
  rw [compareLex]
  cases htie : first a b with
  | lt => rfl
  | gt =>
    rw [htie] at hfirst
    cases hfirst
  | eq =>
    -- Two elements that the first order does not tell apart stand as they stood before.
    have hb : ties first a b = true := beq_iff_eq.2 htie
    have hbefore := hpair.filter (ties first a)
    rw [filter_mergeSort (eq_of_ties a), List.filter_cons_of_pos (ties_self a),
      List.filter_cons_of_pos hb, List.filter_nil] at hbefore
    exact List.pairwise_iff_forall_sublist.1 h (hbefore.trans List.filter_sublist)

/-- **Sorting by two orders** is sorting by the second and then by the first. -/
theorem mergeSort_compareLex [Std.TransCmp later] (as : List α) :
    (as.mergeSort fun a b => (compareLex first later a b).isLE) =
      (as.mergeSort fun a b => (later a b).isLE).mergeSort fun a b => (first a b).isLE := by
  refine eq_of_pairwise (pairwise_mergeSort_isLE as)
    (pairwise_mergeSort_of_pairwise (pairwise_mergeSort_isLE as)) fun c => ?_
  have hties : ∀ a b, ties (compareLex first later) c a = true →
      ties (compareLex first later) c b = true → compareLex first later a b = .eq := eq_of_ties c
  have hboth := fun a b ha hb => Ordering.then_eq_eq.1 (hties a b ha hb)
  rw [filter_mergeSort hties, filter_mergeSort fun a b ha hb => (hboth a b ha hb).1,
    filter_mergeSort fun a b ha hb => (hboth a b ha hb).2]

end Lexicographic

end Flowgraph.Query

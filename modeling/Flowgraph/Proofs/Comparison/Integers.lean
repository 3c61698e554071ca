import Flowgraph.Comparison
import Flowgraph.Proofs.Number.Nearest
/-!
# Comparing integers

Numbers are compared as doubles. So two integers compare as the doubles nearest to them do
(`follows_toRat`), which is the order of the integers themselves unless two different ones have the
same nearest double. That happens from `2 ^ 53` on, and only between integers that both reach it
(`integers_compare_as_doubles`, `integers_not_exact`).
-/

namespace Flowgraph.Comparison

open Binary64

/-- Whether the operators answer on two values as the order of two numbers. -/
structure Follows {α : Type} [LinearOrder α] (l r : Value) (x y : α) : Prop where
  equal : compare l (some .equal) r = true ↔ x = y
  notEqual : compare l (some .notEqual) r = true ↔ x ≠ y
  greater : compare l (some .greater) r = true ↔ y < x
  greaterEqual : compare l (some .greaterEqual) r = true ↔ y ≤ x
  less : compare l (some .less) r = true ↔ x < y
  lessEqual : compare l (some .lessEqual) r = true ↔ x ≤ y

/-- Numbers in the same order are as good. -/
theorem Follows.of_iff {α β : Type} [LinearOrder α] [LinearOrder β] {l r : Value} {x y : α}
    {x' y' : β} (h : Follows l r x y) (hlt : x < y ↔ x' < y') (hgt : y < x ↔ y' < x')
    (heq : x = y ↔ x' = y') : Follows l r x' y' where
  equal := h.equal.trans heq
  notEqual := h.notEqual.trans (not_congr heq)
  greater := h.greater.trans hgt
  greaterEqual := by rw [h.greaterEqual, ← not_lt, ← not_lt, hlt]
  less := h.less.trans hlt
  lessEqual := by rw [h.lessEqual, ← not_lt, ← not_lt, hgt]

theorem equal_int_iff (a b : Int) :
    equal (.int a) (.int b) = true ↔ (ofInt a).key = (ofInt b).key :=
  beq_iff _ _

theorem order?_int (a b : Int) :
    order? (.int a) (.int b) = some (Ord.compare (ofInt a).key (ofInt b).key) :=
  rfl

/-- Integers compare as the places of their doubles. -/
theorem follows_key (a b : Int) :
    Follows (.int a) (.int b) (ofInt a).key (ofInt b).key where
  equal := equal_int_iff a b
  notEqual := by
    rw [compare, holds, Bool.not_eq_true', ← Bool.not_eq_true, equal_int_iff]
  greater := by
    rw [compare, holds, order?_int, Option.any_some, Ordering.isGT_iff_eq_gt, compare_gt_iff_gt]
  greaterEqual := by
    rw [compare, holds, order?_int, Option.any_some, Ordering.isGE_iff_ne_lt]
    exact compare_ge_iff_ge
  less := by
    rw [compare, holds, order?_int, Option.any_some, Ordering.isLT_iff_eq_lt, compare_lt_iff_lt]
  lessEqual := by
    rw [compare, holds, order?_int, Option.any_some, Ordering.isLE_iff_ne_gt]
    exact compare_le_iff_le

/-- **Integers compare as their doubles.** -/
theorem follows_toRat (a b : Int) :
    Follows (.int a) (.int b) (ofInt a).toRat (ofInt b).toRat :=
  (follows_key a b).of_iff (toRat_lt_iff _ _).symm (toRat_lt_iff _ _).symm (toRat_eq_iff _ _).symm

/-- Doubles of integers are in the order of the integers, if they differ. -/
theorem toRat_ofInt_lt_iff {a b : Int} (h : a = b ∨ (ofInt a).toRat ≠ (ofInt b).toRat) :
    (ofInt a).toRat < (ofInt b).toRat ↔ a < b := by
  have hmono {m n : Int} (hlt : m < n) : (ofInt m).toRat ≤ (ofInt n).toRat :=
    (isNearest_ofInt m).toRat_le_of_lt (isNearest_ofInt n) (Int.cast_lt.2 hlt)
  rcases h with rfl | hne
  · exact iff_of_false (lt_irrefl _) (lt_irrefl _)
  · refine ⟨fun hlt => lt_of_not_ge fun hge => ?_, fun hlt => lt_of_le_of_ne (hmono hlt) hne⟩
    rcases hge.lt_or_eq with hgt | rfl
    · exact hlt.not_ge (hmono hgt)
    · exact hne rfl

/-- Integers are compared exactly if they do not share a double. -/
theorem follows_iff (a b : Int) :
    Follows (.int a) (.int b) a b ↔ a = b ∨ (ofInt a).toRat ≠ (ofInt b).toRat := by
  have hdoubles := follows_toRat a b
  constructor
  · intro h
    by_cases heq : (ofInt a).toRat = (ofInt b).toRat
    · exact .inl (h.equal.1 (hdoubles.equal.2 heq))
    · exact .inr heq
  · intro h
    refine hdoubles.of_iff (toRat_ofInt_lt_iff h) (toRat_ofInt_lt_iff (h.imp Eq.symm Ne.symm)) ?_
    exact ⟨fun heq => h.resolve_right (not_not_intro heq), fun heq => by rw [heq]⟩

/-- A list of integers contains one exactly when a double of its items is that of the integer. -/
theorem contains_int_iff (items : List Int) (b : Int) :
    compare (.list (items.map .int)) (some .contains) (.int b) = true ↔
      ∃ a ∈ items, (ofInt a).toRat = (ofInt b).toRat := by
  simp only [compare, holds, containment?, Option.any_some, id, List.any_map, List.any_eq_true,
    Function.comp_apply, equal_int_iff, toRat_eq_iff]

/-- An integer below `2 ^ 53` shares its double with no other one. -/
theorem eq_iff_toRat_ofInt_eq {a b : Int} (h : a.natAbs < 2 ^ 53 ∨ b.natAbs < 2 ^ 53) :
    a = b ↔ (ofInt a).toRat = (ofInt b).toRat := by
  have hbinade : 2 * binade = 2 ^ 53 := by decide
  rw [← hbinade] at h
  refine ⟨fun heq => by rw [heq], fun heq => ?_⟩
  rcases h with ha | hb
  · exact eq_of_toRat_ofInt_eq ha heq
  · exact (eq_of_toRat_ofInt_eq hb heq.symm).symm

/-- **How integers compare.** The operators answer on two integers as the doubles nearest to them
are ordered. That is exact unless the two differ and share their double, and so whenever one of them
is below `2 ^ 53`. A list of integers contains an integer exactly when it has an item with the same
double, which is the integer itself if that is below `2 ^ 53`. -/
theorem integers_compare_as_doubles (a b : Int) (items : List Int) :
    (ofInt a).IsNearest a ∧ (ofInt b).IsNearest b ∧
      Follows (.int a) (.int b) (ofInt a).toRat (ofInt b).toRat ∧
      (Follows (.int a) (.int b) a b ↔ a = b ∨ (ofInt a).toRat ≠ (ofInt b).toRat) ∧
      (a.natAbs < 2 ^ 53 ∨ b.natAbs < 2 ^ 53 → Follows (.int a) (.int b) a b) ∧
      (compare (.list (items.map .int)) (some .contains) (.int b) = true ↔
        ∃ item ∈ items, (ofInt item).toRat = (ofInt b).toRat) ∧
      (b.natAbs < 2 ^ 53 →
        (compare (.list (items.map .int)) (some .contains) (.int b) = true ↔ b ∈ items)) := by
  refine ⟨isNearest_ofInt a, isNearest_ofInt b, follows_toRat a b, follows_iff a b, fun h => ?_,
    contains_int_iff items b, fun hb => ?_⟩
  · rw [follows_iff, eq_iff_toRat_ofInt_eq h]
    exact em _
  · simp only [contains_int_iff, ← eq_iff_toRat_ofInt_eq (.inr hb), exists_eq_right]

/-- **Integers of 64 bits are not compared exactly.** The first two that share a double are equal to
every comparison. -/
theorem integers_not_exact :
    ¬∀ a b : Int, -2 ^ 63 ≤ a → a < 2 ^ 64 → -2 ^ 63 ≤ b → b < 2 ^ 64 →
      Follows (.int a) (.int b) a b := by
  intro hexact
  have hequal : compare (.int 9007199254740992) (some .equal) (.int 9007199254740993) = true := by
    decide +kernel
  have heq := (hexact 9007199254740992 9007199254740993 (by decide) (by decide) (by decide)
    (by decide)).equal.1 hequal
  exact absurd heq (by decide)

end Flowgraph.Comparison

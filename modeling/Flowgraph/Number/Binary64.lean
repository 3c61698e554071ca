/-!
# Binary floating point of 64 bits

A finite double is a sign and the index of its magnitude in the ascending list of the finite
non-negative doubles: index `0` is zero, index `1` the least positive one, and the next index is
the next larger magnitude. All conversions are exact arithmetic on `Nat` and `Int`; no value is
ever infinite or undefined, so the finite doubles are totally ordered by `key`.

Main definitions: `significand`, `exponent`, `ofRatio?`, `ofInt`, `roundToInt`, `compare`.
Main statements: `roundMagnitude_lt`, `beq_iff`, `compare_swap`.
-/

namespace Flowgraph

/-- The number of doubles between a power of two and the next, two to the power of 52. -/
def Binary64.binade : Nat := 0x10000000000000

/-- The number of finite non-negative doubles. -/
def Binary64.bound : Nat := 2047 * Binary64.binade

/-- A finite double: its sign and the index of its magnitude. -/
structure Binary64 where
  /-- Whether the sign is minus; zero has both signs. -/
  negative : Bool
  /-- The place of the magnitude among the finite non-negative doubles. -/
  index : Nat
  index_lt : index < Binary64.bound
  deriving DecidableEq

namespace Binary64

/-- Zero of the given sign. -/
def zero (negative : Bool) : Binary64 :=
  ⟨negative, 0, by decide⟩

instance : Inhabited Binary64 := ⟨zero false⟩

/-- The double of the other sign. -/
def neg (x : Binary64) : Binary64 :=
  { x with negative := !x.negative }

/-- The double of a sign and an index, unless the index is past the last finite one. -/
def ofIndex? (negative : Bool) (index : Nat) : Option Binary64 :=
  if h : index < bound then some ⟨negative, index, h⟩ else none

/-- The largest finite double of a sign. -/
def largest (negative : Bool) : Binary64 :=
  ⟨negative, bound - 1, by decide⟩

/-! ## The exact value

The magnitude at an index is `significandAt` shifted left by `scaleAt`, in units. -/

/-- The least positive double, the unit of all magnitudes, is two to minus this power. -/
def unitPlace : Nat := 1074

/-- How many units make up one. -/
def unitsPerOne : Nat := 1 <<< unitPlace

/-- The integer significand at an index, below two binades. -/
def significandAt (index : Nat) : Nat :=
  if index < binade then index else binade + index % binade

/-- The power of two at an index, in units. -/
def scaleAt (index : Nat) : Nat :=
  index / binade - 1

/-- The magnitude at an index, in units. -/
def units (index : Nat) : Nat :=
  significandAt index <<< scaleAt index

/-- The integer significand. -/
def significand (x : Binary64) : Nat :=
  significandAt x.index

/-- The power of two that scales the significand. -/
def exponent (x : Binary64) : Int :=
  scaleAt x.index - unitPlace

/-! ## Rounding to a double -/

/-- The quotient rounded to the nearest integer, a half to the even neighbour. -/
def divNearestEven (num den : Nat) : Nat :=
  let quotient := num / den
  let twice := 2 * (num % den)
  if twice < den then quotient
  else if den < twice then quotient + 1
  else quotient + quotient % 2

/-- The scale at which `num / den` has a significand of 53 bits, at least zero. -/
def scaleOfRatio (num den : Nat) : Nat :=
  let estimate : Int := (num.log2 : Int) - den.log2 - 53 + unitPlace
  let scale := estimate.toNat
  if num * unitsPerOne / (den <<< scale) < 2 * binade then scale else scale + 1

/-- The index of the double nearest to `num / den`, a tie going to the even index; past `bound`
when the nearest value is no finite double. -/
def indexOfRatio (num den : Nat) : Nat :=
  let scale := scaleOfRatio num den
  scale * binade + divNearestEven (num * unitsPerOne) (den <<< scale)

/-- The double nearest to `± num / den`; `none` when it would not be finite. -/
def ofRatio? (negative : Bool) (num den : Nat) : Option Binary64 :=
  if num = 0 then some (zero negative) else ofIndex? negative (indexOfRatio num den)

/-- The double nearest to an integer, the largest finite one when the integer is beyond it. -/
def ofInt (n : Int) : Binary64 :=
  (ofRatio? (n < 0) n.natAbs 1).getD (largest (n < 0))

/-! ## Rounding to an integer -/

/-- The integer nearest to the magnitude, a half going up. -/
def roundMagnitude (x : Binary64) : Nat :=
  (2 * units x.index + unitsPerOne) / (2 * unitsPerOne)

/-- The nearest integer, a half going away from zero. -/
def roundToInt (x : Binary64) : Int :=
  if x.negative then -(x.roundMagnitude : Int) else x.roundMagnitude

/-- Whether the magnitude is below `2 ^ 63`. -/
def inSigned64 (x : Binary64) : Bool :=
  units x.index < 0x8000000000000000 * unitsPerOne

theorem significandAt_lt (index : Nat) : significandAt index < 2 * binade := by
  have hmod : index % binade < binade := Nat.mod_lt _ (by decide)
  unfold significandAt
  split <;> omega

/-- A magnitude is an integer, or it is not above half its significand. -/
theorem units_cases (index : Nat) :
    (∃ whole, units index = unitsPerOne * whole) ∨
      2 * units index ≤ significandAt index * unitsPerOne := by
  rw [units, Nat.shiftLeft_eq, unitsPerOne, Nat.one_shiftLeft]
  rcases Nat.lt_or_ge (scaleAt index) unitPlace with hscale | hscale
  · refine .inr ?_
    have hpow : 2 ^ (scaleAt index + 1) ≤ 2 ^ unitPlace := Nat.pow_le_pow_right (by decide) hscale
    calc
      2 * (significandAt index * 2 ^ scaleAt index) =
          significandAt index * 2 ^ (scaleAt index + 1) := by
        rw [Nat.pow_succ', Nat.mul_left_comm]
      _ ≤ significandAt index * 2 ^ unitPlace := Nat.mul_le_mul_left _ hpow
  · refine .inl ⟨significandAt index * 2 ^ (scaleAt index - unitPlace), ?_⟩
    rw [Nat.mul_left_comm, ← Nat.pow_add, Nat.add_sub_cancel' hscale]

/-- A double of a magnitude below `2 ^ 63` is rounded to an integer below it: where doubles are
not integers, they are far below. -/
theorem roundMagnitude_lt {x : Binary64} (h : x.inSigned64 = true) :
    x.roundMagnitude < 0x8000000000000000 := by
  have hunits : units x.index < 0x8000000000000000 * unitsPerOne := of_decide_eq_true h
  have hpos : 0 < unitsPerOne := by
    rw [unitsPerOne, Nat.one_shiftLeft]
    exact Nat.two_pow_pos _
  have hsignificand : significandAt x.index < 0x20000000000000 := significandAt_lt x.index
  have hcases := units_cases x.index
  rw [roundMagnitude]
  generalize unitsPerOne = one at hunits hpos hcases ⊢
  generalize units x.index = magnitude at hunits hcases ⊢
  refine Nat.div_lt_of_lt_mul ?_
  rcases hcases with ⟨whole, rfl⟩ | hhalf
  · rw [Nat.mul_comm 0x8000000000000000] at hunits
    have hwhole : one * (whole + 1) ≤ one * 0x8000000000000000 :=
      Nat.mul_le_mul_left _ (Nat.lt_of_mul_lt_mul_left hunits)
    rw [Nat.mul_succ] at hwhole
    omega
  · have hsmall : significandAt x.index * one ≤ 0x20000000000000 * one :=
      Nat.mul_le_mul_right _ (Nat.le_of_lt hsignificand)
    omega

/-! ## Order -/

/-- The place of a double in numerical order; both zeros have place `0`. -/
def key (x : Binary64) : Int :=
  if x.negative then -(x.index : Int) else x.index

/-- Numerical equality, so that the two zeros are equal. -/
instance : BEq Binary64 := ⟨fun x y => x.key == y.key⟩

/-- Numerical order. -/
def compare (x y : Binary64) : Ordering :=
  Ord.compare x.key y.key

theorem beq_iff (x y : Binary64) : (x == y) = true ↔ x.key = y.key := by
  simp [BEq.beq]

theorem compare_swap (x y : Binary64) : (compare x y).swap = compare y x := by
  simp only [compare]
  exact (Std.OrientedOrd.eq_swap).symm

theorem compare_eq_iff (x y : Binary64) : compare x y = .eq ↔ x.key = y.key := by
  simp [compare]

end Binary64

end Flowgraph

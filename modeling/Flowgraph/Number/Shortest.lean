import Flowgraph.Number.Decimal
/-!
# The shortest decimal text of a double

`Binary64.shortest` finds the fewest digits that read back as the same double and, among those,
the nearest to the exact value. `Binary64.render` writes them in the number format of documents:
positional from `1e-5` up to below `1e16`, with an exponent elsewhere.

Main statement: `shortest_reads_back`.
-/

namespace Flowgraph.Binary64

open Number

/-- The decimal exponent of `num / den`: the place of its leading digit. -/
def leadingPlace (num den : Nat) : Int :=
  if den ≤ num then ((digits (num / den)).length : Int) - 1
  else
    let gap := (digits den).length - (digits num).length
    if den ≤ num * tenTo gap then -(gap : Int) else -(gap : Int) - 1

/-- The two neighbours of a magnitude on the grid of multiples of `10 ^ place`, the nearer one
first and, at the same distance, the even one first. -/
def neighbours (index : Nat) (place : Int) : List Nat :=
  let num := units index * tenTo (-place).toNat
  let den := unitsPerOne * tenTo place.toNat
  let below := num / den
  let twice := 2 * (num % den)
  if twice < den ∨ (twice = den ∧ below % 2 = 0) then [below, below + 1] else [below + 1, below]

/-- Whether a decimal of the sign of `x` reads back as `x`. -/
def readsBack (x : Binary64) (d : Decimal) : Bool :=
  decide (d.toBinary64? = some x)

/-- The grid points beside the magnitude with `count` digits that read back. -/
def candidates (x : Binary64) (count : Nat) : List Decimal :=
  let place := leadingPlace (units x.index) unitsPerOne + 1 - count
  ((neighbours x.index place).map fun n => ⟨x.negative, n, place⟩).filter x.readsBack

/-- The first member of the first non-empty list among `lists start`, `lists (start + 1)`, …,
looking at `count` of them. -/
def firstOf {α : Type} (lists : Nat → List α) : Nat → Nat → Option α
  | 0, _ => none
  | count + 1, start =>
    match lists start with
    | a :: _ => some a
    | [] => firstOf lists count (start + 1)

theorem exists_mem_of_firstOf {α : Type} {lists : Nat → List α} {count start : Nat} {a : α}
    (h : firstOf lists count start = some a) : ∃ n, a ∈ lists n := by
  induction count generalizing start with
  | zero => simp [firstOf] at h
  | succ count ih =>
    cases hs : lists start with
    | nil => exact ih (by simpa [firstOf, hs] using h)
    | cons b rest =>
      obtain rfl : b = a := by simpa [firstOf, hs] using h
      exact ⟨start, by simp [hs]⟩

/-- The decimal of the fewest digits that reads back as `x`, the nearest of those. Seventeen
digits always suffice. -/
def shortest (x : Binary64) : Decimal :=
  (firstOf x.candidates 17 1).getD ⟨x.negative, 0, 0⟩

/-- What the search finds reads back as the same double. -/
theorem shortest_reads_back {x : Binary64} {d : Decimal} (h : firstOf x.candidates 17 1 = some d) :
    x.shortest.toBinary64? = some x := by
  obtain ⟨n, hn⟩ := exists_mem_of_firstOf h
  rw [shortest, h]
  exact of_decide_eq_true (List.mem_filter.1 hn).2

/-! ## Written form -/

/-- Where positional notation ends in the number format of documents. -/
structure Layout where
  /-- The least decimal exponent that is written positionally. -/
  least : Int
  /-- The greatest decimal exponent that is written positionally. -/
  greatest : Int

/-- Documents write decimal exponents from `-5` to `15` positionally. -/
def documentLayout : Layout := ⟨-5, 15⟩

/-- Takes the zeros at the end off a run of digits. -/
def dropEndZeros (cs : List Char) : List Char :=
  (cs.reverse.dropWhile (· = '0')).reverse

/-- The significant digits of a decimal and the place of the first of them. -/
def significant (d : Decimal) : List Char × Int :=
  let written := digits d.significand
  (dropEndZeros written, d.exponent + written.length - 1)

/-- Digits with the point behind the digit of place zero; whole numbers end in `.0`. -/
def positional (ds : List Char) (place : Int) : List Char :=
  if place < 0 then
    '0' :: '.' :: (List.replicate (-place - 1).toNat '0' ++ ds)
  else
    let wholeLength := place.toNat + 1
    let filled := ds ++ List.replicate (wholeLength - ds.length) '0'
    let fraction := filled.drop wholeLength
    filled.take wholeLength ++ '.' :: (if fraction.isEmpty then ['0'] else fraction)

/-- One digit, a point and the others if there are any, and the exponent with its sign. -/
def scientific (ds : List Char) (place : Int) : List Char :=
  let mantissa := if ds.length ≤ 1 then ds else ds.take 1 ++ '.' :: ds.drop 1
  mantissa ++ 'e' :: (if place < 0 then '-' else '+') :: digits place.natAbs

/-- The shortest text of a double; a zero is written with its sign. -/
def renderChars (x : Binary64) : List Char :=
  let body :=
    if x.index = 0 then ['0', '.', '0']
    else
      let (ds, place) := significant x.shortest
      if documentLayout.least ≤ place && place ≤ documentLayout.greatest then positional ds place
      else scientific ds place
  if x.negative then '-' :: body else body

/-- The shortest text of a double. -/
def render (x : Binary64) : String :=
  String.ofList x.renderChars

end Flowgraph.Binary64

import Flowgraph.Number.Binary64
import Flowgraph.Number.Digits
/-!
# Decimal numerals with a fraction and an exponent

A numeral is a sign, a run of digits and a power of ten. `Decimal.toBinary64?` rounds it to the
nearest double, and `Decimal.read?` reads the lenient written form in which either side of the
point may be missing.

Main definitions: `Decimal`, `Decimal.toBinary64?`, `Decimal.read?`.
-/

namespace Flowgraph

/-- The number `± significand * 10 ^ exponent`. -/
structure Decimal where
  negative : Bool
  significand : Nat
  exponent : Int
  deriving DecidableEq

namespace Decimal

open Number

/-- The double nearest to a numeral; `none` when it would not be finite. Numerals beyond
`10 ^ 310` or below `10 ^ -330` are settled without computing the power. -/
def toBinary64? (d : Decimal) : Option Binary64 :=
  let places : Int := (digits d.significand).length + d.exponent
  if d.significand = 0 then some (.zero d.negative)
  else if 310 < places then none
  else if places < -330 then some (.zero d.negative)
  else if 0 ≤ d.exponent then
    Binary64.ofRatio? d.negative (d.significand * tenTo d.exponent.toNat) 1
  else
    Binary64.ofRatio? d.negative d.significand (tenTo (-d.exponent).toNat)

/-- The numeral of digits before and after the point and a written exponent. -/
def ofParts (negative : Bool) (whole fraction : List Char) (exponent : Int) : Decimal :=
  ⟨negative, natOfDigits (whole ++ fraction), exponent - fraction.length⟩

/-- Reads an exponent mark with its digits at the end of a text; no mark is exponent zero. -/
def readExponent? : List Char → Option Int
  | [] => some 0
  | c :: cs => if c = 'e' ∨ c = 'E' then readInt? cs else none

/-- Splits a point and the digits behind it off the front; without a point there are none. -/
def takeFraction : List Char → List Char × List Char
  | '.' :: cs => takeDigits cs
  | cs => ([], cs)

/-- Reads digits, an optional fraction and an optional exponent; one side of the point must have
a digit. -/
def readUnsigned? (negative : Bool) (cs : List Char) : Option Decimal := do
  let (whole, rest) := takeDigits cs
  let (fraction, rest) := takeFraction rest
  if whole.isEmpty && fraction.isEmpty then none
  else return ofParts negative whole fraction (← readExponent? rest)

/-- Reads a numeral with an optional sign. -/
def read? : List Char → Option Decimal
  | '-' :: cs => readUnsigned? true cs
  | '+' :: cs => readUnsigned? false cs
  | cs => readUnsigned? false cs

end Decimal

end Flowgraph

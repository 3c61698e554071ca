/-!
# The code of letters outside ASCII

A label with letters outside ASCII is written as its letters of ASCII and a code for the places of
the others. The code is a sequence of numbers in a base of 36 digits with thresholds that adapt to
what was written before.

Main definitions: `Code.encode`, `Code.decode?`.
-/

namespace Flowgraph.Domain.Code

/-- The number of digits. -/
def base : Nat := 36

/-- A digit: the letters, then the digits of ASCII. -/
def digit (d : Nat) : Char :=
  if d < 26 then Char.ofNat (97 + d) else Char.ofNat (22 + d)

/-- The value of a digit; letters count in both cases. -/
def digitValue? (c : Char) : Option Nat :=
  let n := c.toLower.toNat
  if 97 ≤ n ∧ n ≤ 122 then some (n - 97)
  else if 48 ≤ n ∧ n ≤ 57 then some (n - 22)
  else none

/-- Divides a step down until it is small, counting the divisions. -/
def shrink : Nat → Nat → Nat → Nat × Nat
  | 0, k, delta => (k, delta)
  | fuel + 1, k, delta => if 455 < delta then shrink fuel (k + base) (delta / 35) else (k, delta)

/-- The bias after a step. -/
def adapt (delta count : Nat) (first : Bool) : Nat :=
  let delta := if first then delta / 700 else delta / 2
  let (k, delta) := shrink 32 0 (delta + delta / count)
  k + 36 * delta / (delta + 38)

/-- The threshold of the digit at place `k`. -/
def threshold (k bias : Nat) : Nat :=
  if k ≤ bias then 1 else if bias + 26 ≤ k then 26 else k - bias

/-! ## Writing -/

/-- The digits of a number from place `k` on. -/
def digitsOf (bias : Nat) : Nat → Nat → Nat → List Char
  | 0, _, q => [digit q]
  | fuel + 1, k, q =>
    let t := threshold k bias
    if q < t then [digit q]
    else digit (t + (q - t) % (base - t)) :: digitsOf bias fuel (k + base) ((q - t) / (base - t))

/-- What the writer of a label carries from letter to letter. -/
structure State where
  /-- The code point that has been reached. -/
  reached : Nat := 128
  delta : Nat := 0
  bias : Nat := 72
  /-- How many letters are written. -/
  written : Nat
  first : Bool := true
  /-- The digits so far. -/
  output : List Char := []

/-- Passes one letter of the label while the letters of code point `m` are written. -/
def pass (m : Nat) (s : State) (c : Char) : State :=
  if c.toNat < m then { s with delta := s.delta + 1 }
  else if c.toNat = m then
    { s with
      output := s.output ++ digitsOf s.bias 32 base s.delta
      bias := adapt s.delta (s.written + 1) s.first
      delta := 0
      written := s.written + 1
      first := false }
  else s

/-- Writes the letters of the least code point that is left, as often as there are some. -/
def writeFrom (cs : List Char) : Nat → State → State
  | 0, s => s
  | fuel + 1, s =>
    match ((cs.map Char.toNat).filter (s.reached ≤ ·)).min? with
    | none => s
    | some m =>
      let s := { s with delta := s.delta + (m - s.reached) * (s.written + 1) }
      let s := cs.foldl (pass m) s
      writeFrom cs fuel { s with delta := s.delta + 1, reached := m + 1 }

/-- The code of a label. -/
def encode (cs : List Char) : List Char :=
  let plain := cs.filter fun c => c.toNat < 128
  let s := writeFrom cs cs.length { written := plain.length }
  (if plain.isEmpty then [] else plain ++ ['-']) ++ s.output

/-! ## Reading -/

/-- One more than the greatest number that is read. -/
def limit : Nat := 0x100000000

/-- Adds the number in front, from place `k` on, to a value, and gives what follows it. -/
def readNumber? (bias : Nat) : Nat → Nat → Nat → List Char → Option (Nat × List Char)
  | _, _, _, [] => none
  | k, weight, value, c :: cs => do
    let d ← digitValue? c
    let t := threshold k bias
    if limit ≤ value + d * weight then none
    else if d < t then some (value + d * weight, cs)
    else if limit ≤ weight * (base - t) then none
    else readNumber? bias (k + base) (weight * (base - t)) (value + d * weight) cs

/-- The character of a code point, surrogates aside. -/
def charOf? (n : Nat) : Option Char :=
  if n < 0xD800 ∨ (0xDFFF < n ∧ n < 0x110000) then some (Char.ofNat n) else none

/-- Puts the letters of a code into a text, one for each number. -/
def readFrom : Nat → (reached place bias : Nat) → List Char → List Char → Option (List Char)
  | _, _, _, _, text, [] => some text
  | 0, _, _, _, _, _ => none
  | fuel + 1, reached, place, bias, text, digits => do
    let (value, rest) ← readNumber? bias base 1 place digits
    let count := text.length + 1
    let reached := reached + value / count
    let c ← charOf? reached
    readFrom fuel reached (value % count + 1) (adapt (value - place) count (place = 0))
      (text.insertIdx (value % count) c) rest

/-- The label of a code. The letters of ASCII stand in front of the last hyphen; where there are
none there is no hyphen. -/
def decode? (cs : List Char) : Option (List Char) :=
  let code := (cs.reverse.takeWhile (· != '-')).reverse
  let plain := cs.take (cs.length - code.length - 1)
  if plain.isEmpty && cs.contains '-' then none
  else readFrom code.length 128 0 72 plain code

end Flowgraph.Domain.Code

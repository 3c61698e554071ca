/-!
# Runs of decimal digits

Reading and writing natural numbers and signed integers in decimal, over lists of characters.

Main definitions: `natOfDigits`, `tenTo`, `digits`, `readInt?`, `readUnsigned?`, `padded`,
`within?`.
Main statements: `readNat?_digits`, `readInt?_signedDigits`.
-/

namespace Flowgraph.Number

/-- Whether a character is one of `0` to `9`. -/
def isDigit (c : Char) : Bool :=
  '0' ≤ c && c ≤ '9'

/-- The value of a digit. -/
def digitValue (c : Char) : Nat :=
  c.toNat - '0'.toNat

/-- The number that a run of digits writes, going on from `start`. -/
def natOfDigitsFrom (start : Nat) (cs : List Char) : Nat :=
  cs.foldl (fun n c => 10 * n + digitValue c) start

/-- The number that a run of digits writes; zero for the empty run. -/
def natOfDigits (cs : List Char) : Nat :=
  natOfDigitsFrom 0 cs

/-- A power of ten. -/
def tenTo (exponent : Nat) : Nat :=
  Nat.pow 10 exponent

theorem tenTo_succ (exponent : Nat) : tenTo (exponent + 1) = tenTo exponent * 10 := rfl

/-- The decimal digits of a number. -/
def digits (n : Nat) : List Char :=
  Nat.toDigits 10 n

/-- The decimal digits of a number, with zeros in front up to a width. -/
def padded (width n : Nat) : List Char :=
  List.replicate (width - (digits n).length) '0' ++ digits n

/-- The decimal text of an integer, with a minus for the negative ones. -/
def signedDigits (n : Int) : List Char :=
  if n < 0 then '-' :: digits n.natAbs else digits n.natAbs

/-- The digits in front and what follows them. -/
def takeDigits (cs : List Char) : List Char × List Char :=
  (cs.takeWhile isDigit, cs.dropWhile isDigit)

/-- Nothing is lost in splitting off the digits. -/
theorem takeDigits_append (cs : List Char) : (takeDigits cs).1 ++ (takeDigits cs).2 = cs :=
  List.takeWhile_append_dropWhile

/-- The natural number of a text that is digits only and has at least one. -/
def readNat? (cs : List Char) : Option Nat :=
  if !cs.isEmpty && cs.all isDigit then some (natOfDigits cs) else none

/-- The integer of a text of digits with an optional sign in front. -/
def readInt? : List Char → Option Int
  | '-' :: cs => (readNat? cs).map fun n => -(n : Int)
  | '+' :: cs => (readNat? cs).map fun n => (n : Int)
  | cs => (readNat? cs).map fun n => (n : Int)

/-- The natural number of a text of digits with an optional plus in front. -/
def readUnsigned? : List Char → Option Nat
  | '+' :: cs => readNat? cs
  | cs => readNat? cs

/-! ## Reading what is written -/

theorem isDigit_of_mem_digits {n : Nat} {c : Char} (h : c ∈ digits n) : isDigit c = true :=
  Nat.isDigit_of_mem_toDigits (by decide) (by decide) h

/-- The digits of a number are read as that number. -/
theorem readNat?_digits (n : Nat) : readNat? (digits n) = some n := by
  have hfilled : (digits n).isEmpty = false :=
    List.isEmpty_eq_false_iff.2 Nat.toDigits_ne_nil
  have hall : (digits n).all isDigit = true :=
    List.all_eq_true.2 fun c hc => isDigit_of_mem_digits hc
  have hvalue : natOfDigits (digits n) = n := by
    rw [natOfDigits, natOfDigitsFrom, digits]
    exact (Nat.ofDigitChars_eq_foldl ..).symm.trans Nat.ofDigitChars_ten_toDigits
  rw [readNat?, hfilled, hall, hvalue]
  rfl

/-- A text that begins with a digit has no sign. -/
theorem readInt?_of_isDigit {c : Char} {cs : List Char} (h : isDigit c = true) :
    readInt? (c :: cs) = (readNat? (c :: cs)).map Int.ofNat := by
  unfold readInt?
  split
  · next heq =>
    cases heq
    exact absurd h (by decide)
  · next heq =>
    cases heq
    exact absurd h (by decide)
  · cases readNat? (c :: cs) <;> rfl

/-- The decimal text of an integer is read as that integer. -/
theorem readInt?_signedDigits (n : Int) : readInt? (signedDigits n) = some n := by
  have hread := readNat?_digits n.natAbs
  rw [signedDigits]
  split
  · have hneg : -(n.natAbs : Int) = n := by omega
    simp only [readInt?, hread]
    exact congrArg some hneg
  · have hpos : (n.natAbs : Int) = n := by omega
    obtain ⟨c, cs, hcs⟩ : ∃ c cs, digits n.natAbs = c :: cs :=
      List.exists_cons_of_ne_nil Nat.toDigits_ne_nil
    have hmem : c ∈ digits n.natAbs := by
      rw [hcs]
      exact List.mem_cons_self
    rw [hcs] at hread ⊢
    rw [readInt?_of_isDigit (isDigit_of_mem_digits hmem), hread]
    exact congrArg some hpos

/-! ## Ranges of the fixed widths -/

/-- Whether an integer fits 64 bits with a sign. -/
def isSigned64 (n : Int) : Bool :=
  -0x8000000000000000 ≤ n && n < 0x8000000000000000

theorem isSigned64_iff {n : Int} :
    isSigned64 n = true ↔ -0x8000000000000000 ≤ n ∧ n < 0x8000000000000000 := by
  rw [isSigned64, Bool.and_eq_true, decide_eq_true_eq, decide_eq_true_eq]

/-- Whether an integer fits 64 bits without a sign. -/
def isUnsigned64 (n : Int) : Bool :=
  0 ≤ n && n < 0x10000000000000000

/-- Whether an integer fits 32 bits with a sign. -/
def isSigned32 (n : Int) : Bool :=
  -0x80000000 ≤ n && n < 0x80000000

theorem isSigned64_of_isSigned32 {n : Int} (h : isSigned32 n = true) : isSigned64 n = true := by
  rw [isSigned64_iff]
  simp only [isSigned32, Bool.and_eq_true, decide_eq_true_eq] at h
  omega

/-- An integer that lies in a range. -/
def within? (range : Int → Bool) (n : Int) : Option Int :=
  if range n then some n else none

theorem within?_eq_some {range : Int → Bool} {n m : Int} :
    within? range n = some m ↔ range n = true ∧ n = m := by
  by_cases h : range n <;> simp [within?, h]

end Flowgraph.Number

import Mathlib.Data.List.Induction
import Flowgraph.Number.Digits
import Flowgraph.Text.Blank
/-!
# Numbers of a fixed width

A number that is written with zeros in front consists of digits, which are never blank
(`isDigit_of_mem_padded`, `isBlank_of_isDigit`), is as wide as asked for when it fits
(`length_padded`), and has the digits of the same number (`natOfDigits_padded`).
-/

namespace Flowgraph.Number

theorem isBlank_of_isDigit {c : Char} (h : isDigit c = true) : Text.isBlank c = false := by
  have hrange : 48 ≤ c.toNat ∧ c.toNat ≤ 57 := by
    simpa [isDigit, Char.le_def, UInt32.le_iff_toNat_le] using h
  simp only [Text.isBlank, Text.blankRanges, List.any_cons, List.any_nil, Bool.or_false,
    Bool.or_eq_false_iff, Bool.and_eq_false_iff, decide_eq_false_iff_not]
  omega

theorem isDigit_of_mem_padded {width n : Nat} {c : Char} (h : c ∈ padded width n) :
    isDigit c = true := by
  rcases List.mem_append.1 h with h | h
  · rw [List.eq_of_mem_replicate h]
    rfl
  · exact isDigit_of_mem_digits h

/-- The digits behind zeros write the same number. -/
theorem natOfDigits_padded (width n : Nat) : natOfDigits (padded width n) = n := by
  have hfold : ∀ cs, natOfDigits cs = Nat.ofDigitChars 10 cs 0 := fun _ =>
    (Nat.ofDigitChars_eq_foldl ..).symm
  rw [hfold, padded, Nat.ofDigitChars_append, Nat.ofDigitChars_replicate_zero, Nat.mul_zero, digits,
    Nat.ofDigitChars_ten_toDigits]

theorem le_length_padded (width n : Nat) : width ≤ (padded width n).length := by
  rw [padded, List.length_append, List.length_replicate]
  omega

/-- A number that fits its width is as wide. -/
theorem length_padded {width n : Nat} (hwidth : 0 < width) (hfits : n < tenTo width) :
    (padded width n).length = width := by
  have hdigits : (digits n).length ≤ width :=
    (Nat.length_toDigits_le_iff (by decide) hwidth).2 hfits
  rw [padded, List.length_append, List.length_replicate]
  omega

/-- So many digits write a number below that power of ten. -/
theorem natOfDigits_lt {cs : List Char} (h : ∀ c ∈ cs, isDigit c = true) :
    natOfDigits cs < tenTo cs.length := by
  induction cs using List.reverseRecOn with
  | nil => decide
  | append_singleton cs c ih =>
    have hvalue : natOfDigits (cs ++ [c]) = 10 * natOfDigits cs + digitValue c := by
      rw [natOfDigits, natOfDigitsFrom, List.foldl_append]
      rfl
    have hdigit : digitValue c < 10 := by
      have hrange := h c (List.mem_append_right _ List.mem_cons_self)
      simp only [isDigit, Bool.and_eq_true, decide_eq_true_eq, Char.le_def,
        UInt32.le_iff_toNat_le] at hrange
      have hlast : c.toNat ≤ 57 := hrange.2
      have hfirst : ('0' : Char).toNat = 48 := rfl
      rw [digitValue, hfirst]
      omega
    have hshort := ih fun d hd => h d (List.mem_append_left _ hd)
    rw [hvalue, List.length_append, List.length_singleton, tenTo_succ]
    omega

end Flowgraph.Number

/-!
# Blank characters

`isBlank` is the Unicode property White_Space, as a table of closed ranges of code points, and
`trim` takes blanks off both ends of a text. Every test for blank text in the library goes
through this module.

Main statements: `trimStart_eq_of_head`, `trimBoth_eq_self`, `isBlank_of_isWhitespace`.
-/

namespace Flowgraph.Text

/-- The code points with the property White_Space, as closed ranges in ascending order. -/
def blankRanges : List (Nat × Nat) :=
  [(0x9, 0xD), (0x20, 0x20), (0x85, 0x85), (0xA0, 0xA0), (0x1680, 0x1680), (0x2000, 0x200A),
    (0x2028, 0x2029), (0x202F, 0x202F), (0x205F, 0x205F), (0x3000, 0x3000)]

/-- Whether a character is white space. -/
def isBlank (c : Char) : Bool :=
  blankRanges.any fun (first, last) => first ≤ c.toNat && c.toNat ≤ last

/-- The characters that are white space to the standard library are blank. -/
theorem isBlank_of_isWhitespace {c : Char} (h : c.isWhitespace = true) : isBlank c = true := by
  simp only [Char.isWhitespace, Bool.or_eq_true, decide_eq_true_eq] at h
  obtain ((rfl | rfl) | rfl) | rfl := h <;> decide

/-! ## Taking characters off the ends -/

/-- Drops the longest run of characters with `p` from the end. -/
def dropEndWhile (p : Char → Bool) (cs : List Char) : List Char :=
  (cs.reverse.dropWhile p).reverse

/-- Drops the blanks in front of a text. -/
def trimStart (cs : List Char) : List Char :=
  cs.dropWhile isBlank

/-- Drops the blanks at both ends of a list of characters. -/
def trimBoth (cs : List Char) : List Char :=
  dropEndWhile isBlank (trimStart cs)

/-- Drops the blanks at both ends of a text. -/
def trim (s : String) : String :=
  String.ofList (trimBoth s.toList)

/-- Whether a text has no character but blanks. -/
def isBlankText (s : String) : Bool :=
  (trimBoth s.toList).isEmpty

theorem trimStart_eq_of_head {c : Char} {cs : List Char} (h : isBlank c = false) :
    trimStart (c :: cs) = c :: cs := by
  simp [trimStart, h]

/-- A text without blanks has none at its ends. -/
theorem trimBoth_eq_self {cs : List Char} (h : ∀ c ∈ cs, isBlank c = false) :
    trimBoth cs = cs := by
  have hdrop : ∀ {ds : List Char}, (∀ c ∈ ds, isBlank c = false) → ds.dropWhile isBlank = ds := by
    intro ds hds
    cases ds with
    | nil => rfl
    | cons d ds => rw [List.dropWhile_cons, hds d List.mem_cons_self]; rfl
  have hreverse : ∀ c ∈ cs.reverse, isBlank c = false := fun c hc => h c (List.mem_reverse.1 hc)
  rw [trimBoth, trimStart, dropEndWhile, hdrop h, hdrop hreverse, List.reverse_reverse]

end Flowgraph.Text

/-!
# Searching and cutting text

Operations on lists of characters that the rest of the library shares: splitting at the first
occurrence of a mark, replacing a pattern everywhere, testing both ends, and case folding within
ASCII.

Main statement: `cutAt?_eq_some`.
-/

namespace Flowgraph.Text

/-! ## Cutting at a mark -/

/-- The text before and after the first occurrence of `mark`; `none` when it does not occur. -/
def cutAt? (mark : List Char) : List Char → Option (List Char × List Char)
  | [] => if mark.isEmpty then some ([], []) else none
  | c :: cs =>
    if mark.isPrefixOf (c :: cs) then some ([], (c :: cs).drop mark.length)
    else (cutAt? mark cs).map fun (before, after) => (c :: before, after)

/-- The two parts and the mark between them make up the text. -/
theorem cutAt?_eq_some {mark cs before after : List Char}
    (h : cutAt? mark cs = some (before, after)) : cs = before ++ mark ++ after := by
  induction cs generalizing before after with
  | nil =>
    by_cases hm : mark.isEmpty
    · simp_all [cutAt?]
    · simp [cutAt?, hm] at h
  | cons c cs ih =>
    by_cases hm : mark.isPrefixOf (c :: cs)
    · simp only [cutAt?, hm, if_true, Option.some.injEq, Prod.mk.injEq] at h
      obtain ⟨rest, hrest⟩ := List.isPrefixOf_iff_prefix.1 hm
      obtain ⟨rfl, rfl⟩ := h
      simp [← hrest]
    · simp only [cutAt?, hm, Bool.false_eq_true, if_false, Option.map_eq_some_iff] at h
      obtain ⟨⟨b, a⟩, hb, heq⟩ := h
      simp only [Prod.mk.injEq] at heq
      obtain ⟨rfl, rfl⟩ := heq
      simp [ih hb]

/-- The text in front of the first character `c`, or all of it. -/
def before (c : Char) (cs : List Char) : List Char :=
  cs.takeWhile (· != c)

/-- The text without the mark in front; `none` when the mark is not there. -/
def dropMark? (mark : List Char) (cs : List Char) : Option (List Char) :=
  if mark.isPrefixOf cs then some (cs.drop mark.length) else none

/-! ## Replacing a pattern -/

/-- Replaces every occurrence of `pattern`, left to right and without overlap, where `skip` more
characters of the current occurrence are still to be passed over. -/
def replaceFrom (pattern replacement : List Char) : Nat → List Char → List Char
  | _, [] => []
  | skip + 1, _ :: cs => replaceFrom pattern replacement skip cs
  | 0, c :: cs =>
    if pattern.isPrefixOf (c :: cs) then
      replacement ++ replaceFrom pattern replacement (pattern.length - 1) cs
    else c :: replaceFrom pattern replacement 0 cs

/-- Replaces every occurrence of a non-empty pattern, left to right and without overlap. -/
def replaceAll (pattern replacement cs : List Char) : List Char :=
  replaceFrom pattern replacement 0 cs

/-! ## Parts of other texts -/

/-- Whether `needle` occurs in `s`. -/
def contains (s needle : String) : Bool :=
  (cutAt? needle.toList s.toList).isSome

/-- Whether `s` begins with `needle`. -/
def startsWith (s needle : String) : Bool :=
  needle.toList.isPrefixOf s.toList

/-- Whether `s` ends with `needle`. -/
def endsWith (s needle : String) : Bool :=
  needle.toList.isSuffixOf s.toList

/-! ## Case within ASCII -/

/-- Lower case for the letters `A` to `Z`, all else as it is. -/
def asciiLower (s : String) : String :=
  String.ofList (s.toList.map Char.toLower)

/-- Upper case for the letters `a` to `z`, all else as it is. -/
def asciiUpper (s : String) : String :=
  String.ofList (s.toList.map Char.toUpper)

/-- Whether two texts agree up to the case of ASCII letters. -/
def sameIgnoringCase (s t : String) : Bool :=
  asciiLower s == asciiLower t

/-- Joins the pieces with `separator` between neighbours. -/
def join (separator : String) (pieces : List String) : String :=
  separator.intercalate pieces

end Flowgraph.Text

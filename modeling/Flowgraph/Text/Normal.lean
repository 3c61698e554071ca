import Flowgraph.Text.CombiningClass
import Flowgraph.Text.Composition
/-!
# Canonical composition

A character with marks has one spelling among those that look the same: everything is taken apart,
the marks behind a letter are ordered by their classes, and what composes is composed again.

Main definitions: `takeApart`, `orderMarks`, `composeAll`, `canonical`.
-/

namespace Flowgraph.Text

/-- The characters that a character is composed of, its first part taken apart again, and so on;
`depth` bounds how often. -/
def takeApart : Nat → Char → List Char
  | 0, c => [c]
  | depth + 1, c =>
    match parts? c with
    | some (first, second) => takeApart depth first ++ [second]
    | none => [c]

/-- Puts a character in front of ordered ones; a mark goes behind the marks of lower classes. -/
def insertMark (c : Char) : List Char → List Char
  | [] => [c]
  | d :: rest =>
    if 0 < combiningClass d ∧ combiningClass d < combiningClass c then d :: insertMark c rest
    else c :: d :: rest

/-- Orders the marks behind each letter by their classes, those of one class as they stand. -/
def orderMarks : List Char → List Char
  | [] => []
  | c :: rest => insertMark c (orderMarks rest)

/-- Composes a letter with what follows it. `marks` are the marks behind the letter that do not
compose with it, the last one in front; they keep later characters of no higher class away. -/
def composeFrom (letter : Char) (marks : List Char) : List Char → List Char
  | [] => letter :: marks.reverse
  | c :: rest =>
    let kept := marks.head?.any fun mark => combiningClass c ≤ combiningClass mark
    match if kept then none else compose? letter c with
    | some composed => composeFrom composed marks rest
    | none =>
      if combiningClass c = 0 then letter :: (marks.reverse ++ composeFrom c [] rest)
      else composeFrom letter (c :: marks) rest

/-- Composes all letters of a text; marks in front stay alone. -/
def composeAll : List Char → List Char
  | [] => []
  | c :: rest => if combiningClass c = 0 then composeFrom c [] rest else c :: composeAll rest

/-- The canonical spelling of a text. -/
def canonical (cs : List Char) : List Char :=
  composeAll (orderMarks (cs.flatMap (takeApart 4)))

end Flowgraph.Text

import Flowgraph.Text.CombiningClass
import Flowgraph.Text.Direction
import Flowgraph.Text.Joining
import Flowgraph.Text.Mark
import Flowgraph.Text.Normal
import Flowgraph.Url.Domain.Code
import Flowgraph.Url.Domain.Mapping
/-!
# Labels of domain names

A label in ASCII stands for itself or, behind the mark `xn--`, for the letters that its code
writes. A label with letters outside ASCII begins with no mark, holds joining controls only where
they change the shape of letters, and is written in ASCII by its code.

Main definitions: `Label`, `Label.read?`, `Label.joinersFit`, `Label.directionFits`.
-/

namespace Flowgraph.Domain

/-- A label in its letters and in ASCII. -/
structure Label where
  letters : List Char
  ascii : List Char

namespace Label

/-! ## Joining controls -/

/-- The control that keeps letters apart. -/
def nonJoiner : Char := Char.ofNat 0x200C

/-- The control that joins letters. -/
def joiner : Char := Char.ofNat 0x200D

/-- Whether the first letter, transparent ones aside, joins in a direction. -/
def meets (joins : Char → Bool) (cs : List Char) : Bool :=
  ((cs.dropWhile Text.isTransparent).head?).any joins

/-- Whether a joining control may stand between two parts of a label, the first from its end:
behind a virama, or, if it keeps letters apart, between letters that would join. -/
def controlFits (control : Char) (before after : List Char) : Bool :=
  before.head?.any Text.isVirama ||
    (control = nonJoiner && meets Text.joinsAfter before && meets Text.joinsBefore after)

/-- Whether all joining controls of a label may stand where they stand; `before` is the part in
front, from its end. -/
def joinersFit (before : List Char) : List Char → Bool
  | [] => true
  | c :: after =>
    (!(c = nonJoiner || c = joiner) || controlFits c before after) && joinersFit (c :: before) after

/-! ## Directions -/

/-- Whether a class belongs to text from right to left. -/
def isRightward (d : Text.Direction) : Bool :=
  d = .rightToLeft || d = .arabicLetter || d = .arabicNumber

/-- Whether a class may stand in a label of either direction. -/
def isShared (d : Text.Direction) : Bool :=
  [.europeanNumber, .europeanSeparator, .europeanTerminator, .commonSeparator, .nonspacingMark,
    .boundaryNeutral, .neutral].contains d

/-- Whether a label goes in one direction. The classes behind the first letter are given from the
end, without the marks there. -/
def runFits (first : Text.Direction) (fromEnd : List Text.Direction) : Bool :=
  match first with
  | .leftToRight =>
    fromEnd.all (fun d => d = .leftToRight || isShared d) &&
      fromEnd.head?.all fun d => d = .leftToRight || d = .europeanNumber
  | .rightToLeft | .arabicLetter =>
    fromEnd.all (fun d => isRightward d || isShared d) &&
      fromEnd.head?.all (fun d => isRightward d || d = .europeanNumber) &&
      !(fromEnd.contains .europeanNumber && fromEnd.contains .arabicNumber)
  | _ => false

/-- Whether a label may stand in a domain name with letters from right to left: it begins with a
letter, goes in the direction of that letter, ends with a letter or number, and does not mix
numbers of two kinds. -/
def directionFits (letters : List Char) : Bool :=
  match letters.map Text.Direction.ofChar with
  | [] => true
  | first :: rest => runFits first (rest.reverse.dropWhile (· = .nonspacingMark))

/-- Whether a label has a letter from right to left. -/
def hasRightward (letters : List Char) : Bool :=
  letters.any fun c => isRightward (Text.Direction.ofChar c)

/-! ## Reading -/

/-- The mark in front of a coded label. -/
def codeMark : List Char := ['x', 'n', '-', '-']

/-- Whether the letters of a label may be coded. -/
def isSound (letters : List Char) : Bool :=
  !letters.head?.any Text.isMark && joinersFit [] letters

/-- Whether a text is what mapping makes of it. -/
def isMapped (letters : List Char) : Bool :=
  letters.all (fun c => mapChar? c = some [c]) && Text.canonical letters = letters

/-- The greatest number of letters of a label that is coded. -/
def maxLetters : Nat := 1000

/-- The greatest length of a code that is read. -/
def maxCode : Nat := 2000

/-- Reads a label behind the code mark; it must write letters that need a code. -/
def readCoded? (code : List Char) : Option Label := do
  let letters ← Code.decode? code
  if code.length ≤ maxCode && !letters.all isAscii && isMapped letters && isSound letters &&
      !codeMark.isPrefixOf letters then
    some { letters, ascii := codeMark ++ code }
  else none

/-- Reads a label of a mapped domain name. -/
def read? (cs : List Char) : Option Label :=
  if codeMark.isPrefixOf cs then
    if cs.all isAscii then readCoded? (cs.drop codeMark.length) else none
  else if cs.all isAscii then some ⟨cs, cs⟩
  else if cs.length ≤ maxLetters && isSound cs then some ⟨cs, codeMark ++ Code.encode cs⟩
  else none

end Label

end Flowgraph.Domain

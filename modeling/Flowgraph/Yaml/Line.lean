import Flowgraph.Text.Search
import Flowgraph.Yaml.Scalar
/-!
# Lines of YAML

A text is a sequence of printable characters in lines. Blank lines and comments are left out, but
a line knows whether they stand in front of it, since a plain scalar goes on over blank lines and
ends before a comment. A line of three dashes begins the document and one of three points ends it.

Main definitions: `Yaml.Line`, `Yaml.isPrintable`, `Yaml.splitLines`, `Yaml.lines?`, `Yaml.body?`.
-/

namespace Flowgraph.Yaml

/-- A line that is not blank. -/
structure Line where
  /-- The number of blanks in front. -/
  indent : Nat
  /-- The text behind them. -/
  text : List Char
  /-- The number of blank lines in front. -/
  breaks : Nat := 0
  /-- Whether a comment stands in front. -/
  behindComment : Bool := false

/-- Whether a character may stand in a text. -/
def isPrintable (c : Char) : Bool :=
  let n := c.toNat
  c = '\t' || c = '\n' || c = '\r' || (0x20 ≤ n && n ≤ 0x7E) || n = 0x85 ||
    (0xA0 ≤ n && n ≤ 0xFFFD && n ≠ 0xFEFF) || 0x10000 ≤ n

/-- Whether a character ends a line. -/
def isBreak (c : Char) : Bool :=
  c = '\n' || c = '\r' || c.toNat = 0x85 || c.toNat = 0x2028 || c.toNat = 0x2029

/-- The characters with one line feed for each carriage return and line feed together. -/
def joinBreaks : List Char → List Char
  | '\r' :: '\n' :: rest => '\n' :: joinBreaks rest
  | c :: rest => c :: joinBreaks rest
  | [] => []

/-- The written lines of a text. -/
def splitLines (cs : List Char) : List (List Char) :=
  (joinBreaks cs).splitOnP isBreak

/-- The lines of written lines, behind so many blank ones or a comment. Tabs do not indent; they
belong to the text. -/
def linesOf (breaks : Nat) (behindComment : Bool) : List (List Char) → List Line
  | [] => []
  | cs :: rest =>
    let text := cs.dropWhile (· = ' ')
    let indent := cs.length - text.length
    match text with
    | [] => linesOf (breaks + 1) behindComment rest
    | '#' :: _ => linesOf 0 true rest
    | text => ⟨indent, text, breaks, behindComment⟩ :: linesOf 0 false rest

/-- The lines of a text, whose first character may be a byte order mark. -/
def lines? (cs : List Char) : Option (List Line) :=
  let cs := if cs.head? = some (Char.ofNat 0xFEFF) then cs.drop 1 else cs
  if cs.all isPrintable then some (linesOf 0 false (splitLines cs)) else none

/-- What stands behind the mark of a document at the beginning of a line. -/
def behindMark? (mark : String) (line : Line) : Option (List Char) :=
  if line.indent ≠ 0 then none
  else (Text.dropMark? mark.toList line.text).filter atGap

/-- Whether a line begins with the mark of a document's end. -/
def isEnd (line : Line) : Bool :=
  ((behindMark? "..." line).any endsLine)

/-- The lines of the only document, with what stands behind the mark at its beginning. A document
without that mark has lines. -/
def body? (lines : List Line) : Option (List Char × List Line) := do
  let first := (lines.head?).bind (behindMark? "---")
  let rest := if first.isSome then lines.drop 1 else lines
  let body := rest.takeWhile fun line => (behindMark? "..." line).isNone
  let ends := rest.drop body.length
  if body.any (fun line => (behindMark? "---" line).isSome) || !ends.all isEnd ||
      (first.isNone && body.isEmpty && !ends.isEmpty) then none
  else return (first.getD [], body)

end Flowgraph.Yaml

import Flowgraph.Yaml.Flow
import Flowgraph.Yaml.Line
/-!
# Reading YAML

Reads the part of YAML that configurations and models are written in: block maps and lists by
indentation, lists and maps in brackets on one line, quoted scalars on one line, plain scalars and
comments. The readers of blocks take lines off the front. Every step takes characters or brackets
away, so their number bounds the reading.

Main definitions: `Yaml.readScalar?`, `Yaml.readBlock?`, `Yaml.read?`.
-/

namespace Flowgraph.Yaml

/-! ## Entries and items -/

/-- The greatest distance of the colon behind a name from the beginning of the name. -/
def maxKey : Nat := 1024

/-- What follows the text behind a mark of a line, a comment aside. -/
def behindGap (cs : List Char) : List Char :=
  if endsLine cs then [] else skipGap cs

/-- The text behind the dash of a list item, and how far it is from the dash. -/
def item? : List Char → Option (Nat × List Char)
  | '-' :: rest =>
    if atGap rest then some (1 + (rest.length - (skipGap rest).length), behindGap rest) else none
  | _ => none

/-- The name and the rest of the line of a map entry. -/
def keyAndRest? (cs : List Char) : Option (String × List Char) :=
  match readQuoted? cs with
  | some (k, rest) =>
    match skipGap rest with
    | ':' :: after =>
      if atGap after && cs.length - (after.length + 1) ≤ maxKey then some (k, behindGap after)
      else none
    | _ => none
  | none => do
    let (before, _) ← splitAtColon? (cutComment ' ' cs)
    if startsPlain cs && before.length ≤ maxKey then
      return (String.ofList (trimGap before), behindGap (cs.drop (before.length + 1)))
    else none

/-! ## Scalars over lines -/

/-- The text of a plain scalar on one line, and whether a comment ends it there. -/
def plainPart? (cs : List Char) : Option (List Char × Bool) :=
  let kept := cutComment ' ' cs
  if (splitAtColon? kept).isNone then some (trimGap kept, kept.length < cs.length) else none

/-- Goes on with a plain scalar over the lines that are indented by `floor` or more; a line break
is a blank, and each blank line a line feed. `breaks` blank lines have been passed. A tab in front
of a text does not indent it, but may stand behind enough blanks. -/
def continuePlain? (floor : Nat) (done : List Char) (breaks : Nat) :
    List Line → Option (List Char × List Line)
  | [] => some (done, [])
  | line :: rest =>
    let text := skipGap line.text
    let breaks := breaks + line.breaks
    if line.behindComment then some (done, line :: rest)
    else if line.indent < floor then
      if line.text = text then some (done, line :: rest) else none
    else if text.isEmpty then continuePlain? floor done (breaks + 1) rest
    else if text.head? = some '#' then some (done, rest)
    else do
      let (part, ended) ← plainPart? text
      let done := done ++ (if breaks = 0 then [' '] else List.replicate breaks '\n') ++ part
      if ended then some (done, rest) else continuePlain? floor done 0 rest

/-- Reads a value that begins on a line and goes on over the lines that follow. -/
def readScalar? (floor : Nat) (cs : List Char) (rest : List Line) : Option (Node × List Line) :=
  match cs with
  | '[' :: _ | '\x7b' :: _ | '"' :: _ | '\'' :: _ => do
    let (node, after) ← readFlow? (2 * cs.length) cs
    if endsLine after then some (node, rest) else none
  | cs => do
    if !startsPlain cs then none
    else
      let (part, ended) ← plainPart? cs
      let (scalar, rest) ← if ended then some (part, rest) else continuePlain? floor part 0 rest
      return (.scalar (String.ofList scalar) false, rest)

/-! ## Blocks -/

mutual

/-- Reads the block at the front of some lines; its scalars go on over lines that are indented by
`floor` or more. -/
def readBlock? : Nat → Nat → List Line → Option (Node × List Line)
  | 0, _, _ => none
  | _, _, [] => none
  | fuel + 1, floor, line :: rest =>
    if (item? line.text).isSome then readItems? fuel line.indent [] (line :: rest)
    else if (keyAndRest? line.text).isSome then readEntries? fuel line.indent [] (line :: rest)
    else readScalar? floor line.text rest

/-- Reads what follows an empty place: a deeper block, or null. -/
def readBelow? : Nat → Nat → List Line → Option (Node × List Line)
  | 0, _, _ => none
  | _, _, [] => some (.scalar "" false, [])
  | fuel + 1, indent, line :: rest =>
    if indent < line.indent then readBlock? fuel (indent + 1) (line :: rest)
    else some (.scalar "" false, line :: rest)

/-- Reads the items of a list at an indentation. -/
def readItems? : Nat → Nat → List Node → List Line → Option (Node × List Line)
  | 0, _, _, _ => none
  | _, _, before, [] => some (.list before.reverse, [])
  | fuel + 1, indent, before, line :: rest =>
    if line.indent < indent then some (.list before.reverse, line :: rest)
    else if indent < line.indent then none
    else
      match item? line.text with
      | none => some (.list before.reverse, line :: rest)
      | some (_, []) => do
        let (node, rest) ← readBelow? fuel indent rest
        readItems? fuel indent (node :: before) rest
      | some (offset, text) => do
        let inner : Line := { indent := indent + offset, text }
        let (node, rest) ← readBlock? fuel (indent + 1) (inner :: rest)
        readItems? fuel indent (node :: before) rest

/-- Reads the entries of a map at an indentation. -/
def readEntries? : Nat → Nat → List (String × Node) → List Line → Option (Node × List Line)
  | 0, _, _, _ => none
  | _, _, before, [] => some (.map before.reverse, [])
  | fuel + 1, indent, before, line :: rest =>
    if line.indent < indent then some (.map before.reverse, line :: rest)
    else if indent < line.indent then none
    else
      match keyAndRest? line.text with
      | none => none
      | some (k, []) => do
        let (node, rest) ←
          match rest with
          | next :: _ =>
            if next.indent = indent && (item? next.text).isSome then readItems? fuel indent [] rest
            else readBelow? fuel indent rest
          | [] => some (.scalar "" false, [])
        readEntries? fuel indent ((k, node) :: before) rest
      | some (k, text) => do
        let (node, rest) ← readScalar? (indent + 1) text rest
        readEntries? fuel indent ((k, node) :: before) rest

end

/-- Reads a document; one without lines is an empty scalar. -/
def read? (s : String) : Option Node := do
  let (node, rest) ←
    match ← body? (← lines? s.toList) with
    | (first, lines) =>
      if !endsLine first then readScalar? 0 (skipGap first) lines
      else if lines.isEmpty then some (.scalar "" false, [])
      else readBlock? (4 * (s.length + 2)) 0 lines
  if rest.isEmpty then return node else none

end Flowgraph.Yaml

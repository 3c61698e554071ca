import Flowgraph.Text.Blank
import Flowgraph.Text.Search
import Flowgraph.Value.Basic
/-!
# Path templates

A path template matches the paths that have the same number of segments. A segment in braces
matches any segment and captures it under the name between them; every other segment matches
itself alone. Blanks and slashes at both ends do not count, nor does a request's query.

Main definitions: `PathTemplate.segments`, `PathTemplate.Segment`, `PathTemplate.matchPath?`.
-/

namespace Flowgraph.PathTemplate

/-- The segments of a path between its slashes. -/
def segments (path : List Char) : List String :=
  let inner := Text.dropEndWhile (· = '/') ((Text.trimBoth path).dropWhile (· = '/'))
  (inner.splitOn '/').map String.ofList

/-- What a segment of a template matches. -/
inductive Segment where
  /-- A segment that matches any other and captures it under a name. -/
  | capture (name : String)
  | literal (s : String)
  deriving DecidableEq

/-- The name in braces; there is none in a text without both of them. -/
def braced? (s : List Char) : Option (List Char) :=
  (Text.dropMark? ['\x7b'] s).bind fun rest =>
    if rest.getLast? = some '\x7d' then some rest.dropLast else none

/-- The meaning of a written segment. -/
def Segment.ofText (s : String) : Segment :=
  match braced? s.toList with
  | some name => .capture (String.ofList name)
  | none => .literal s

/-- What a template found in a path. -/
structure Match where
  /-- The number of segments that matched themselves. -/
  literals : Nat := 0
  /-- The captured segments by name. -/
  parameters : Value.Fields := []

/-- Matches one segment after those that gave `found`. -/
def step? (found : Match) (pattern : Segment) (segment : String) : Option Match :=
  match pattern with
  | .capture name =>
    some { found with parameters := Keyed.insert name (.text segment) found.parameters }
  | .literal s => if s = segment then some { found with literals := found.literals + 1 } else none

/-- Matches segments one after another. -/
def matchSegments? (found : Match) : List Segment → List String → Option Match
  | [], [] => some found
  | pattern :: patterns, segment :: rest =>
    (step? found pattern segment).bind fun found => matchSegments? found patterns rest
  | _, _ => none

/-- The segments of a template. -/
def patterns (template : String) : List Segment :=
  (segments template.toList).map .ofText

/-- Matches the path of a request, cut at its first question mark, with a template. -/
def matchPath? (template path : String) : Option Match :=
  matchSegments? {} (patterns template) (segments (Text.before '?' path.toList))

end Flowgraph.PathTemplate

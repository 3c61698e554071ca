import Flowgraph.Text.Blank
import Flowgraph.Text.Search
import Flowgraph.Yaml.Reader
/-!
# Paths of files

A path is a text with slashes between its parts. A path that begins with a tilde stands for one in
the home directory, and the extension of a path tells how its file is written.

Main definitions: `Path.join`, `Path.expandHome`, `Path.extension?`, `FileContent`,
`Path.readDocument?`.
Main statement: `expandHome_of_head`.
-/

namespace Flowgraph

/-- What reading a file as a text gives. -/
inductive FileContent where
  | text (s : String)
  | missing
  | unreadable (reason : String)

namespace Path

/-- A path behind another one; an absolute path stands for itself. -/
def join (base rest : String) : String :=
  if Text.startsWith rest "/" then rest
  else if base.isEmpty || Text.endsWith base "/" then base ++ rest
  else base ++ "/" ++ rest

/-- The path behind a tilde and a slash of either kind. -/
def behindTilde? (path : List Char) : Option (List Char) :=
  (Text.dropMark? ['~', '/'] path).or (Text.dropMark? ['~', '\\'] path)

/-- A path without blanks around it, with a tilde in front replaced by the home directory; where
that is unknown, a tilde stands for itself. -/
def expandHome (home : Option String) (path : String) : String :=
  let trimmed := Text.trimBoth path.toList
  if trimmed = ['~'] then home.getD "~"
  else
    match behindTilde? trimmed with
    | some rest => join (home.getD "~") (String.ofList rest)
    | none => String.ofList trimmed

/-- A path that does not begin with a tilde only loses the blanks around it. -/
theorem expandHome_of_head {home : Option String} {path : String}
    (h : (Text.trimBoth path.toList).head? ≠ some '~') :
    expandHome home path = Text.trim path := by
  simp only [expandHome, Text.trim, behindTilde?, Text.dropMark?]
  cases hp : Text.trimBoth path.toList with
  | nil => simp
  | cons c cs =>
    rw [hp] at h
    have hc : c ≠ '~' := by simpa using h
    simp [hc, Ne.symm hc]

/-- The last part of a path that is not empty. -/
def fileName? (path : String) : Option (List Char) :=
  ((path.toList.splitOn '/').filter fun part => !part.isEmpty && part ≠ ['.']).getLast?

/-- The text behind the last point of a file name that does not begin with it. -/
def extensionOf? (name : List Char) : Option (List Char) :=
  if name = ['.', '.'] then none
  else
    match (name.reverse.span (· ≠ '.')) with
    | (behind, '.' :: _ :: _) => some behind.reverse
    | _ => none

/-- The extension of a path. -/
def extension? (path : String) : Option String :=
  ((fileName? path).bind extensionOf?).map String.ofList

/-- Whether the file of a path is written in YAML. -/
def isYaml (path : String) : Bool :=
  extension? path = some "yaml" || extension? path = some "yml"

/-- The document of a file where a shape is wanted, in the form that its path names. -/
def readDocument? (shape : Shape) (path content : String) : Option Value :=
  if isYaml path then (Yaml.read? content).bind (Yaml.Node.toValue? shape)
  else (Value.readWritten? content.toList).bind (Written.shaped? shape)

end Path

end Flowgraph

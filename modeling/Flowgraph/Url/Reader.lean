import Flowgraph.Text.Blank
import Flowgraph.Url.Basic
/-!
# Reading URLs

`Url.read` reads an absolute URL by the rules that browsers share: blanks and control characters
at both ends and line breaks anywhere are dropped, the scheme and the host come to lower case, a
usual port is dropped, `.` and `..` are resolved in the path, and what is not safe in its part is
percent-encoded.

Main definitions: `Url.readScheme?`, `Url.readAuthority`, `Url.readPath`, `Url.read`.
-/

namespace Flowgraph.Url

/-! ## Scheme -/

/-- Whether a character may stand in a scheme behind its first letter. -/
def inScheme (c : Char) : Bool :=
  c.isAlphanum || c = '+' || c = '-' || c = '.'

/-- The scheme in front of the first colon, in lower case, and what follows the colon. -/
def readScheme? (cs : List Char) : Option (String × List Char) :=
  match cs.takeWhile inScheme, cs.dropWhile inScheme with
  | c :: scheme, ':' :: rest =>
    if c.isAlpha then some (Text.asciiLower (String.ofList (c :: scheme)), rest) else none
  | _, _ => none

/-! ## Authority -/

/-- Whether a character ends the authority. -/
def endsAuthority (special : Bool) (c : Char) : Bool :=
  c = '/' || c = '?' || c = '#' || (special && c = '\\')

/-- The text before and after the last at sign. -/
def cutAtSign? : List Char → Option (List Char × List Char)
  | [] => none
  | c :: cs =>
    match cutAtSign? cs with
    | some (before, after) => some (c :: before, after)
    | none => if c = '@' then some ([], cs) else none

/-- User name and password, encoded; none when both are empty. -/
def readUserInfo (cs : List Char) : Option (List Char) :=
  let user := Percent.encode Percent.inUserInfo (Text.before ':' cs)
  let password := Percent.encode Percent.inUserInfo ((cs.dropWhile (· != ':')).drop 1)
  if password.isEmpty then (if user.isEmpty then none else some user)
  else some (user ++ ':' :: password)

/-- The host in front and what follows it, from the first colon outside brackets on. -/
def takeHost (inBrackets : Bool) : List Char → List Char × List Char
  | [] => ([], [])
  | c :: cs =>
    if c = ':' ∧ !inBrackets then ([], c :: cs)
    else
      let inside := if c = '[' then true else if c = ']' then false else inBrackets
      let (host, rest) := takeHost inside cs
      (c :: host, rest)

/-- A port in digits, and what follows it, which is nothing or begins with a backslash; the usual
port of the scheme and no digits at all are no port. -/
def readPort (scheme : String) (cs : List Char) : Except UrlError (Option Nat × List Char) :=
  let (digits, rest) := Number.takeDigits cs
  let port := Number.natOfDigits digits
  if !rest.head?.all (· = '\\') ∨ 65535 < port then .error .invalidPort
  else if digits.isEmpty ∨ defaultPort? scheme = some port then .ok (none, rest)
  else .ok (some port, rest)

/-- The host and port behind the user name and password, and what follows them. -/
def readHostAndPort (scheme : String) (userInfo : Option (List Char)) (cs : List Char) :
    Except UrlError (Authority × List Char) := do
  let (hostText, rest) := takeHost false cs
  if hostText.isEmpty ∧ isSpecial scheme then .error .emptyHost
  let host ← if isSpecial scheme then Host.read hostText else Host.readLoose hostText
  if host.isEmpty ∧ (!rest.isEmpty ∨ userInfo.isSome) then .error .emptyHost
  let (port, rest) ← readPort scheme (rest.drop 1)
  return ({ userInfo, host, port }, rest)

/-- Reads the text between the double slash and the path; `atEnd` says that nothing follows it.
What is left of the text behind the port belongs to the path. -/
def readAuthority (scheme : String) (atEnd : Bool) (cs : List Char) :
    Except UrlError (Authority × List Char) :=
  match cutAtSign? cs with
  | some (info, rest) =>
    if info.isEmpty && rest.isEmpty && !atEnd then .error .emptyHost
    else readHostAndPort scheme (readUserInfo info) rest
  | none => readHostAndPort scheme none cs

/-! ## Path -/

/-- Whether a segment stands for its parent. -/
def isDoubleDot (cs : List Char) : Bool :=
  ["..", ".%2e", "%2e.", "%2e%2e"].contains (Text.asciiLower (String.ofList cs))

/-- Whether a segment stands for itself. -/
def isSingleDot (cs : List Char) : Bool :=
  [".", "%2e"].contains (Text.asciiLower (String.ofList cs))

/-- Whether a segment is the letter of a drive. -/
def isDriveLetter : List Char → Bool
  | [c, mark] => c.isAlpha && (mark = ':' || mark = '|')
  | _ => false

/-- Whether a segment is the letter of a drive, as far as its first backslash. -/
def isDriveSegment (name : List Char) : Bool :=
  isDriveLetter (name.takeWhile (· != '\\'))

/-- Drops the last segment, the letter of a drive excepted. -/
def shorten (names : List (List Char)) : List (List Char) :=
  if names.getLast?.any isDriveSegment then names else names.dropLast

/-- Adds one written segment to a path; `last` says that no slash follows it. -/
def addSegment (last : Bool) (names : List (List Char)) (cs : List Char) : List (List Char) :=
  if isDoubleDot cs then
    if last then shorten names ++ [[]] else shorten names
  else if isSingleDot cs then
    if last then names ++ [[]] else names
  else names ++ [Percent.encode Percent.inPath cs]

/-- Adds written segments one after another. -/
def addSegments : List (List Char) → List (List Char) → List (List Char)
  | names, [] => names
  | names, [cs] => addSegment true names cs
  | names, cs :: rest => addSegments (addSegment false names cs) rest

/-- The segments of a path behind its first slash. -/
def readSegments (scheme : String) (cs : List Char) : List (List Char) :=
  let separated := if isSpecial scheme then cs.map fun c => if c = '\\' then '/' else c else cs
  addSegments [] (separated.splitOn '/')

/-- Whether a text begins with a slash of the scheme. -/
def startsWithSlash (scheme : String) : List Char → Bool
  | c :: _ => c = '/' || (isSpecial scheme && c = '\\')
  | [] => false

/-- Reads the path behind an authority; only a special scheme has a path without text. -/
def readPath (scheme : String) (cs : List Char) : List (List Char) :=
  if startsWithSlash scheme cs then readSegments scheme (cs.drop 1)
  else if cs.isEmpty ∧ !isSpecial scheme then []
  else readSegments scheme cs

/-- Drops the empty segments in front of a file path, the last one excepted. -/
def dropEmptyFront : List (List Char) → List (List Char)
  | [] :: name :: rest => dropEmptyFront (name :: rest)
  | names => names

/-! ## Whole URLs -/

/-- The path with its query and fragment split off. -/
structure Tail where
  path : List Char
  query : Option (List Char)
  fragment : Option (List Char)

/-- Splits the query and the fragment off, encoded for the scheme. -/
def splitTail (scheme : String) (cs : List Char) : Tail :=
  let (front, fragment) := match Text.cutAt? ['#'] cs with
    | some (front, fragment) => (front, some (Percent.encode Percent.inFragment fragment))
    | none => (cs, none)
  let safe := if isSpecial scheme then Percent.inSpecialQuery else Percent.inQuery
  match Text.cutAt? ['?'] front with
  | some (path, query) => ⟨path, some (Percent.encode safe query), fragment⟩
  | none => ⟨front, none, fragment⟩

/-- Reads what follows the double slash. -/
def readBehindSlashes (scheme : String) (cs : List Char) : Except UrlError Url := do
  let ends := endsAuthority (isSpecial scheme)
  let rest := cs.dropWhile fun c => !ends c
  let (authority, left) ← readAuthority scheme rest.isEmpty (cs.takeWhile fun c => !ends c)
  let tail := splitTail scheme (left ++ rest)
  return {
    scheme, authority := some authority, path := .segments (readPath scheme tail.path)
    query := tail.query, fragment := tail.fragment }

/-- Puts the letter of a drive in the place of a host, with a colon behind it; without a host the
letter stays as it is written. -/
def placeDrive (host : Host) : List (List Char) → Host × List (List Char)
  | name :: rest =>
    if isDriveLetter name && !host.isEmpty then (.domain [], (name.take 1 ++ [':']) :: rest)
    else (host, name :: rest)
  | [] => (host, [])

/-- A file URL with a host, and what follows the host. -/
def fileUrl (host : Host) (cs : List Char) : Url :=
  let tail := splitTail "file" cs
  let (host, names) := placeDrive host (readPath "file" tail.path)
  { scheme := "file", authority := some { host }, path := .segments (dropEmptyFront names)
    query := tail.query, fragment := tail.fragment }

/-- The host of a file URL; the local host is the empty one. -/
def readFileHost (cs : List Char) : Except UrlError Host :=
  if cs.isEmpty then .ok (.domain [])
  else do
    match ← Host.read cs with
    | .domain name => return .domain (if name = "localhost".toList then [] else name)
    | host => return host

/-- Reads a file URL behind its scheme. The letter of a drive behind the double slash is no host. -/
def readFile (cs : List Char) : Except UrlError Url := do
  let isSlash (c : Char) : Bool := c = '/' || c = '\\'
  match cs with
  | a :: b :: rest =>
    if isSlash a && isSlash b then
      let hostText := rest.takeWhile fun c => !endsAuthority true c
      if isDriveLetter hostText then return fileUrl (.domain []) rest
      else
        let host ← readFileHost hostText
        return fileUrl host (rest.dropWhile fun c => !endsAuthority true c)
    else return fileUrl (.domain []) cs
  | _ => return fileUrl (.domain []) cs

/-- Reads a URL without a double slash under a scheme that is not special. -/
def readWithoutAuthority (scheme : String) (cs : List Char) : Url :=
  let tail := splitTail scheme cs
  let path := match tail.path with
    | '/' :: rest => .segments (readSegments scheme rest)
    | text => .plain (Percent.encode Percent.isPlain text)
  { scheme, path, query := tail.query, fragment := tail.fragment }

/-- Whether a character is dropped at both ends of a URL. -/
def isEdge (c : Char) : Bool :=
  c.toNat ≤ 32

/-- Whether a character is dropped anywhere in a URL. -/
def isDropped (c : Char) : Bool :=
  c = '\t' || c = '\n' || c = '\r'

/-- The characters of a URL that count. -/
def clean (s : String) : List Char :=
  (Text.dropEndWhile isEdge (s.toList.dropWhile isEdge)).filter fun c => !isDropped c

/-- Reads an absolute URL. -/
def read (s : String) : Except UrlError Url :=
  match readScheme? (clean s) with
  | none => .error .relativeWithoutBase
  | some (scheme, rest) =>
    if scheme = "file" then readFile rest
    else if isSpecial scheme then
      readBehindSlashes scheme (rest.dropWhile fun c => c = '/' || c = '\\')
    else
      match rest with
      | '/' :: '/' :: rest => readBehindSlashes scheme rest
      | rest => .ok (readWithoutAuthority scheme rest)

end Flowgraph.Url

import Flowgraph.Text.Blank
import Flowgraph.Text.Word
import Flowgraph.Url.Percent
/-!
# Hiding secrets in text

Before a text reaches a log, what looks like a secret in it is replaced by a mask: the value of an
authorization header, the value behind a name that ends in a secret's name, and the address of a
database. The three rules are applied one after another, each from left to right over the whole
text.

Main definitions: `Redaction.hide`, `Redaction.rules`, `Redaction.apply`.
-/

namespace Flowgraph.Redaction

/-- What stands in the place of a secret. -/
def mask : List Char := "<redacted>".toList

/-- A rule looks at the front of a text: the part to keep and the text behind the secret. -/
abbrev Rule := List Char → Option (List Char × List Char)

/-- Applies a rule at every place of a text, over at most `budget` places; the length of the text
is enough. -/
def hideWithin (rule : Rule) : Nat → List Char → List Char
  | 0, cs => cs
  | _, [] => []
  | budget + 1, c :: cs =>
    match rule (c :: cs) with
    | some (kept, rest) => kept ++ mask ++ hideWithin rule budget rest
    | none => c :: hideWithin rule budget cs

/-- Applies a rule at every place of a text. -/
def hide (rule : Rule) (cs : List Char) : List Char :=
  hideWithin rule cs.length cs

/-! ## Parts of the rules -/

/-- Lower case for the letters of ASCII and the two letters elsewhere that fold to one of them. -/
def fold (c : Char) : Char :=
  if c = '\u017f' then 's' else if c = '\u212a' then 'k' else c.toLower

/-- Splits a word off the front, in any case. -/
def takeWord? (word : String) (cs : List Char) : Option (List Char × List Char) :=
  let length := word.length
  if (cs.take length).map fold = word.toList then some (cs.take length, cs.drop length) else none

/-- Splits the longest run of characters with `p` off the front. -/
def takeRun (p : Char → Bool) (cs : List Char) : List Char × List Char :=
  (cs.takeWhile p, cs.dropWhile p)

/-- Splits a quote off the front, if there is one. -/
def takeQuote : List Char → List Char × List Char
  | c :: cs => if c = '"' ∨ c = '\'' then ([c], cs) else ([], c :: cs)
  | [] => ([], [])

/-- The kept part in front of a secret that is a run of characters with `p`, which must not be
empty. -/
def behind? (kept : List Char) (p : Char → Bool) (cs : List Char) :
    Option (List Char × List Char) :=
  let (secret, rest) := takeRun p cs
  if secret.isEmpty then none else some (kept, rest)

/-! ## The rules -/

/-- Whether a character belongs to the value of an authorization header. -/
def inAuthorization (c : Char) : Bool :=
  Text.isWordChar c || "-.=:/+ ".toList.contains c

/-- The value of an authorization header. -/
def authorization : Rule := fun cs => do
  let (kept, rest) ← takeWord? "authorization: " cs
  behind? kept inAuthorization rest

/-- The names of secrets; longer names may end in one of them. -/
def secretNames : List String :=
  ["key", "token", "secret", "password"]

/-- Whether a character belongs to a secret value. -/
def inSecret (c : Char) : Bool :=
  !Text.isBlank c && !("\"',\x7d".toList.contains c)

/-- The value behind the name of a secret: an optional quote, a colon or equals sign with blanks
around it, and an optional quote. -/
def namedSecret : Rule := fun cs => do
  let (name, rest) ← secretNames.findSome? fun name => takeWord? name cs
  let (quoteBefore, rest) := takeQuote rest
  let (blanksBefore, rest) := takeRun Text.isBlank rest
  match rest with
  | mark :: rest =>
    if mark = '=' ∨ mark = ':' then
      let (blanksBehind, rest) := takeRun Text.isBlank rest
      let (quoteBehind, rest) := takeQuote rest
      let kept := name ++ quoteBefore ++ blanksBefore ++ mark :: (blanksBehind ++ quoteBehind)
      behind? kept inSecret rest
    else none
  | [] => none

/-- The address of a database. -/
def databaseUrl : Rule := fun cs => do
  let (kept, rest) ← takeWord? "database_url=" cs
  behind? kept (fun c => !Text.isBlank c) rest

/-- The rules in the order in which they are applied. -/
def rules : List Rule :=
  [authorization, namedSecret, databaseUrl]

/-- A text with all secrets hidden. -/
def apply (s : String) : String :=
  String.ofList (rules.foldl (fun cs rule => hide rule cs) s.toList)

end Flowgraph.Redaction

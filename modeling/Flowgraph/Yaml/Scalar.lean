import Flowgraph.Text.Blank
import Flowgraph.Value.Reader
/-!
# Scalars of YAML

A scalar stands in double quotes with escapes, in single quotes, or plain. A plain scalar ends
before a comment and before a colon that a blank follows; blanks at its ends do not belong to it.

Main definitions: `Yaml.readQuoted?`, `Yaml.startsPlain`, `Yaml.splitAtColon?`, `Yaml.cutComment`.
-/

namespace Flowgraph.Yaml

/-- Whether a character separates the parts of a line. -/
def isGap (c : Char) : Bool :=
  c = ' ' || c = '\t'

/-- The text without the blanks in front. -/
def skipGap (cs : List Char) : List Char :=
  cs.dropWhile isGap

/-- The text without the blanks at both ends. -/
def trimGap (cs : List Char) : List Char :=
  Text.dropEndWhile isGap (skipGap cs)

/-- Whether a blank or the end of the line follows. -/
def atGap : List Char → Bool
  | [] => true
  | c :: _ => isGap c

/-! ## Quoted scalars -/

/-- The character of an escape of one character. -/
def escape? : Char → Option Char
  | '0' => some (Char.ofNat 0)
  | 'a' => some (Char.ofNat 7)
  | 'b' => some (Char.ofNat 8)
  | 't' => some '\t'
  | 'n' => some '\n'
  | 'v' => some (Char.ofNat 11)
  | 'f' => some (Char.ofNat 12)
  | 'r' => some '\r'
  | 'e' => some (Char.ofNat 27)
  | 'N' => some (Char.ofNat 0x85)
  | '_' => some (Char.ofNat 0xA0)
  | 'L' => some (Char.ofNat 0x2028)
  | 'P' => some (Char.ofNat 0x2029)
  | c => if c = ' ' ∨ c = '\t' ∨ c = '"' ∨ c = '/' ∨ c = '\\' then some c else none

/-- How many digits of base sixteen follow the mark of an escaped code point. -/
def escapeWidth? : Char → Option Nat
  | 'x' => some 2
  | 'u' => some 4
  | 'U' => some 8
  | _ => none

/-- The character of a code point in digits of base sixteen, surrogates aside. -/
def escapedPoint? (width : Nat) (cs : List Char) : Option Char := do
  if (cs.take width).length < width then none
  else
    let n ← (cs.take width).foldlM (fun n c => (Value.hexValue? c).map fun d => n * 16 + d) 0
    if n < 0xD800 ∨ (0xDFFF < n ∧ n < 0x110000) then some (Char.ofNat n) else none

/-- Reads a scalar in double quotes behind its opening quote, taking at most `fuel` steps. -/
def readDouble? : Nat → List Char → List Char → Option (String × List Char)
  | 0, _, _ | _, _, [] => none
  | fuel + 1, done, '\\' :: e :: rest =>
    match escapeWidth? e with
    | some width =>
      (escapedPoint? width rest).bind fun c => readDouble? fuel (c :: done) (rest.drop width)
    | none => (escape? e).bind fun c => readDouble? fuel (c :: done) rest
  | fuel + 1, done, c :: rest =>
    if c = '"' then some (String.ofList done.reverse, rest)
    else if c = '\\' then none
    else readDouble? fuel (c :: done) rest

/-- Reads a scalar in single quotes behind its opening quote; a quote inside is written twice. -/
def readSingle? (done : List Char) : List Char → Option (String × List Char)
  | [] => none
  | '\'' :: '\'' :: rest => readSingle? ('\'' :: done) rest
  | c :: rest =>
    if c = '\'' then some (String.ofList done.reverse, rest) else readSingle? (c :: done) rest

/-- Reads a quoted scalar at the front of a text. -/
def readQuoted? : List Char → Option (String × List Char)
  | '"' :: rest => readDouble? rest.length [] rest
  | '\'' :: rest => readSingle? [] rest
  | _ => none

/-! ## Plain scalars -/

/-- Whether a text may begin a plain scalar. -/
def startsPlain : List Char → Bool
  | [] => false
  | c :: rest =>
    if c = '-' ∨ c = '?' ∨ c = ':' then !atGap rest
    else !(isGap c || ",[]\x7b\x7d#&*!|>'\"%@\x60".toList.contains c)

/-- Splits off the text in front of the first colon that a blank or the end follows. -/
def splitAtColon? : List Char → Option (List Char × List Char)
  | [] => none
  | c :: rest =>
    if c = ':' ∧ atGap rest then some ([], rest)
    else (splitAtColon? rest).map fun (before, after) => (c :: before, after)

/-- The text in front of a comment, which begins behind a blank; `behind` stands before the text. -/
def cutComment (behind : Char) : List Char → List Char
  | [] => []
  | c :: rest => if c = '#' ∧ isGap behind then [] else c :: cutComment c rest

/-- Whether nothing but a comment is left of a line. -/
def endsLine (cs : List Char) : Bool :=
  (skipGap cs).head?.all (· = '#')

end Flowgraph.Yaml

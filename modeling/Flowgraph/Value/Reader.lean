import Flowgraph.Value.Written
/-!
# Reading written documents

`readWritten?` reads one document. The text is first cut into tokens, which a machine
with a stack of open lists and maps then puts together; both are total, one by a count of
characters and one by recursion on the tokens. An integer beyond 64 bits is read as the nearest
double; a number that no double is near to and a text with half of a pair of code units are
written correctly but have no value. `Value.read?` gives the value of the document.

Main definitions: `Token`, `tokens?`, `Assembly.step?`, `readWritten?`, `Value.read?`.
-/

namespace Flowgraph.Value

open Number

/-- A token of a written document. -/
inductive Token where
  | openList
  | closeList
  | openMap
  | closeMap
  | comma
  | colon
  | text (s : Option String)
  | atom (v : Option Value)

/-! ## Numbers -/

/-- The digits of a whole part: a lone zero, or digits without a zero in front. -/
def takeWhole : List Char → List Char × List Char
  | '0' :: rest => (['0'], rest)
  | cs => takeDigits cs

/-- A fraction behind a point must have a digit. -/
def takeFraction? : List Char → Option (Option (List Char) × List Char)
  | '.' :: rest =>
    let (ds, rest) := takeDigits rest
    if ds.isEmpty then none else some (some ds, rest)
  | cs => some (none, cs)

/-- The digits behind an exponent's sign, of which there must be one. -/
def takeExponentDigits? (negative : Bool) (cs : List Char) : Option (Option Int × List Char) :=
  let (ds, rest) := takeDigits cs
  if ds.isEmpty then none
  else some (some (if negative then -(natOfDigits ds : Int) else natOfDigits ds), rest)

/-- The exponent behind an exponent mark. -/
def takeExponent? : List Char → Option (Option Int × List Char)
  | c :: rest =>
    if c = 'e' ∨ c = 'E' then
      match rest with
      | '-' :: rest => takeExponentDigits? true rest
      | '+' :: rest => takeExponentDigits? false rest
      | rest => takeExponentDigits? false rest
    else some (none, c :: rest)
  | [] => some (none, [])

/-- The value of an integer numeral: an integer when 64 bits hold it, a double otherwise. Minus
zero is a double. -/
def ofIntegerNumeral? (negative : Bool) (n : Nat) : Option Value :=
  if negative ∧ n = 0 then some (.float (.zero true))
  else
    let i : Int := if negative then -n else n
    if isSigned64 i ∨ isUnsigned64 i then some (.int i)
    else (Decimal.toBinary64? ⟨negative, n, 0⟩).map .float

/-- Reads a number behind its sign; a number too large has no value. -/
def readMagnitude? (negative : Bool) (cs : List Char) : Option (Option Value × List Char) := do
  let (whole, rest) := takeWhole cs
  if whole.isEmpty then none
  else
    let (fraction, rest) ← takeFraction? rest
    let (exponent, rest) ← takeExponent? rest
    match fraction, exponent with
    | none, none => return (ofIntegerNumeral? negative (natOfDigits whole), rest)
    | _, _ =>
      let d := Decimal.ofParts negative whole (fraction.getD []) (exponent.getD 0)
      return (d.toBinary64?.map .float, rest)

/-- Reads a number. -/
def readNumber? : List Char → Option (Option Value × List Char)
  | '-' :: rest => readMagnitude? true rest
  | cs => readMagnitude? false cs

/-! ## Texts -/

/-- The value of a digit of base sixteen. -/
def hexValue? (c : Char) : Option Nat :=
  if '0' ≤ c ∧ c ≤ '9' then some (c.toNat - '0'.toNat)
  else if 'a' ≤ c ∧ c ≤ 'f' then some (c.toNat - 'a'.toNat + 10)
  else if 'A' ≤ c ∧ c ≤ 'F' then some (c.toNat - 'A'.toNat + 10)
  else none

/-- The number of four digits of base sixteen. -/
def hexWord? (a b c d : Char) : Option Nat := do
  return (((← hexValue? a) * 16 + (← hexValue? b)) * 16 + (← hexValue? c)) * 16 + (← hexValue? d)

/-- The character of a short escape. -/
def shortEscape? : Char → Option Char
  | '"' => some '"'
  | '\\' => some '\\'
  | '/' => some '/'
  | 'b' => some (Char.ofNat 8)
  | 'f' => some (Char.ofNat 12)
  | 'n' => some '\n'
  | 'r' => some '\r'
  | 't' => some '\t'
  | _ => none

/-- What a code unit adds to a text whose last escape left the first half `high` of a pair: a
character, or the first half of a new pair. -/
def joinUnit? (high : Option Nat) (unit : Nat) : Option (Option Nat × Option Char) :=
  match high with
  | some h =>
    if 0xDC00 ≤ unit ∧ unit < 0xE000 then
      some (none, some (Char.ofNat (0x10000 + (h - 0xD800) * 0x400 + (unit - 0xDC00))))
    else none
  | none =>
    if 0xD800 ≤ unit ∧ unit < 0xDC00 then some (some unit, none)
    else if 0xDC00 ≤ unit ∧ unit < 0xE000 then none
    else some (none, some (Char.ofNat unit))

/-- What has been read of a text in quotes. -/
inductive Draft where
  /-- The characters so far in reverse, and the first half of a pair whose second half is due. -/
  | whole (done : List Char) (high : Option Nat)
  /-- A half of a pair stands alone. -/
  | broken

namespace Draft

/-- Adds a character that is no code unit of a pair. -/
def add (c : Char) : Draft → Draft
  | whole done none => whole (c :: done) none
  | _ => broken

/-- Adds an escaped code unit. -/
def addUnit (unit : Nat) : Draft → Draft
  | whole done high =>
    match joinUnit? high unit with
    | some (high, c) => whole (c.toList ++ done) high
    | none => broken
  | broken => broken

/-- The text, if it is whole. -/
def finish? : Draft → Option String
  | whole done none => some (String.ofList done.reverse)
  | _ => none

end Draft

/-- Reads a text up to its closing quote; a text with half of a pair is none. -/
def readQuoted? (draft : Draft) : List Char → Option (Option String × List Char)
  | [] => none
  | '\\' :: 'u' :: a :: b :: c :: d :: rest =>
    match hexWord? a b c d with
    | some unit => readQuoted? (draft.addUnit unit) rest
    | none => none
  | '\\' :: e :: rest =>
    match shortEscape? e with
    | some ch => readQuoted? (draft.add ch) rest
    | none => none
  | c :: rest =>
    if c = '"' then some (draft.finish?, rest)
    else if c = '\\' ∨ c.toNat < 32 then none
    else readQuoted? (draft.add c) rest

/-! ## Tokens -/

/-- Whether a character may stand between tokens. -/
def isGap (c : Char) : Bool :=
  c = ' ' || c = '\n' || c = '\t' || c = '\r'

/-- The token that a text begins with, and the rest of the text. -/
def readToken? : List Char → Option (Token × List Char)
  | '[' :: rest => some (.openList, rest)
  | ']' :: rest => some (.closeList, rest)
  | '\x7b' :: rest => some (.openMap, rest)
  | '\x7d' :: rest => some (.closeMap, rest)
  | ',' :: rest => some (.comma, rest)
  | ':' :: rest => some (.colon, rest)
  | '"' :: rest => (readQuoted? (.whole [] none) rest).map fun (s, rest) => (.text s, rest)
  | 'n' :: 'u' :: 'l' :: 'l' :: rest => some (.atom (some .null), rest)
  | 't' :: 'r' :: 'u' :: 'e' :: rest => some (.atom (some (.bool true)), rest)
  | 'f' :: 'a' :: 'l' :: 's' :: 'e' :: rest => some (.atom (some (.bool false)), rest)
  | cs => (readNumber? cs).map fun (v, rest) => (.atom v, rest)

/-- The tokens of a text, reading at most `budget` of them; every token takes a character, so the
length of the text is enough. -/
def tokensWithin? : Nat → List Char → Option (List Token)
  | 0, cs => if (cs.dropWhile isGap).isEmpty then some [] else none
  | budget + 1, cs =>
    let cs := cs.dropWhile isGap
    if cs.isEmpty then some []
    else do
      let (token, rest) ← readToken? cs
      return token :: (← tokensWithin? budget rest)

/-- The tokens of a text. -/
def tokens? (cs : List Char) : Option (List Token) :=
  tokensWithin? cs.length cs

/-! ## Putting tokens together -/

/-- An open list or map, waiting for its next item. -/
inductive Frame where
  /-- A list with the items before, in reverse. -/
  | item (before : List Written)
  /-- A map with the entries before, in reverse, and the name of the item to come. -/
  | entry (before : List (Option String × Written)) (k : Option String)

/-- What is to come next, the open lists and maps aside. -/
inductive Stage where
  /-- A value. -/
  | value
  /-- A value or the end of the list just opened. -/
  | firstItem
  /-- A name, or the end of the map if it was just opened. -/
  | name (before : List (Option String × Written)) (justOpened : Bool)
  /-- The colon behind a name. -/
  | colon (before : List (Option String × Written)) (k : Option String)
  /-- A comma or the end of what is open, behind a finished value. -/
  | after (node : Written)

/-- A document read in part: what comes next and what is open, innermost first. -/
structure Assembly where
  stage : Stage
  openParts : List Frame

namespace Assembly

/-- Takes the first token of a value. -/
def begin? (openParts : List Frame) : Token → Option Assembly
  | .atom v => some ⟨.after (.atom v), openParts⟩
  | .text s => some ⟨.after (.atom (s.map .text)), openParts⟩
  | .openList => some ⟨.firstItem, openParts⟩
  | .openMap => some ⟨.name [] true, openParts⟩
  | _ => none

/-- Takes one token. -/
def step? : Assembly → Token → Option Assembly
  | ⟨.value, parts⟩, token => begin? parts token
  | ⟨.firstItem, parts⟩, .closeList => some ⟨.after (.list []), parts⟩
  | ⟨.firstItem, parts⟩, token => begin? (.item [] :: parts) token
  | ⟨.name before true, parts⟩, .closeMap => some ⟨.after (.map before.reverse), parts⟩
  | ⟨.name before _, parts⟩, .text k => some ⟨.colon before k, parts⟩
  | ⟨.colon before k, parts⟩, .colon => some ⟨.value, .entry before k :: parts⟩
  | ⟨.after node, .item before :: parts⟩, .comma => some ⟨.value, .item (node :: before) :: parts⟩
  | ⟨.after node, .item before :: parts⟩, .closeList =>
    some ⟨.after (.list (node :: before).reverse), parts⟩
  | ⟨.after node, .entry before k :: parts⟩, .comma =>
    some ⟨.name ((k, node) :: before) false, parts⟩
  | ⟨.after node, .entry before k :: parts⟩, .closeMap =>
    some ⟨.after (.map ((k, node) :: before).reverse), parts⟩
  | _, _ => none

/-- Takes all tokens in order. -/
def run? : Assembly → List Token → Option Assembly
  | a, [] => some a
  | a, token :: rest => (a.step? token).bind fun a => run? a rest

/-- The document that is complete. -/
def finished? : Assembly → Option Written
  | ⟨.after node, []⟩ => some node
  | _ => none

end Assembly

/-- Reads one document from a list of characters. -/
def readWritten? (cs : List Char) : Option Written := do
  let tokens ← tokens? cs
  let last ← Assembly.run? ⟨.value, []⟩ tokens
  last.finished?

/-- Reads one value from a list of characters. -/
def readChars? (cs : List Char) : Option Value :=
  (readWritten? cs).bind Written.toValue?

/-- Reads one value from a text. -/
def read? (s : String) : Option Value :=
  readChars? s.toList

end Flowgraph.Value

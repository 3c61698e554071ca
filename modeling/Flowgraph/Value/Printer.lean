import Flowgraph.Value.Basic
/-!
# Written documents

`Value.render` writes a value on one line without spaces, `Value.renderIndented` over several
lines with two spaces for each level. `Value.stringify` is the plain text of a value inside a
larger text: a text stands without quotes, all else as `render` writes it.

Main definitions: `Value.render`, `Value.renderIndented`, `Value.stringify`.
-/

namespace Flowgraph.Value

/-- A digit of base sixteen, in lower case. -/
def hexDigit (n : Nat) : Char :=
  Nat.digitChar n

/-- The written form of one character inside quotes. -/
def escapeChar (c : Char) : List Char :=
  if c = '"' then ['\\', '"']
  else if c = '\\' then ['\\', '\\']
  else if c.toNat = 8 then ['\\', 'b']
  else if c.toNat = 9 then ['\\', 't']
  else if c.toNat = 10 then ['\\', 'n']
  else if c.toNat = 12 then ['\\', 'f']
  else if c.toNat = 13 then ['\\', 'r']
  else if c.toNat < 32 then ['\\', 'u', '0', '0', hexDigit (c.toNat / 16), hexDigit (c.toNat % 16)]
  else [c]

/-- A text in quotes. -/
def quote (s : String) : String :=
  String.ofList ('"' :: (s.toList.flatMap escapeChar ++ ['"']))

/-- The written form of a value without parts. -/
def renderAtom : Value → String
  | .bool true => "true"
  | .bool false => "false"
  | .int n => String.ofList (Number.signedDigits n)
  | .float x => x.render
  | .text s => quote s
  | _ => "null"

/-! ## On one line -/

mutual

/-- The written form on one line, without spaces. -/
def render : Value → String
  | .list items => "[" ++ renderItems items ++ "]"
  | .map fields => "\x7b" ++ renderFields fields ++ "\x7d"
  | v => renderAtom v

/-- The items separated by commas. -/
def renderItems : List Value → String
  | [] => ""
  | [v] => render v
  | v :: w :: rest => render v ++ "," ++ renderItems (w :: rest)

/-- The entries separated by commas. -/
def renderFields : List (String × Value) → String
  | [] => ""
  | [(k, v)] => quote k ++ ":" ++ render v
  | (k, v) :: e :: rest => quote k ++ ":" ++ render v ++ "," ++ renderFields (e :: rest)

end

/-- The plain text of a value: a text as it is, all else in its written form. -/
def stringify : Value → String
  | .text s => s
  | v => render v

/-! ## Over several lines -/

/-- A line break and the indentation of a level. -/
def lineBreak (level : Nat) : String :=
  String.ofList ('\n' :: List.replicate (2 * level) ' ')

mutual

/-- The written form over several lines, from a level of indentation on. -/
def renderFrom (level : Nat) : Value → String
  | .list [] => "[]"
  | .map [] => "\x7b\x7d"
  | .list items => "[" ++ indentItems (level + 1) items ++ lineBreak level ++ "]"
  | .map fields => "\x7b" ++ indentFields (level + 1) fields ++ lineBreak level ++ "\x7d"
  | v => renderAtom v

/-- The items, each on its own line. -/
def indentItems (level : Nat) : List Value → String
  | [] => ""
  | [v] => lineBreak level ++ renderFrom level v
  | v :: w :: rest =>
    lineBreak level ++ renderFrom level v ++ "," ++ indentItems level (w :: rest)

/-- The entries, each on its own line. -/
def indentFields (level : Nat) : List (String × Value) → String
  | [] => ""
  | [(k, v)] => lineBreak level ++ quote k ++ ": " ++ renderFrom level v
  | (k, v) :: e :: rest =>
    lineBreak level ++ quote k ++ ": " ++ renderFrom level v ++ "," ++
      indentFields level (e :: rest)

end

/-- The written form over several lines, two spaces for each level. -/
def renderIndented (v : Value) : String :=
  renderFrom 0 v

end Flowgraph.Value

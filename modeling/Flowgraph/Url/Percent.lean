import Flowgraph.Text.Octets
/-!
# Percent encoding

Characters outside a set of safe ones are written as their octets, each a percent sign and two
digits of base sixteen. The sets are those of the parts of a URL; `encodeAll` leaves only ASCII
letters and digits as they are, and `encodeForm` is the form of query parameters.

Main definitions: `Percent.encode`, `Percent.encodeAll`, `Percent.encodeForm`, `Percent.decode`.
-/

namespace Flowgraph.Percent

/-- A digit of base sixteen in upper case. -/
def upperHexDigit (n : Nat) : Char :=
  (Nat.digitChar n).toUpper

/-- An octet as a percent sign and two digits. -/
def encodeOctet (b : UInt8) : List Char :=
  ['%', upperHexDigit (b.toNat / 16), upperHexDigit (b.toNat % 16)]

/-- A character as it is when it is safe, else as its encoded octets. -/
def encodeChar (safe : Char → Bool) (c : Char) : List Char :=
  if safe c then [c] else (String.utf8EncodeChar c).flatMap encodeOctet

/-- A text with every character that is not safe encoded. -/
def encode (safe : Char → Bool) (cs : List Char) : List Char :=
  cs.flatMap (encodeChar safe)

/-! ## Safe characters of the parts of a URL -/

/-- Whether a character is printable ASCII, the blank included. -/
def isPlain (c : Char) : Bool :=
  ' ' ≤ c && c ≤ '~'

/-- Whether a character is a letter or a digit of ASCII. -/
def isAlphanumeric (c : Char) : Bool :=
  c.isAlphanum

/-- Safe in a fragment. -/
def inFragment (c : Char) : Bool :=
  isPlain c && !(" \"<>`".toList.contains c)

/-- Safe in the query of a scheme that is not special. -/
def inQuery (c : Char) : Bool :=
  isPlain c && !(" \"#<>".toList.contains c)

/-- Safe in the query of a special scheme. -/
def inSpecialQuery (c : Char) : Bool :=
  inQuery c && c != '\''

/-- Safe in a segment of a path. -/
def inPath (c : Char) : Bool :=
  inFragment c && !("#?\x7b\x7d".toList.contains c)

/-- Safe in a user name or password. -/
def inUserInfo (c : Char) : Bool :=
  inPath c && !("/:;=@[\\]^|".toList.contains c)

/-- Encodes everything but the letters and digits of ASCII. -/
def encodeAll (s : String) : String :=
  String.ofList (encode isAlphanumeric s.toList)

/-- Whether a character stands as it is in a query parameter. -/
def inForm (c : Char) : Bool :=
  isAlphanumeric c || c = '*' || c = '-' || c = '.' || c = '_'

/-- A text as a name or value of a query parameter; a blank is a plus sign. -/
def encodeForm (s : String) : List Char :=
  s.toList.flatMap fun c => if c = ' ' then ['+'] else encodeChar inForm c

/-! ## Decoding -/

/-- The value of a digit of base sixteen. -/
def hexValue? (b : UInt8) : Option Nat :=
  let n := b.toNat
  if 48 ≤ n ∧ n ≤ 57 then some (n - 48)
  else if 97 ≤ n ∧ n ≤ 102 then some (n - 87)
  else if 65 ≤ n ∧ n ≤ 70 then some (n - 55)
  else none

/-- The octets of a text, encoded ones decoded; a percent sign without two digits stands for
itself. -/
def decode : List UInt8 → List UInt8
  | 37 :: a :: b :: rest =>
    match hexValue? a, hexValue? b with
    | some high, some low => UInt8.ofNat (16 * high + low) :: decode rest
    | _, _ => 37 :: decode (a :: b :: rest)
  | b :: rest => b :: decode rest
  | [] => []

end Flowgraph.Percent

import Flowgraph.Number.Decimal
import Flowgraph.Value.Reader
/-!
# YAML trees

A YAML document is a tree of scalars, lists and maps. What a plain scalar means depends on what is
wanted in its place: where a text is wanted it is that text, and otherwise it is null, a truth
value or a number if it is written like one. A quoted scalar is always a text. A structure is
written as a map that names each of its fields once, and what stands under other names does not
matter.

Main definitions: `Yaml.Node`, `Yaml.resolve`, `Yaml.readPlain`, `Yaml.Node.toValue?`.
-/

namespace Flowgraph.Yaml

/-- A YAML tree. -/
inductive Node where
  | scalar (s : String) (quoted : Bool)
  | list (items : List Node)
  | map (entries : List (String × Node))

/-! ## Plain scalars -/

/-- Whether a plain scalar stands for null. -/
def isNullWord (s : String) : Bool :=
  ["", "~", "null", "Null", "NULL"].contains s

/-- The truth value that a plain scalar stands for. -/
def boolWord? (s : String) : Option Bool :=
  if ["true", "True", "TRUE"].contains s then some true
  else if ["false", "False", "FALSE"].contains s then some false
  else none

/-- Splits a sign off the front: whether it is a minus, and the rest. -/
def takeSign : List Char → Bool × List Char
  | '-' :: cs => (true, cs)
  | '+' :: cs => (false, cs)
  | cs => (false, cs)

/-- Whether a scalar is digits behind a zero, which is no number. -/
def hasLeadingZero (cs : List Char) : Bool :=
  match (takeSign cs).2 with
  | '0' :: c :: rest => (c :: rest).all Number.isDigit
  | _ => false

/-- The number of a non-empty run of digits of a base up to sixteen. -/
def natOfBase? (base : Nat) (cs : List Char) : Option Nat :=
  if cs.isEmpty then none
  else cs.foldlM (fun n c => (Value.hexValue? c).bind fun d =>
    if d < base then some (n * base + d) else none) 0

/-- The magnitude of an integer in base ten, or in the base that its mark names. -/
def magnitude? : List Char → Option Nat
  | '0' :: 'x' :: cs => natOfBase? 16 cs
  | '0' :: 'o' :: cs => natOfBase? 8 cs
  | '0' :: 'b' :: cs => natOfBase? 2 cs
  | cs => Number.readNat? cs

/-- The integer of 64 bits that a plain scalar writes. -/
def integer? (cs : List Char) : Option Int :=
  if hasLeadingZero cs then none
  else
    let (negative, rest) := takeSign cs
    (magnitude? rest).bind fun n =>
      if negative then Number.within? Number.isSigned64 (-(n : Int))
      else Number.within? Number.isUnsigned64 n

/-- Whether a scalar writes an infinity or no number at all; documents have null for these. -/
def isNotFinite (s : String) : Bool :=
  [".inf", ".Inf", ".INF", "+.inf", "+.Inf", "+.INF", "-.inf", "-.Inf", "-.INF", ".nan", ".NaN",
    ".NAN"].contains s

/-- The double that a plain scalar writes. -/
def double? (cs : List Char) : Option Binary64 :=
  if hasLeadingZero cs then none else (Decimal.read? cs).bind Decimal.toBinary64?

/-- What a plain scalar means where anything is wanted. -/
def resolve (s : String) : Value :=
  if isNullWord s || isNotFinite s then .null
  else
    match boolWord? s, integer? s.toList, double? s.toList with
    | some flag, _, _ => .bool flag
    | none, some n, _ => .int n
    | none, none, some x => .float x
    | none, none, none => .text s

/-! ## Scalars where a shape is wanted -/

/-- The integer that a plain scalar writes where none below zero is wanted. -/
def unsigned? (cs : List Char) : Option Int :=
  if cs.head? = some '-' then none else integer? cs

/-- What an empty plain scalar means. -/
def blankValue : Shape → Value
  | .text => .text ""
  | .list _ => .list []
  | .arrivals _ | .fields _ => .emptyMap
  | _ => .null

/-- What a plain scalar means. -/
def readPlain (shape : Shape) (s : String) : Value :=
  if s.isEmpty then blankValue shape
  else
    match shape with
    | .text => .text s
    | .textOrNull => if isNullWord s then .null else .text s
    | .unsigned => ((unsigned? s.toList).map .int).getD (.text s)
    | _ => resolve s

/-- Whether a list may stand where a shape is wanted; a structure is always a map. -/
def mayBeList : Shape → Bool
  | .fields _ => false
  | _ => true

namespace Node

mutual

/-- The value of a tree where a shape is wanted. -/
def toValue? (shape : Shape) : Node → Option Value
  | .scalar s true => some (.text s)
  | .scalar s false => some (readPlain shape s)
  | .list items => if mayBeList shape then (itemValues? shape 0 items).map .list else none
  | .map entries => do
    let values ← entryValues? shape entries
    if shape.repeats (Keyed.keys values) then none else return .map (shape.arrange values)

/-- The values of the items of a list from a place on. -/
def itemValues? (shape : Shape) (place : Nat) : List Node → Option (List Value)
  | [] => some []
  | node :: rest => do
    return (← toValue? (shape.item place) node) :: (← itemValues? shape (place + 1) rest)

/-- The values of the entries of a map that are not passed over. -/
def entryValues? (shape : Shape) : List (String × Node) → Option (List (String × Value))
  | [] => some []
  | (k, node) :: rest =>
    if shape.skips k then entryValues? shape rest
    else do return (k, ← toValue? (shape.entry k) node) :: (← entryValues? shape rest)

end

end Node

end Flowgraph.Yaml

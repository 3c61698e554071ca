import Flowgraph.Value.Coerce
/-!
# Comparing two values

An operator first brings both sides to a common kind, the first of date, decimal, truth value and
text that either side has. A date counts only when each side that is not null reads as one. What
cannot be read as the common kind compares as null, and only two operands of one kind are ordered.

Main definitions: `Operator`, `Operand`, `Comparison.kindOf`, `Comparison.compare`.
Main statement: `Operator.ofName?_name`.
-/

namespace Flowgraph

/-- The operators of a comparison. -/
inductive Operator where
  | equal
  | notEqual
  | greater
  | greaterEqual
  | less
  | lessEqual
  | contains
  | notContains
  deriving DecidableEq

namespace Operator

/-- All operators in their usual order. -/
def all : List Operator :=
  [equal, notEqual, greater, greaterEqual, less, lessEqual, contains, notContains]

/-- The name of an operator in a document. -/
def name : Operator → String
  | equal => "Equal"
  | notEqual => "NotEqual"
  | greater => "Greater"
  | greaterEqual => "GreaterEqual"
  | less => "Less"
  | lessEqual => "LessEqual"
  | contains => "Contains"
  | notContains => "NotContains"

/-- The names of all operators. -/
def names : List String :=
  all.map name

/-- The operator of a name. -/
def ofName? (s : String) : Option Operator :=
  all.find? fun op => op.name = s

/-- The operator of a name, or the message that there is none. -/
def read (s : String) : Except String Operator :=
  match ofName? s with
  | some op => .ok op
  | none => .error s!"unknown operator '{s}'"

theorem ofName?_name (op : Operator) : ofName? op.name = some op := by
  cases op <;> decide

end Operator

/-- One side of a comparison, brought to the common kind. -/
inductive Operand where
  | null
  | date (t : Instant)
  | decimal (x : Binary64)
  | bool (flag : Bool)
  | text (s : String)
  | other (v : Value)

namespace Operand

/-- Whether two operands are of one kind and equal. -/
def beq : Operand → Operand → Bool
  | .null, .null => true
  | .date a, .date b => a = b
  | .decimal a, .decimal b => a == b
  | .bool a, .bool b => a == b
  | .text a, .text b => a == b
  | .other a, .other b => a == b
  | _, _ => false

/-- The order of two operands of one ordered kind; false comes before true. -/
def order? : Operand → Operand → Option Ordering
  | .date a, .date b => some (a.compare b)
  | .decimal a, .decimal b => some (a.compare b)
  | .bool a, .bool b => some (compare a b)
  | .text a, .text b => some (compare a b)
  | _, _ => none

end Operand

namespace Comparison

/-- The kinds to which the two sides of a comparison are brought. -/
inductive Kind where
  | date
  | decimal
  | bool
  | text
  | other
  deriving DecidableEq

/-- Whether a value is a text that reads as a point in time. -/
def looksLikeDate (v : Value) : Bool :=
  match v with
  | .text s => (Instant.read? s).isSome
  | _ => false

/-- Whether a value is a truth value. -/
def isBool : Value → Bool
  | .bool _ => true
  | _ => false

/-- Whether a value is a text. -/
def isText : Value → Bool
  | .text _ => true
  | _ => false

/-- Whether a value does not stand in the way of comparing as dates. -/
def allowsDate (v : Value) : Bool :=
  v.isNull || looksLikeDate v

/-- The common kind of two values. -/
def kindOf (left right : Value) : Kind :=
  if (looksLikeDate left || looksLikeDate right) && allowsDate left && allowsDate right then .date
  else if left.isNumber || right.isNumber then .decimal
  else if isBool left || isBool right then .bool
  else if isText left || isText right then .text
  else .other

/-- A value as an operand of a kind, null when it cannot be read as that kind. -/
def toOperand (kind : Kind) (v : Value) : Operand :=
  if v.isNull then .null
  else
    match kind with
    | .date => (v.toInstant?.map .date).getD .null
    | .decimal => (v.toDecimal?.map .decimal).getD .null
    | .bool => (v.toBool?.map .bool).getD .null
    | .text => .text v.stringify
    | .other => .other v

/-- The two sides as operands of their common kind. -/
def operands (left right : Value) : Operand × Operand :=
  let kind := kindOf left right
  (toOperand kind left, toOperand kind right)

/-- Whether two values are equal as operands of their common kind. -/
def equal (left right : Value) : Bool :=
  let (l, r) := operands left right
  l.beq r

/-- The order of two values as operands of their common kind. -/
def order? (left right : Value) : Option Ordering :=
  let (l, r) := operands left right
  l.order? r

/-- Whether a list has an item equal to a value, or a map a name that is the value's text; only
lists and maps contain anything. -/
def containment? (collection item : Value) : Option Bool :=
  match collection with
  | .list items => some (items.any fun element => equal element item)
  | .map fields => some (!item.isNull && Keyed.has item.stringify fields)
  | _ => none

/-- The result of an operator on two values. -/
def holds (left : Value) (op : Operator) (right : Value) : Bool :=
  match op with
  | .equal => equal left right
  | .notEqual => !equal left right
  | .greater => (order? left right).any Ordering.isGT
  | .greaterEqual => (order? left right).any Ordering.isGE
  | .less => (order? left right).any Ordering.isLT
  | .lessEqual => (order? left right).any Ordering.isLE
  | .contains => (containment? left right).any id
  | .notContains => (containment? left right).any not

/-- The result of a comparison; without an operator it is the left side, if that is a truth
value. -/
def compare (left : Value) (op : Option Operator) (right : Value) : Bool :=
  match op with
  | some op => holds left op right
  | none => left matches .bool true

end Comparison

end Flowgraph

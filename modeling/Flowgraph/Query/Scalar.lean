import Flowgraph.Schema.FieldKind
import Flowgraph.Value.Coerce
/-!
# Values of a field's kind

Before a query compares anything, both the value of a rule and the value of a record are read as
the declared kind of the field. Scalars of one kind are ordered; sorting also places null, before
everything else, and leaves unordered pairs as they are.

Main definitions: `Scalar`, `Scalar.read?`, `Scalar.ofValue`, `Scalar.order?`,
`Scalar.sortOrder`.
Main statement: `order?_null_left`.
-/

namespace Flowgraph

/-- A value of a field's kind. -/
inductive Scalar where
  | null
  | bool (flag : Bool)
  | int (n : Int)
  | decimal (x : Binary64)
  | text (s : String)
  | date (t : Instant)
  | json (v : Value)

namespace Scalar

/-- The variant that a value names, by text as it is or by ordinal. -/
def readVariant? (variants : List String) (v : Value) : Option Scalar :=
  if v.isNumber then (v.unsigned64?.bind fun ordinal => variants[ordinal]?).map .text
  else some (.text v.stringify)

/-- Reads a value as a kind; `none` when a value that is not null cannot be read so. -/
def read? (kind : FieldKind) (v : Value) : Option Scalar :=
  if v.isNull then some .null
  else
    match kind with
    | .text => some (.text v.stringify)
    | .bool => v.toBool?.map .bool
    | .int | .long => v.toSigned64?.map .int
    | .decimal => v.toDecimal?.map .decimal
    | .date => v.toInstant?.map .date
    | .enumeration variants => readVariant? variants v
    | _ => some (.json v)

/-- A value as a kind, null when it cannot be read so. -/
def ofValue (kind : FieldKind) (v : Value) : Scalar :=
  (read? kind v).getD .null

/-- Whether a scalar is null. -/
def isNull : Scalar → Bool
  | .null => true
  | _ => false

/-- The order of two scalars of comparable kinds. Documents are only ever equal or unordered. -/
def order? : Scalar → Scalar → Option Ordering
  | .null, .null => some .eq
  | .bool a, .bool b => some (compare a b)
  | .int a, .int b => some (compare a b)
  | .decimal a, .decimal b => some (a.compare b)
  | .int a, .decimal b => some ((Binary64.ofInt a).compare b)
  | .decimal a, .int b => some (a.compare (Binary64.ofInt b))
  | .text a, .text b => some (compare a b)
  | .date a, .date b => some (a.compare b)
  | .json a, .json b => if a == b then some .eq else none
  | _, _ => none

/-- Whether two scalars are comparable and equal. -/
def equals (a b : Scalar) : Bool :=
  a.order? b == some .eq

/-- The order for sorting: null first, unordered pairs equal. -/
def sortOrder (a b : Scalar) : Ordering :=
  match a.isNull, b.isNull with
  | true, true => .eq
  | true, false => .lt
  | false, true => .gt
  | false, false => (a.order? b).getD .eq

/-- Null is comparable with null alone. -/
theorem order?_null_left (b : Scalar) : order? .null b = if b.isNull then some .eq else none := by
  cases b <;> rfl

end Scalar

end Flowgraph

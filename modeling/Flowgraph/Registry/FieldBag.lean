import Flowgraph.Model.Node
import Flowgraph.Registry.PropertyValue
import Flowgraph.Value.Coerce
/-!
# Populated fields

The fields that were found and could be read, by name, with getters for each shape. Scalars are
values of their field's kind; a date is its written form and a variant its name. Taking a field
drops it from the bag, whether or not it has the wanted shape.

Main definitions: `FieldValue`, `FieldBag`, its getters, `FieldBag.erase`, `FieldBag.toRecord`.
-/

namespace Flowgraph

/-- The value of a populated field. -/
inductive FieldValue where
  | scalar (v : Value)
  | action (id : NodeId)
  | actions (slots : List (String × NodeId))
  | property (v : PropertyValue)
  | list (items : List FieldValue)

namespace FieldValue

mutual

/-- The value of a scalar, or the list of values of a list; other fields have none. -/
def toValue? : FieldValue → Option Value
  | .scalar v => some v
  | .list items => some (.list (valuesOf items))
  | _ => none

/-- The values of the items that have one. -/
def valuesOf : List FieldValue → List Value
  | [] => []
  | item :: rest =>
    match toValue? item with
    | some v => v :: valuesOf rest
    | none => valuesOf rest

end

/-- The parsed property of a property field. -/
def property? : FieldValue → Option PropertyValue
  | property v => some v
  | _ => none

end FieldValue

/-- The populated fields of one value. -/
structure FieldBag where
  /-- The node or type that the fields belong to. -/
  owner : String
  values : List (String × FieldValue) := []

namespace FieldBag

/-- Adds a field, in the place of an earlier one of its name. -/
def insert (bag : FieldBag) (name : String) (v : FieldValue) : FieldBag :=
  { bag with values := Keyed.put name v bag.values }

/-- What is left of the fields once the one of a name is taken. -/
def erase (bag : FieldBag) (name : String) : FieldBag :=
  { bag with values := Keyed.erase name bag.values }

/-- The field of a name. -/
def get? (bag : FieldBag) (name : String) : Option FieldValue :=
  Keyed.get? name bag.values

/-- The value of a scalar field that is not null. -/
def scalar? (bag : FieldBag) (name : String) : Option Value :=
  match bag.get? name with
  | some (.scalar .null) => none
  | some (.scalar v) => some v
  | _ => none

/-- The plain text of a scalar field. -/
def text? (bag : FieldBag) (name : String) : Option String :=
  (bag.scalar? name).map Value.stringify

/-- The truth value of a scalar field. -/
def bool? (bag : FieldBag) (name : String) : Option Bool :=
  (bag.scalar? name).bind fun
    | .bool flag => some flag
    | _ => none

/-- The integer of a scalar field. -/
def int? (bag : FieldBag) (name : String) : Option Int :=
  (bag.scalar? name).bind Value.signed64?

/-- The number of a scalar field as a double. -/
def decimal? (bag : FieldBag) (name : String) : Option Binary64 :=
  (bag.scalar? name).bind Value.toBinary64?

/-- The point in time of a scalar field. -/
def date? (bag : FieldBag) (name : String) : Option Instant :=
  (bag.scalar? name).bind Value.toInstant?

/-- The value of a scalar or list field, unless it is null. -/
def json? (bag : FieldBag) (name : String) : Option Value :=
  ((bag.get? name).bind FieldValue.toValue?).filter fun v => !v.isNull

/-- The entries of a map field, none when there is no such field. -/
def map (bag : FieldBag) (name : String) : Value.Fields :=
  ((bag.scalar? name).bind Value.fields?).getD []

/-- The items of a list field, none when there is no such field. -/
def list (bag : FieldBag) (name : String) : List Value :=
  ((bag.json? name).bind Value.items?).getD []

/-- The name of a variant field. -/
def variantName? (bag : FieldBag) (name : String) : Option String :=
  (bag.scalar? name).bind Value.text?

/-- The node of an action slot. -/
def action? (bag : FieldBag) (name : String) : Option NodeId :=
  match bag.get? name with
  | some (.action id) => some id
  | _ => none

/-- The nodes of all action slots. -/
def actions (bag : FieldBag) (name : String) : List (String × NodeId) :=
  match bag.get? name with
  | some (.actions slots) => slots
  | _ => []

/-- The property of a property field that has the wanted shape. -/
def property? {α : Type} (pick : PropertyValue → Option α) (bag : FieldBag) (name : String) :
    Option α :=
  match bag.get? name with
  | some (.property v) => pick v
  | _ => none

/-- The properties of the wanted shape in a list field; a lone property is a list of one. -/
def properties {α : Type} (pick : PropertyValue → Option α) (bag : FieldBag) (name : String) :
    List α :=
  match bag.get? name with
  | some (.list items) => items.filterMap fun item => item.property?.bind pick
  | some (.property v) => (pick v).toList
  | _ => []

/-- The fields that have a value, as a record. -/
def toRecord (bag : FieldBag) : Record :=
  Keyed.sorted (bag.values.filterMap fun (name, v) => v.toValue?.map fun v => (name, v))

theorem get?_insert (bag : FieldBag) (name other : String) (v : FieldValue) :
    (bag.insert name v).get? other = if name = other then some v else bag.get? other :=
  Keyed.get?_put ..

end FieldBag

end Flowgraph

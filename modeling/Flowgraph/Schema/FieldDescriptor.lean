import Flowgraph.Schema.FieldKind
/-!
# Declared fields

A field descriptor names one field, its kind and, optionally, the value that stands in for one
that cannot be read. A list of descriptors holds at most one of each name when it is built by
`FieldDescriptor.declare`.

Main definitions: `FieldDescriptor`, `FieldDescriptor.declare`, `FieldDescriptor.find?`.
Main statement: `find?_declare`.
-/

namespace Flowgraph

/-- One declared field. -/
structure FieldDescriptor where
  name : String
  kind : FieldKind
  /-- What a value that cannot be read is replaced by. -/
  default : Option Value := none
  nullable : Bool := false

namespace FieldDescriptor

/-- A field that has nothing to stand in for it and may not be null. -/
def plain (name : String) (kind : FieldKind) : FieldDescriptor :=
  { name, kind }

/-- The field with a value to stand in for one that cannot be read. -/
def withDefault (field : FieldDescriptor) (v : Value) : FieldDescriptor :=
  { field with default := some v }

/-- The field, marked as one that may be null. -/
def asNullable (field : FieldDescriptor) : FieldDescriptor :=
  { field with nullable := true }

/-- The first field of a name. -/
def find? (name : String) (fields : List FieldDescriptor) : Option FieldDescriptor :=
  fields.find? fun field => field.name = name

/-- Declares a field at the end, in place of an earlier one of its name. -/
def declare (fields : List FieldDescriptor) (field : FieldDescriptor) : List FieldDescriptor :=
  fields.filter (fun earlier => earlier.name ≠ field.name) ++ [field]

/-- Declares fields one after another. -/
def declareAll (fields additions : List FieldDescriptor) : List FieldDescriptor :=
  additions.foldl declare fields

/-- The description of a field in a catalogue. -/
def describe (field : FieldDescriptor) : Value :=
  .ofEntries <|
    ("kind", field.kind.describe) ::
      ((field.default.map fun v => ("default", v)).toList ++
        (if field.nullable then [("nullable", .bool true)] else []))

/-- A declaration is found under its own name and hides no other. -/
theorem find?_declare (name : String) (fields : List FieldDescriptor) (field : FieldDescriptor) :
    find? name (declare fields field) =
      if field.name = name then some field else find? name fields := by
  induction fields with
  | nil => simp [declare, find?, List.find?_cons]; split <;> simp_all
  | cons earlier rest ih =>
    simp only [declare, find?] at ih ⊢
    grind

end FieldDescriptor

end Flowgraph

import Flowgraph.Schema.FieldDescriptor
/-!
# Record types

A record is a map from the names of fields to values. Its schema names the record type, its
fields and the field that identifies a record.

Main definitions: `Record`, `RecordSchema`, `RecordSchema.keyOf?`, `RecordSchema.describe`.
Main statement: `keyOf?_insert`.
-/

namespace Flowgraph

/-- The values of a record by the names of its fields. -/
abbrev Record := List (String × Value)

/-- The declared shape of a record type. -/
structure RecordSchema where
  name : String
  primaryKey : String
  fields : List FieldDescriptor := []

namespace RecordSchema

/-- The schema with further fields declared. -/
def withFields (schema : RecordSchema) (fields : List FieldDescriptor) : RecordSchema :=
  { schema with fields := FieldDescriptor.declareAll schema.fields fields }

/-- The declared field of a name. -/
def field? (schema : RecordSchema) (name : String) : Option FieldDescriptor :=
  FieldDescriptor.find? name schema.fields

/-- The declared field that identifies a record. -/
def primaryKeyField? (schema : RecordSchema) : Option FieldDescriptor :=
  schema.field? schema.primaryKey

/-- The key of a record, if it has one that is not null. -/
def keyOf? (schema : RecordSchema) (record : Record) : Option Value :=
  (Keyed.get? schema.primaryKey record).filter fun v => !v.isNull

/-- The key of a record that a key was written into. -/
theorem keyOf?_insert (schema : RecordSchema) (key : Value) (record : Record) :
    schema.keyOf? (Keyed.insert schema.primaryKey key record) =
      if key.isNull then none else some key := by
  rw [keyOf?, Keyed.get?_insert, if_pos rfl, Option.filter_some]
  cases key.isNull <;> rfl

/-- A record has a key that is not null. -/
theorem isNull_of_keyOf? {schema : RecordSchema} {record : Record} {key : Value}
    (h : schema.keyOf? record = some key) : key.isNull = false := by
  rw [keyOf?, Option.filter_eq_some_iff] at h
  simpa using h.2

/-- Whether keys are integers that the store may generate. -/
def hasIntegerKey (schema : RecordSchema) : Bool :=
  schema.primaryKeyField?.any fun field => field.kind = .int || field.kind = .long

/-- The description of fields by name. -/
def describeFields (fields : List FieldDescriptor) : Value :=
  .ofEntries (fields.map fun field => (field.name, field.describe))

/-- The description of a schema in a catalogue. -/
def describe (schema : RecordSchema) : Value :=
  .ofEntries
    [("name", .text schema.name), ("primaryKey", .text schema.primaryKey),
      ("fields", describeFields schema.fields)]

end RecordSchema

end Flowgraph

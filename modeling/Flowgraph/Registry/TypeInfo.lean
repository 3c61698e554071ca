import Flowgraph.Schema.RecordSchema
/-!
# Descriptions of registered types

A registered type has a name in documents, a qualified name that identifies it, the qualified
names of its ancestors, nearest first, and its declared fields, inherited ones included.

Main definitions: `TypeInfo`, `TypeInfo.withField`, `TypeInfo.derive`, `TypeInfo.isA`.
Main statements: `field?_withField`, `isA_self`, `isA_derive`.
-/

namespace Flowgraph

/-- The description of a registered type. -/
structure TypeInfo where
  name : String
  qualifiedName : String
  /-- The qualified names of all ancestors, nearest first. -/
  lineage : List String := []
  isAbstract : Bool := false
  fields : List FieldDescriptor := []

namespace TypeInfo

/-- The type with a field declared, in place of one of the same name. -/
def withField (info : TypeInfo) (field : FieldDescriptor) : TypeInfo :=
  { info with fields := FieldDescriptor.declare info.fields field }

/-- The type with fields declared one after another. -/
def withFields (info : TypeInfo) (fields : List FieldDescriptor) : TypeInfo :=
  fields.foldl withField info

/-- The type as a child of another one: the fields of the parent come first, those of the type
replace inherited ones of the same name. -/
def derive (info parent : TypeInfo) : TypeInfo :=
  { info with
    lineage := parent.qualifiedName :: parent.lineage
    fields := FieldDescriptor.declareAll parent.fields info.fields }

/-- The type, marked as one without values of its own. -/
def asAbstract (info : TypeInfo) : TypeInfo :=
  { info with isAbstract := true }

/-- The declared field of a name. -/
def field? (info : TypeInfo) (name : String) : Option FieldDescriptor :=
  FieldDescriptor.find? name info.fields

/-- Whether a type is another one or descends from it. -/
def isA (info other : TypeInfo) : Bool :=
  info.qualifiedName = other.qualifiedName || info.lineage.contains other.qualifiedName

/-- The description of a type in a catalogue. -/
def describe (info : TypeInfo) : Value :=
  let slots := info.fields.filter fun field => field.kind.isActionSlot
  let properties := info.fields.filter fun field => !field.kind.isActionSlot
  .ofEntries
    [("qualifiedName", .text info.qualifiedName), ("extends", .ofTexts info.lineage),
      ("abstract", .bool info.isAbstract), ("properties", RecordSchema.describeFields properties),
      ("actions", .ofEntries (slots.map fun field => (field.name, field.kind.describe)))]

theorem field?_withField (info : TypeInfo) (field : FieldDescriptor) (name : String) :
    (info.withField field).field? name =
      if field.name = name then some field else info.field? name :=
  FieldDescriptor.find?_declare ..

@[simp] theorem isA_self (info : TypeInfo) : info.isA info = true := by
  simp [isA]

/-- A type derived from another one is one of that type's kind. -/
theorem isA_derive (info parent : TypeInfo) : (info.derive parent).isA parent = true := by
  simp [isA, derive]

end TypeInfo

/-- The type of the records of a schema. -/
def RecordSchema.typeInfo (schema : RecordSchema) : TypeInfo :=
  TypeInfo.withFields ⟨schema.name, "record::" ++ schema.name, [], false, []⟩ schema.fields

end Flowgraph

import Flowgraph.Text.Blank
import Flowgraph.Text.Search
import Flowgraph.Value.Basic
/-!
# Kinds of fields

The kind of value that a declared field accepts: scalars, documents as they are, registered
property types, action slots, and lists of these.

Main definitions: `FieldKind`, `FieldKind.ofName?`, `FieldKind.isScalar`, `FieldKind.label`,
`FieldKind.describe`.
Main statement: `isActionSlot_of_isScalar`.
-/

namespace Flowgraph

/-- The kind of value that a field accepts. -/
inductive FieldKind where
  | text
  | bool
  /-- An integer of 32 bits. -/
  | int
  /-- An integer of 64 bits. -/
  | long
  | decimal
  | date
  /-- One of some variants, by its exact name or its place. -/
  | enumeration (variants : List String)
  /-- Any value, as it is. -/
  | json
  | map
  /-- A value of a registered property type or of one of its subtypes. -/
  | capability (base : String)
  /-- One action slot. -/
  | childAction
  /-- All action slots. -/
  | actionMap
  | list (inner : FieldKind)
  deriving DecidableEq

namespace FieldKind

/-- The short names of kinds in configurations. -/
def shortNames : List (String × FieldKind) :=
  [("string", text), ("text", text), ("bool", bool), ("boolean", bool), ("int", int),
    ("integer", int), ("long", long), ("decimal", decimal), ("double", decimal),
    ("number", decimal), ("date", date), ("datetime", date), ("json", json), ("any", json),
    ("map", map), ("object", map)]

/-- The kind of a short name, in any case and with blanks around it. -/
def ofName? (name : String) : Option FieldKind :=
  Keyed.get? (Text.asciiLower (Text.trim name)) shortNames

/-- Whether the values of a kind are action slots. -/
def isActionSlot : FieldKind → Bool
  | childAction | actionMap => true
  | _ => false

/-- Whether the values of a kind are scalars. -/
def isScalar : FieldKind → Bool
  | text | bool | int | long | decimal | date | enumeration _ => true
  | _ => false

/-- Action slots are no scalars. -/
theorem isActionSlot_of_isScalar {kind : FieldKind} (h : kind.isScalar = true) :
    kind.isActionSlot = false := by
  cases kind with
  | childAction => cases h
  | actionMap => cases h
  | _ => rfl

/-- The name of a kind in messages. -/
def label : FieldKind → String
  | text => "string"
  | bool => "bool"
  | int => "int"
  | long => "long"
  | decimal => "decimal"
  | date => "date"
  | enumeration _ => "enum"
  | json => "json"
  | map => "map"
  | capability base => base
  | childAction => "action"
  | actionMap => "action map"
  | list inner => "list of " ++ inner.label

/-- The description of a kind in a catalogue. -/
def describe : FieldKind → Value
  | enumeration variants => .map [("enum", .ofTexts variants)]
  | capability base => .map [("type", .text base)]
  | list inner => .map [("list", inner.describe)]
  | kind => .text kind.label

end FieldKind

end Flowgraph

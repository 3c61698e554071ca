import Flowgraph.Value.Decode
/-!
# Nodes

A node of a model: the name of its registered type, its properties as they are written, and named
action slots that point at other nodes by their ids, so that chains may run in circles.

Main definitions: `Node`, `Node.encode`, `Node.decode?`.
-/

namespace Flowgraph

/-- The identifier of a node. -/
abbrev NodeId := String

/-- One node of a model. -/
structure Node where
  id : NodeId
  type : String
  name : String := ""
  folder : Option String := none
  properties : Value.Fields := []
  /-- The nodes that the action slots point at. -/
  actions : List (String × NodeId) := []

namespace Node

/-- The slots as a map. -/
def encodeSlots (slots : List (String × NodeId)) : Value :=
  .ofEntries (slots.map fun (slot, id) => (slot, .text id))

/-- The node as a document. -/
def encode (node : Node) : Value :=
  .ofEntries <|
    [("id", .text node.id), ("type", .text node.type), ("name", .text node.name),
      ("properties", .map node.properties), ("actions", encodeSlots node.actions)] ++
      (node.folder.map fun folder => ("folder", .text folder)).toList

/-- The fields of a written node in order. -/
def slots : List Value.Slot :=
  [⟨"id", false⟩, ⟨"type", false⟩, ⟨"name", true⟩, ⟨"folder", true⟩, ⟨"properties", true⟩,
    ⟨"actions", true⟩]

/-- Reads a node from a document. -/
def decode? (v : Value) : Option Node := do
  match ← v.slots? slots with
  | [id, type, name, folder, properties, actions] =>
    return {
      id := ← Value.required Value.text? id
      type := ← Value.required Value.text? type
      name := ← Value.defaulted "" Value.text? name
      folder := ← Value.optional Value.text? folder
      properties := ← Value.defaulted [] Value.fields? properties
      actions := ← Value.defaulted [] (Value.mapOf Value.text?) actions }
  | _ => none

end Node

end Flowgraph

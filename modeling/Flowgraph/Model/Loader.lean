import Flowgraph.Model.Basic
import Flowgraph.Value.Reader
/-!
# Loading models

A model document is a map with the node sections and `environmentData`. A section is a list of
nodes or a map of nodes by id. A node may hold other nodes in its action slots; each of them is
stored under its own id, or under the id of its parent, a slash and the name of the slot, and the
slot keeps the id alone. `Model.loadNode` turns a node object into the nodes inside it, children
before their parent, and the model stores them in that order.

Main definitions: `ModelError`, `Model.loadNode`, `Model.ofValue`, `Model.ofText`.
-/

namespace Flowgraph

/-- What is wrong with a model document. -/
inductive ModelError where
  /-- The document is no map. -/
  | notAnObject
  /-- A section is neither a list nor a map. -/
  | invalidSection (part : String)
  /-- A node of a list has no id. -/
  | missingId (part : String)
  | invalidNode (id reason : String)
  | invalidEnvironmentData (reason : String)
  /-- The text is no document. -/
  | unreadable

/-- The message of an error; a text that is no document has none. -/
def ModelError.message? : ModelError → Option String
  | notAnObject => some "model document must be a JSON object"
  | invalidSection part => some s!"section '{part}' must be a list or a map of nodes"
  | missingId part => some s!"node in section '{part}' has no '_id' and no key to derive one from"
  | invalidNode id reason => some s!"node '{id}' is invalid: {reason}"
  | invalidEnvironmentData reason => some s!"invalid environmentData: {reason}"
  | unreadable => none

namespace Model

/-- The nodes inside one node object, children before their parent. The first argument is the id to
use when the object has none, the second the section for messages. -/
abbrev NodeLoader := Option NodeId → String → Except ModelError (NodeId × List Node)

/-- The value of a field under its name, or under another one when the name is not there. -/
def aliased? (object : Value.Fields) (name other : String) : Option Value :=
  (Keyed.get? name object).or (Keyed.get? other object)

/-- The id of a node object. -/
def readId (object : Value.Fields) (fallback : Option NodeId) (part : String) :
    Except ModelError NodeId :=
  match (aliased? object "_id" "id").bind Value.text?, fallback with
  | some id, _ => .ok id
  | none, some id => .ok id
  | none, none => .error (.missingId part)

/-- The type of a node object, empty when it names none. -/
def readType (object : Value.Fields) (id : NodeId) : Except ModelError String :=
  match aliased? object "_type" "type" with
  | some (.text type) => .ok type
  | none | some .null => .ok ""
  | some _ => .error (.invalidNode id "'_type' must be a string")

/-- The properties of a node object. -/
def readProperties (object : Value.Fields) (id : NodeId) : Except ModelError Value.Fields :=
  match Keyed.get? "properties" object with
  | some (.map properties) => .ok properties
  | none | some .null => .ok []
  | some _ => .error (.invalidNode id "'properties' must be an object")

/-- One action slot as it is written, with the loader of the node that it may hold. -/
structure WrittenSlot where
  name : String
  target : Value
  load : NodeLoader

/-- Loads the slots of a node one after another: the ids that they point at, and the nodes that
they hold. -/
def loadSlots (id : NodeId) (part : String) :
    List WrittenSlot → Except ModelError (List (String × NodeId) × List Node)
  | [] => .ok ([], [])
  | slot :: rest =>
    match slot.target with
    | .null => loadSlots id part rest
    | .text target => do
      let (slots, nodes) ← loadSlots id part rest
      return ((slot.name, target) :: slots, nodes)
    | .map _ => do
      let (child, inner) ← slot.load (some s!"{id}/{slot.name}") part
      let (slots, nodes) ← loadSlots id part rest
      return ((slot.name, child) :: slots, inner ++ nodes)
    | _ =>
      .error (.invalidNode id s!"action slot '{slot.name}' must be a node id or an inline node")

/-- Loads a node object whose written slots are given. -/
def loadObject (object : Value.Fields) (written : List WrittenSlot) : NodeLoader :=
  fun fallback part => do
    let id ← readId object fallback part
    let type ← readType object id
    let properties ← readProperties object id
    let (slots, nodes) ←
      match Keyed.get? "actions" object with
      | none | some .null | some (.map _) => loadSlots id part written
      | some _ => .error (.invalidNode id "'actions' must be an object")
    let node : Node :=
      { id, type, properties
        name := ((Keyed.get? "name" object).bind Value.text?).getD ""
        folder := (aliased? object "_folder" "folder").bind Value.text?
        actions := slots }
    return (id, nodes ++ [node])

mutual

/-- The loader of a node value. -/
def loadNode : Value → NodeLoader
  | .map object => loadObject object (writtenSlots object)
  | _ => fun fallback _ =>
    .error (.invalidNode (fallback.getD "<unknown>") "node must be an object")

/-- The written slots of a node object. -/
def writtenSlots : List (String × Value) → List WrittenSlot
  | [] => []
  | (k, v) :: rest => if k = "actions" then slotsOfMap v else writtenSlots rest

/-- The written slots of the value under `actions`. -/
def slotsOfMap : Value → List WrittenSlot
  | .map entries => slotsOfEntries entries
  | _ => []

/-- The written slots of the entries under `actions`. -/
def slotsOfEntries : List (String × Value) → List WrittenSlot
  | [] => []
  | (k, v) :: rest => ⟨k, v, loadNode v⟩ :: slotsOfEntries rest

end

/-! ## Documents -/

/-- Loads one entry of a section. -/
def loadEntry (part : Section) (model : Model) (fallback : Option NodeId) (v : Value) :
    Except ModelError Model := do
  let (id, nodes) ← loadNode v fallback part.key
  return (nodes.foldl store model).addMember part id

/-- Loads a section. -/
def loadSection (model : Model) (part : Section) : Option Value → Except ModelError Model
  | none | some .null => .ok model
  | some (.list entries) => entries.foldlM (fun model v => loadEntry part model none v) model
  | some (.map entries) =>
    entries.foldlM (fun model (k, v) => loadEntry part model (some k) v) model
  | some _ => .error (.invalidSection part.key)

/-- Loads the environments of a document. -/
def loadEnvironments (model : Model) : Option Value → Except ModelError Model
  | none | some .null => .ok model
  | some v =>
    match EnvironmentTable.ofValue v with
    | .ok environments => .ok { model with environments }
    | .error reason => .error (.invalidEnvironmentData reason)

/-- Loads a model from a document. -/
def ofValue : Value → Except ModelError Model
  | .map root => do
    let model ← Section.all.foldlM
      (fun model part => loadSection model part (Keyed.get? part.key root)) empty
    loadEnvironments model (Keyed.get? "environmentData" root)
  | _ => .error .notAnObject

/-- Loads a model from a text. -/
def ofText (s : String) : Except ModelError Model :=
  match Value.read? s with
  | some v => ofValue v
  | none => .error .unreadable

end Model

end Flowgraph

import Flowgraph.Model.ActionResult
import Flowgraph.Model.Environment
/-!
# Models

A model holds its nodes by id in order of arrival, the members of its sections, its environments
and the name of the active one.

Main definitions: `Section`, `Model`, `Model.insert`, `Model.node?`, `Model.action?`,
`Model.setEnvironment?`.
Main statements: `node?_insert`, `action?_eq_node?`.
-/

namespace Flowgraph

/-- The node sections of a model. -/
inductive Section where
  | controllers
  | graphs
  | actions
  | types
  | folders
  deriving DecidableEq

namespace Section

/-- All sections in the order in which they are loaded. -/
def all : List Section :=
  [controllers, graphs, actions, types, folders]

/-- The name of a section in a document. -/
def key : Section → String
  | controllers => "controllers"
  | graphs => "graphs"
  | actions => "actions"
  | types => "types"
  | folders => "folders"

/-- The section of a name. -/
def ofKey? (s : String) : Option Section :=
  all.find? fun part => part.key = s

theorem ofKey?_key (part : Section) : ofKey? part.key = some part := by
  cases part <;> decide

end Section

/-- The nodes, sections and environments of an application. -/
structure Model where
  nodes : List (NodeId × Node) := []
  /-- The members of each section in order, by the name of the section. -/
  members : List (String × List NodeId) := []
  environments : EnvironmentTable := {}
  activeEnvironment : String := "Prod"

namespace Model

/-- The model without nodes. -/
def empty : Model := {}

/-- The members of a section in order. -/
def sectionIds (model : Model) (part : Section) : List NodeId :=
  (Keyed.get? part.key model.members).getD []

/-- Stores a node under its id, in the place of an earlier one. -/
def store (model : Model) (node : Node) : Model :=
  { model with nodes := Keyed.put node.id node model.nodes }

/-- Adds a member to a section. -/
def addMember (model : Model) (part : Section) (id : NodeId) : Model :=
  { model with members := Keyed.put part.key (model.sectionIds part ++ [id]) model.members }

/-- Stores a node and makes it a member of a section, once. -/
def insert (model : Model) (part : Section) (node : Node) : Model :=
  if (model.sectionIds part).contains node.id then model.store node
  else (model.store node).addMember part node.id

/-- The node of an id. -/
def node? (model : Model) (id : NodeId) : Option Node :=
  Keyed.get? id model.nodes

/-- The node of an id that is a member of a section. -/
def member? (model : Model) (part : Section) (id : NodeId) : Option Node :=
  if (model.sectionIds part).contains id then model.node? id else none

/-- The action node of an id: a member of the actions, else any node. -/
def action? (model : Model) (id : NodeId) : Option Node :=
  (model.member? .actions id).or (model.node? id)

/-- The endpoint node of an id: a controller, else a graph. -/
def endpoint? (model : Model) (id : NodeId) : Option Node :=
  (model.member? .controllers id).or (model.member? .graphs id)

/-- The nodes of a section in order. -/
def sectionNodes (model : Model) (part : Section) : List Node :=
  (model.sectionIds part).filterMap model.node?

/-- The model with another active environment, if it is a known one. -/
def setEnvironment? (model : Model) (name : String) : Option Model :=
  if model.environments.contains name then some { model with activeEnvironment := name } else none

/-- The variables of the active environment. -/
def environmentVariables (model : Model) : Value.Fields :=
  model.environments.valuesIn model.activeEnvironment

/-! ## Looking up after storing -/

theorem node?_store (model : Model) (node : Node) (id : NodeId) :
    (model.store node).node? id = if node.id = id then some node else model.node? id :=
  Keyed.get?_put ..

theorem node?_insert (model : Model) (part : Section) (node : Node) (id : NodeId) :
    (model.insert part node).node? id = if node.id = id then some node else model.node? id := by
  rw [insert]
  split
  · exact node?_store ..
  · exact node?_store ..

/-- Every action id that is a node at all is found. -/
theorem action?_eq_node? (model : Model) (id : NodeId) : model.action? id = model.node? id := by
  simp only [action?, member?]
  split <;> simp

end Model

end Flowgraph

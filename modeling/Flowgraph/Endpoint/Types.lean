import Flowgraph.Endpoint.Basic
import Flowgraph.Registry.Catalog
/-!
# Built-in endpoint types

The descriptions of the endpoint types that every registry has, and what builds their endpoints
from populated fields.

Main definitions: `EndpointTypes.registrations`, the description and the factory of each type.
-/

namespace Flowgraph.EndpointTypes

open FieldDescriptor (plain)

/-- The abstract type of endpoints with the fields of their access policy. -/
def endpoint : TypeInfo where
  name := "Endpoint"
  qualifiedName := "nodeflow::Endpoint"
  isAbstract := true
  fields :=
    [(plain "allowAnonymous" .bool).withDefault (.bool false), plain "allowedRoles" .text,
      plain "allowedScopes" .text, plain "allowedCondition" (.capability "Condition")]

/-- The type of controllers, with an action slot for each method. -/
def controller : TypeInfo :=
  TypeInfo.derive
    { name := "Controller"
      qualifiedName := "nodeflow::Controller"
      fields :=
        [plain "path" .text, plain "queryArgs" .json, plain "body" .json, plain "output" .json] ++
          Method.all.map fun method => plain method.verb .childAction }
    endpoint

/-- The abstract type of graphs. -/
def graph : TypeInfo :=
  TypeInfo.derive
    { name := "Graph"
      qualifiedName := "nodeflow::Graph"
      isAbstract := true
      fields :=
        [plain "input" .json, plain "output" .json, plain "condition" (.capability "Condition"),
          plain "execute" .childAction] }
    endpoint

/-- The type of graphs that answer. -/
def query : TypeInfo :=
  TypeInfo.derive { name := "Query", qualifiedName := "nodeflow::Query" } graph

/-- The type of graphs that change something. -/
def mutation : TypeInfo :=
  TypeInfo.derive { name := "Mutation", qualifiedName := "nodeflow::Mutation" } graph

/-! ## Factories -/

/-- The nodes of the slots that are set, by their methods. -/
def routesOf (bag : FieldBag) : List (Method × NodeId) :=
  Method.all.filterMap fun method => (bag.action? method.verb).map fun id => (method, id)

/-- Builds a `Controller`. -/
def buildController : EndpointFactory := fun bag =>
  .ok <| .controller
    { path := bag.text? "path"
      queryArgs := bag.json? "queryArgs"
      body := bag.json? "body"
      output := bag.json? "output" }
    (routesOf bag) (.ofBag bag)

/-- Builds a `Query` or a `Mutation`. -/
def buildGraph : EndpointFactory := fun bag =>
  .ok <| .graph { input := bag.json? "input", output := bag.json? "output" }
    (bag.property? PropertyValue.condition? "condition") (bag.action? "execute") (.ofBag bag)

/-- The built-in endpoint types with their factories. -/
def registrations : List (Registration EndpointFactory) :=
  [⟨endpoint, none⟩, ⟨graph, none⟩, ⟨controller, some buildController⟩, ⟨query, some buildGraph⟩,
    ⟨mutation, some buildGraph⟩]

end Flowgraph.EndpointTypes

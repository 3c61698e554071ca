import Flowgraph.Registry.Basic
/-!
# Applications and their worlds

An application is a model with the registry of the types that it uses and the transport that its
calls go through. A world is what a run reads and writes: a context, and the stores.

Main definitions: `Application`, `Application.instantiate`, `World`, `Outcome`.
-/

namespace Flowgraph

/-- A model, the types that it uses, and the transport of its calls. -/
structure Application where
  registry : Registry
  model : Model
  /-- What answers a request: the value of its body, or why there is none. -/
  transport : Request → Except String Value

namespace Application

/-- A node whose properties are evaluated in a context. -/
def evaluateNode (node : Node) (context : Context) : Node :=
  { node with properties := Template.evaluateFields context node.properties }

/-- The action of a node whose properties are evaluated in a context. -/
def instantiate (app : Application) (node : Node) (context : Context) :
    Except RegistryError Action :=
  app.registry.instantiateAction app.model (evaluateNode node context)

/-- The endpoint of a node whose properties are evaluated in a context. -/
def instantiateEndpoint (app : Application) (node : Node) (context : Context) :
    Except RegistryError Endpoint :=
  app.registry.instantiateEndpoint app.model (evaluateNode node context)

end Application

/-- What a run reads and writes. -/
structure World where
  context : Context
  stores : List Provider := []

/-- A result with the world that it leaves behind. -/
abbrev Outcome := ActionResult × World

namespace World

/-- Binds a data entry of the context. -/
def bind (world : World) (k : String) (v : Value) : World :=
  { world with context := world.context.insert k v }

/-- Drops an entry of the context. -/
def remove (world : World) (k : String) : World :=
  { world with context := world.context.remove k }

end World

end Flowgraph

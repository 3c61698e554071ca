import Flowgraph.Run.Chain
import Flowgraph.Run.Routing
/-!
# Invocations

An endpoint is invoked with a method by a principal. The principal is bound in the context, the
endpoint is made of its evaluated properties, and its chain runs only if the endpoint serves the
method, its policy permits the principal and its own condition holds.

Main definitions: `Admission`, `Application.authorize`, `Application.invoke`, `Application.handle`.
Main statements: `authorize_eq_entry_iff`, `handle_of_route?_eq_none`.
-/

namespace Flowgraph

/-- What an invocation comes to before its chain runs. -/
inductive Admission where
  | notFound
  | unauthorized
  /-- The chain of a node is to be run. -/
  | entry (id : NodeId)
  deriving DecidableEq

/-- Whether an endpoint lets a principal in. -/
def Endpoint.lets (endpoint : Endpoint) (principal : Principal) : Bool :=
  endpoint.access.permits principal && endpoint.precondition

namespace Application

/-- The world in which an endpoint is evaluated for a principal. -/
def introduce (app : Application) (principal : Principal) (world : World) : World :=
  { world with
    context := (principal.bind world.context).ensureEnvironment app.model.environmentVariables }

/-- What the invocation of an endpoint node comes to in a context. -/
def authorize (app : Application) (node : Node) (method : String) (principal : Principal)
    (context : Context) : Admission :=
  match app.instantiateEndpoint node context with
  | .error _ => .notFound
  | .ok endpoint =>
    match endpoint.entryFor method with
    | none => .notFound
    | some entry => if endpoint.lets principal then .entry entry else .unauthorized

/-- Invokes an endpoint with a method. -/
def invoke (app : Application) (fuel : Nat) (id : NodeId) (method : String)
    (principal : Principal) (world : World) : Option (EndpointOutcome × World) :=
  match app.model.endpoint? id with
  | none => some (.notFound, world)
  | some node =>
    let world := app.introduce principal world
    match app.authorize node method principal world.context with
    | .notFound => some (.notFound, world)
    | .unauthorized => some (.unauthorized, world)
    | .entry entry =>
      (app.run fuel entry world).map fun (result, after) => (.completed result, after)

/-- Answers a request: routes it to a controller, binds the captured segments, and invokes the
controller. -/
def handle (app : Application) (fuel : Nat) (method path : String) (principal : Principal)
    (world : World) : Option (EndpointOutcome × World) :=
  match app.model.route? method path with
  | none => some (.notFound, world)
  | some route =>
    app.invoke fuel route.controller method principal (world.bind "path" (.map route.parameters))

/-- A chain is to be run exactly when the endpoint serves the method and lets the principal in. -/
theorem authorize_eq_entry_iff {app : Application} {node : Node} {method : String}
    {principal : Principal} {context : Context} {entry : NodeId} :
    app.authorize node method principal context = .entry entry ↔
      ∃ endpoint, app.instantiateEndpoint node context = .ok endpoint ∧
        endpoint.entryFor method = some entry ∧ endpoint.lets principal = true := by
  simp only [authorize]
  split
  · next h => simp [h]
  · next endpoint h =>
    split
    · next hentry => simp [h, hentry]
    · next found hentry =>
      split
      · next hlets => simp [h, hentry, hlets]
      · next hlets => simp [h, hlets]

/-- A request without a route changes nothing. -/
theorem handle_of_route?_eq_none {app : Application} {method path : String}
    (h : app.model.route? method path = none) (fuel : Nat) (principal : Principal) (world : World) :
    app.handle fuel method path principal world = some (.notFound, world) := by
  simp [handle, h]

end Application

end Flowgraph

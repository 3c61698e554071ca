import Flowgraph.Endpoint.Policy
import Flowgraph.Method
import Flowgraph.Model.ActionResult
/-!
# Endpoints

The entry points of a model: controllers with one chain for each method that they serve, and
graphs with one chain for all of them. Every endpoint has an access policy, and a graph a condition
of its own.

Main definitions: `Endpoint`, `Endpoint.entryFor`, `Endpoint.access`, `Endpoint.precondition`,
`EndpointOutcome`, `EndpointOutcome.status`.
-/

namespace Flowgraph

/-- The declared shapes of what an endpoint takes and answers. -/
structure EndpointShape where
  path : Option String := none
  queryArgs : Option Value := none
  body : Option Value := none
  input : Option Value := none
  output : Option Value := none

/-- An entry point. -/
inductive Endpoint where
  /-- A chain for each method that is served. -/
  | controller (shape : EndpointShape) (routes : List (Method × NodeId)) (access : AccessPolicy)
  /-- One chain for all methods, under a condition. -/
  | graph (shape : EndpointShape) (condition : Option Condition) (execute : Option NodeId)
    (access : AccessPolicy)
  /-- An endpoint of the host. -/
  | host (entry : Option NodeId) (access : AccessPolicy)

namespace Endpoint

/-- The first node of the chain that serves a method. -/
def entryFor (endpoint : Endpoint) (method : String) : Option NodeId :=
  match endpoint with
  | controller _ routes _ => (Method.ofVerb? method).bind fun method => routes.lookup method
  | graph _ _ execute _ => execute
  | host entry _ => entry

/-- Who may invoke the endpoint. -/
def access : Endpoint → AccessPolicy
  | controller _ _ access => access
  | graph _ _ _ access => access
  | host _ access => access

/-- Whether the endpoint's own condition holds, if it has one. -/
def precondition : Endpoint → Bool
  | graph _ condition _ _ => condition.all Condition.holds
  | _ => true

end Endpoint

/-- What builds an endpoint from its populated fields, or says why it cannot. -/
abbrev EndpointFactory := FieldBag → Except String Endpoint

/-- What became of an invocation. -/
inductive EndpointOutcome where
  /-- There is no such endpoint, or it does not serve the method. -/
  | notFound
  | unauthorized
  | completed (result : ActionResult)

/-- The status that a host answers with. -/
def EndpointOutcome.status : EndpointOutcome → Nat
  | notFound => 404
  | unauthorized => 401
  | completed result => if result.success then 200 else 400

end Flowgraph

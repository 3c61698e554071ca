import Flowgraph.Endpoint.PathTemplate
import Flowgraph.Method
import Flowgraph.Model.Basic
/-!
# Routing

A request goes to the controller that serves its method and whose path matches with the most
segments that stand for themselves; of several such, to the first one of the model.

Main definitions: `Route`, `Model.candidates`, `Model.route?`.
Main statement: `route?_eq_none_iff`.
-/

namespace Flowgraph

/-- A controller that serves a request, with the segments that its path captured. -/
structure Route where
  controller : NodeId
  literals : Nat
  parameters : Value.Fields

namespace Model

/-- The written path of a controller node, unless it is blank. -/
def pathOf? (node : Node) : Option String :=
  ((Keyed.get? "path" node.properties).bind Value.text?).filter fun path => !Text.isBlankText path

/-- The route to a controller node, if the node serves the method and its path matches. -/
def routeTo? (method : Method) (path : String) (node : Node) : Option Route :=
  if Keyed.has method.verb node.actions then do
    let template ← pathOf? node
    let found ← PathTemplate.matchPath? template path
    return ⟨node.id, found.literals, found.parameters⟩
  else none

/-- The routes of a request in the order of the model. -/
def candidates (model : Model) (method : Method) (path : String) : List Route :=
  (model.sectionNodes .controllers).filterMap (routeTo? method path)

/-- The better of two routes, the earlier one of equals. -/
def better (best : Option Route) (route : Route) : Option Route :=
  match best with
  | none => some route
  | some known => if route.literals > known.literals then some route else some known

/-- The best route of a request, if its method is known and a controller serves it. -/
def route? (model : Model) (method path : String) : Option Route :=
  (Method.ofVerb? method).bind fun method => (model.candidates method path).foldl better none

theorem isSome_foldl_better (routes : List Route) (best : Option Route) :
    (routes.foldl better best).isSome = (best.isSome || !routes.isEmpty) := by
  induction routes generalizing best with
  | nil => simp
  | cons route rest ih =>
    rw [List.foldl_cons, ih]
    cases best with
    | none => simp [better]
    | some known => simp only [better]; split <;> simp

/-- There is no route exactly when the method is unknown or no controller serves the request. -/
theorem route?_eq_none_iff (model : Model) (method path : String) :
    model.route? method path = none ↔
      ∀ known, Method.ofVerb? method = some known → model.candidates known path = [] := by
  cases hm : Method.ofVerb? method with
  | none => simp [route?, hm]
  | some known =>
    have h := isSome_foldl_better (model.candidates known path) none
    simp only [route?, hm, Option.bind_some, Option.some.injEq, forall_eq']
    rw [← Option.isNone_iff_eq_none, ← Option.isSome_eq_false_iff, h]
    simp

end Model

end Flowgraph

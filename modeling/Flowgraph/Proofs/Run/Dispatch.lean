import Flowgraph.Proofs.Model.References
import Flowgraph.Proofs.Run.Gate
/-!
# Routing and dispatch agree

Two things decide whether a controller serves a method. Routing looks at the node as it is written:
at its action slots, and at its path. Dispatch evaluates the properties of the node, builds the
controller from its populated fields, and asks that one. They agree, since population takes the slot
of a verb over as it is (`EndpointTypes.action?_populateNode`), so that the controller serves just
the methods whose verbs have a slot (`exists_controller`), whatever the context is.

So a request is answered with `notFound` if and only if there is no route, in a model whose
controllers are of the type `Controller` (`Application.routing_agrees`). That the model is coherent
matters: a route names its controller by id, and the endpoint is looked up by that id again.
-/

namespace Flowgraph

/-! ## The slots of controllers -/

/-- Looking up among those that have something to offer asks the one that is looked up. -/
theorem lookup_filterMap {α β : Type} [DecidableEq α] (offer : α → Option β) (as : List α) (a : α) :
    (as.filterMap fun a => (offer a).map (a, ·)).lookup a = if a ∈ as then offer a else none := by
  induction as with
  | nil => rfl
  | cons first rest ih =>
    rw [List.filterMap_cons]
    by_cases hfirst : a = first
    · subst hfirst
      cases hoffer : offer a with
      | none => simp [ih, hoffer]
      | some b => simp
    · have hne : (a == first) = false := beq_false_of_ne hfirst
      cases offer first <;> simp [List.lookup_cons, ih, hfirst, hne]

namespace EndpointTypes

/-- The slots that are set, by the methods of their verbs. -/
theorem lookup_routesOf (bag : FieldBag) (method : Method) :
    (routesOf bag).lookup method = bag.action? method.verb := by
  rw [routesOf, lookup_filterMap, if_pos method.mem_all]

/-- The slot of a verb is populated as it is written. -/
theorem action?_populateNode (scope : PopulateScope) (node : Node) (method : Method) :
    (scope.populateNode controller node).action? method.verb =
      Keyed.get? method.verb node.actions := by
  have hregistered : ⟨controller, some buildController⟩ ∈ registrations :=
    List.mem_of_getElem? (i := 2) rfl
  have hverbs : Method.all.map (fun method => FieldDescriptor.plain method.verb .childAction) <:+
      controller.fields := ⟨controller.fields.take 8, rfl⟩
  have hfield : FieldDescriptor.plain method.verb .childAction ∈ controller.fields :=
    hverbs.subset (List.mem_map_of_mem method.mem_all)
  have hsettled : (scope.populateNode controller node).get? method.verb =
      (Keyed.get? method.verb node.actions).map .action :=
    PopulateScope.get?_populateFrom hfield (nodup_fields hregistered) node.id
  rw [FieldBag.action?, hsettled]
  cases Keyed.get? method.verb node.actions <;> rfl

/-- The controller of a node serves the methods whose verbs have a slot. -/
theorem entryFor_of_buildController (scope : PopulateScope) (node : Node) {endpoint : Endpoint}
    (h : buildController (scope.populateNode controller node) = .ok endpoint) (verb : String) :
    endpoint.entryFor verb =
      (Method.ofVerb? verb).bind fun method => Keyed.get? method.verb node.actions := by
  cases h
  refine Option.bind_congr fun method _ => ?_
  rw [lookup_routesOf, action?_populateNode]

end EndpointTypes

/-- Whether a registry knows the endpoint types of every registry and no others. -/
def Registry.HasBuiltinEndpoints (registry : Registry) : Prop :=
  registry.endpoints = Registry.builtins.endpoints

namespace Application

variable {app : Application}

/-- In every context a controller can be made of its node, and what it serves is written there. -/
theorem exists_controller (hregistry : app.registry.HasBuiltinEndpoints) {node : Node}
    (htype : node.type = "Controller") (context : Context) :
    ∃ endpoint, app.instantiateEndpoint node context = .ok endpoint ∧
      ∀ verb, endpoint.entryFor verb =
        (Method.ofVerb? verb).bind fun method => Keyed.get? method.verb node.actions := by
  refine ⟨_, ?_, EndpointTypes.entryFor_of_buildController (app.registry.scope app.model)
    (evaluateNode node context) rfl⟩
  have hget : app.registry.endpoints.get? (evaluateNode node context).type =
      some ⟨EndpointTypes.controller, some EndpointTypes.buildController⟩ := by
    rw [evaluateNode, htype, hregistry]
    rfl
  exact Registry.instantiateFrom_of_factory hget rfl rfl

end Application

/-! ## Routes -/

namespace Model

/-- The best of some routes is one of them. -/
theorem mem_of_foldl_better {routes : List Route} {best : Option Route} {route : Route}
    (h : routes.foldl better best = some route) : best = some route ∨ route ∈ routes := by
  induction routes generalizing best with
  | nil => exact .inl h
  | cons first rest ih =>
    rcases ih h with hbest | hmem
    · unfold better at hbest
      split at hbest
      · exact .inr (Option.some.inj hbest ▸ List.mem_cons_self)
      · split at hbest
        · exact .inr (Option.some.inj hbest ▸ List.mem_cons_self)
        · exact .inl hbest
    · exact .inr (List.mem_cons_of_mem _ hmem)

theorem routeTo?_eq_some {method : Method} {path : String} {node : Node} {route : Route}
    (h : routeTo? method path node = some route) :
    route.controller = node.id ∧ ∃ entry, Keyed.get? method.verb node.actions = some entry := by
  unfold routeTo? at h
  split at h
  · next hslot =>
    obtain ⟨template, -, h⟩ := Option.bind_eq_some_iff.1 h
    obtain ⟨found, -, h⟩ := Option.bind_eq_some_iff.1 h
    cases h
    exact ⟨rfl, Option.isSome_iff_exists.1 hslot⟩
  · cases h

/-- A route leads to a controller that has a slot for the verb of the method. -/
theorem controller_of_route? {model : Model} {method path : String} {route : Route}
    (h : model.route? method path = some route) :
    ∃ known node entry, Method.ofVerb? method = some known ∧
      node ∈ model.sectionNodes .controllers ∧ route.controller = node.id ∧
      Keyed.get? known.verb node.actions = some entry := by
  obtain ⟨known, hknown, hbest⟩ := Option.bind_eq_some_iff.1 h
  rcases mem_of_foldl_better hbest with hnone | hmem
  · cases hnone
  · obtain ⟨node, hnode, hroute⟩ := List.mem_filterMap.1 hmem
    obtain ⟨hid, entry, hentry⟩ := routeTo?_eq_some hroute
    exact ⟨known, node, entry, hknown, hnode, hid, hentry⟩

/-- A controller is the endpoint of its id. -/
theorem Coherent.endpoint?_id {model : Model} (h : model.Coherent) {node : Node}
    (hnode : node ∈ model.sectionNodes .controllers) : model.endpoint? node.id = some node := by
  obtain ⟨id, hid, hlookup⟩ := List.mem_filterMap.1 hnode
  rw [h.id_of_node? hlookup, endpoint?, member?, if_pos (List.contains_iff_mem.2 hid), hlookup]
  rfl

end Model

/-! ## Requests -/

namespace Application

/-- What an invocation comes to when the endpoint serves the method. -/
theorem invoke_of_entryFor {app : Application} {id : NodeId} {node : Node} {method : String}
    {principal : Principal} {world : World} {endpoint : Endpoint} {entry : NodeId}
    (hnode : app.model.endpoint? id = some node)
    (hendpoint : app.instantiateEndpoint node (app.introduce principal world).context =
      .ok endpoint) (hentry : endpoint.entryFor method = some entry) (fuel : Nat) :
    app.invoke fuel id method principal world =
      if endpoint.lets principal then
        (app.run fuel entry (app.introduce principal world)).map
          fun (result, after) => (.completed result, after)
      else some (.unauthorized, app.introduce principal world) := by
  simp only [invoke, hnode, authorize, hendpoint, hentry]
  cases endpoint.lets principal <;> rfl

/-- Whether an invocation was let in or turned away, it is not that there was nothing to invoke. -/
theorem ne_notFound_of_entryFor {lets : Bool} {ran : Option Outcome} {world after : World} :
    (if lets then ran.map fun (result, after) => (.completed result, after)
      else some (EndpointOutcome.unauthorized, world)) ≠ some (.notFound, after) := by
  cases lets <;> cases ran <;> simp

section Controllers

variable {app : Application} (hbuilt : app.model.Built)
  (hregistry : app.registry.HasBuiltinEndpoints)
  (hcontrollers : ∀ node ∈ app.model.sectionNodes .controllers, node.type = "Controller")
  (method path : String)

include hbuilt hregistry hcontrollers

/-- The controller that a route leads to serves the method with the node in the slot of the verb. -/
theorem exists_entryFor_of_route? {route : Route}
    (hroute : app.model.route? method path = some route) : ∃ node entry,
      app.model.endpoint? route.controller = some node ∧
      Keyed.get? (Text.asciiLower method) node.actions = some entry ∧
      ∀ context, ∃ endpoint, app.instantiateEndpoint node context = .ok endpoint ∧
        endpoint.entryFor method = some entry := by
  obtain ⟨known, node, entry, hknown, hnode, hid, hentry⟩ := Model.controller_of_route? hroute
  refine ⟨node, entry, ?_, ?_, fun context => ?_⟩
  · rw [hid, hbuilt.coherent.endpoint?_id hnode]
  · rw [← Method.verb_of_ofVerb? hknown, hentry]
  · obtain ⟨endpoint, hendpoint, hserves⟩ :=
      exists_controller hregistry (hcontrollers node hnode) context
    refine ⟨endpoint, hendpoint, ?_⟩
    rw [hserves, hknown]
    exact hentry

/-- **Routing and dispatch agree.** In a model whose controllers are of the type `Controller`, with
the built-in endpoint types, a request is answered with `notFound` if and only if there is no route
for it. Where there is one, the controller that it leads to has a slot for the verb, is made in
every context, and serves the method with the node in that slot: an invocation runs the chain of
that node, or its caller is turned away. -/
theorem routing_agrees :
    (∀ principal world,
      (∃ fuel after, app.handle fuel method path principal world = some (.notFound, after)) ↔
        app.model.route? method path = none) ∧
    ∀ route, app.model.route? method path = some route → ∃ node entry,
      app.model.endpoint? route.controller = some node ∧
      Keyed.get? (Text.asciiLower method) node.actions = some entry ∧
      ∀ principal world, ∃ endpoint,
        app.instantiateEndpoint node (app.introduce principal world).context = .ok endpoint ∧
        endpoint.entryFor method = some entry ∧
        ∀ fuel, app.invoke fuel route.controller method principal world =
          if endpoint.lets principal then
            (app.run fuel entry (app.introduce principal world)).map
              fun (result, after) => (.completed result, after)
          else some (.unauthorized, app.introduce principal world) := by
  constructor
  · intro principal world
    constructor
    · rintro ⟨fuel, after, hhandle⟩
      cases hroute : app.model.route? method path with
      | none => rfl
      | some route =>
        obtain ⟨node, entry, hnode, -, hserves⟩ :=
          exists_entryFor_of_route? hbuilt hregistry hcontrollers method path hroute
        let bound := world.bind "path" (.map route.parameters)
        obtain ⟨endpoint, hendpoint, hentry⟩ := hserves (app.introduce principal bound).context
        simp only [handle, hroute] at hhandle
        rw [invoke_of_entryFor hnode hendpoint hentry] at hhandle
        exact absurd hhandle ne_notFound_of_entryFor
    · exact fun hroute => ⟨0, world, handle_of_route?_eq_none hroute 0 principal world⟩
  · intro route hroute
    obtain ⟨node, entry, hnode, hslot, hserves⟩ :=
      exists_entryFor_of_route? hbuilt hregistry hcontrollers method path hroute
    refine ⟨node, entry, hnode, hslot, fun principal world => ?_⟩
    obtain ⟨endpoint, hendpoint, hentry⟩ := hserves (app.introduce principal world).context
    exact ⟨endpoint, hendpoint, hentry, invoke_of_entryFor hnode hendpoint hentry⟩

end Controllers

/-- An application with a controller for posts, one slot of which has its name in upper case. -/
def posts : Application where
  registry := .builtins
  model := Model.empty.insert .controllers
    { id := "posts", type := "Controller", properties := [("path", .text "/posts/\x7bid\x7d")],
      actions := [("get", "show"), ("PUT", "store")] }
  transport _ := .error "offline"

/-- A method in upper case reaches the slot in lower case, and no method one in upper case. -/
theorem routing_agrees_posts :
    (∃ node entry, posts.model.endpoint? "posts" = some node ∧
      Keyed.get? "get" node.actions = some entry) ∧
    (¬∃ fuel after, posts.handle fuel "GET" "posts/7?full" .anonymous ⟨.empty, []⟩ =
      some (.notFound, after)) ∧
    ∃ fuel after, posts.handle fuel "PUT" "posts/7" .anonymous ⟨.empty, []⟩ =
      some (.notFound, after) := by
  have hbuilt : posts.model.Built := (Model.Built.empty "Prod").insert _ _
  have hcontrollers : ∀ node ∈ posts.model.sectionNodes .controllers, node.type = "Controller" := by
    decide
  obtain ⟨hget, hroutes⟩ := routing_agrees hbuilt rfl hcontrollers "GET" "posts/7?full"
  obtain ⟨hput, -⟩ := routing_agrees hbuilt rfl hcontrollers "PUT" "posts/7"
  have hroute : (posts.model.route? "GET" "posts/7?full").map Route.controller = some "posts" := by
    decide +kernel
  have hnone : (posts.model.route? "PUT" "posts/7").map Route.controller = none := by
    decide +kernel
  have hverb : Text.asciiLower "GET" = "get" := by decide
  refine ⟨?_, fun hanswer => ?_, (hput .anonymous ⟨.empty, []⟩).2 (Option.map_eq_none_iff.1 hnone)⟩
  · obtain ⟨route, hroute, hcontroller⟩ := Option.map_eq_some_iff.1 hroute
    obtain ⟨node, entry, hnode, hslot, -⟩ := hroutes route hroute
    exact ⟨node, entry, hcontroller ▸ hnode, hverb ▸ hslot⟩
  · rw [(hget .anonymous ⟨.empty, []⟩).1 hanswer] at hroute
    cases hroute

end Application

end Flowgraph

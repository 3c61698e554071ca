import Flowgraph.Proofs.Registry.ConditionLinks
import Flowgraph.Proofs.Run.Gate
import Flowgraph.Proofs.Template.Values
/-!
# The condition of an access policy

Population leaves out what it cannot read, and the access condition of an endpoint is no exception.
An invocation completes only if the condition holds that the property is parsed as; but a property
that cannot be parsed as a condition restricts nobody: the gate decides as it does without it
(`authorize_without`). The same goes for the links of a condition. So a misspelt condition opens an
endpoint (`unparsed_condition_opens`), while a parsed one is never passed over (`access_condition`).
-/

namespace Flowgraph

open PopulateScope (given? conditionAt?)

/-- The node without one property. -/
def Node.without (node : Node) (name : String) : Node :=
  { node with properties := Keyed.erase name node.properties }

/-! ## Evaluated properties -/

namespace Application

/-- A property does not depend on the other ones. -/
theorem evaluateNode_without (node : Node) (name : String) (context : Context) :
    evaluateNode (node.without name) context = (evaluateNode node context).without name := by
  simp only [evaluateNode, Node.without, Template.evaluateFields_eq, Keyed.erase_mapValues]

end Application

/-! ## Endpoints without an access condition -/

namespace EndpointTypes

/-- Two bags that differ at most in an access condition, which is none in both. -/
structure SameButCondition (bag bag' : FieldBag) : Prop where
  get : ∀ name, name ≠ "allowedCondition" → bag.get? name = bag'.get? name
  condition : bag.property? PropertyValue.condition? "allowedCondition" = none
  condition' : bag'.property? PropertyValue.condition? "allowedCondition" = none

/-- The policies of such bags are the same. -/
theorem ofBag_congr {bag bag' : FieldBag} (hsame : SameButCondition bag bag') :
    AccessPolicy.ofBag bag = .ofBag bag' := by
  have hanonymous := hsame.get "allowAnonymous" (by decide)
  have hroles := hsame.get "allowedRoles" (by decide)
  have hscopes := hsame.get "allowedScopes" (by decide)
  simp only [AccessPolicy.ofBag, FieldBag.bool?, FieldBag.text?, FieldBag.scalar?, hanonymous,
    hroles, hscopes, hsame.condition, hsame.condition']

/-- The routes of such bags are the same. -/
theorem routesOf_congr {bag bag' : FieldBag} (hsame : SameButCondition bag bag') :
    routesOf bag = routesOf bag' := by
  have hverb (method : Method) : method.verb ≠ "allowedCondition" := by cases method <;> decide
  have haction (method : Method) : bag.action? method.verb = bag'.action? method.verb := by
    rw [FieldBag.action?, FieldBag.action?, hsame.get method.verb (hverb method)]
  simp only [routesOf, haction]

/-- An endpoint does not show a difference in an access condition that is none. -/
theorem factory_congr {registration : Registration EndpointFactory}
    (h : registration ∈ registrations) {factory : EndpointFactory}
    (hfactory : registration.factory = some factory) {bag bag' : FieldBag}
    (hsame : SameButCondition bag bag') : factory bag = factory bag' := by
  have hcontroller : buildController bag = buildController bag' := by
    have hpath := hsame.get "path" (by decide)
    have hquery := hsame.get "queryArgs" (by decide)
    have hbody := hsame.get "body" (by decide)
    have houtput := hsame.get "output" (by decide)
    simp only [buildController, ofBag_congr hsame, routesOf_congr hsame, FieldBag.text?,
      FieldBag.json?, FieldBag.scalar?, hpath, hquery, hbody, houtput]
  have hgraph : buildGraph bag = buildGraph bag' := by
    have hinput := hsame.get "input" (by decide)
    have houtput := hsame.get "output" (by decide)
    have hcondition := hsame.get "condition" (by decide)
    have hexecute := hsame.get "execute" (by decide)
    simp only [buildGraph, ofBag_congr hsame, FieldBag.json?, FieldBag.property?,
      FieldBag.action?, hinput, houtput, hcondition, hexecute]
  simp only [registrations, List.mem_cons, List.not_mem_nil, or_false] at h
  rcases h with rfl | rfl | rfl | rfl | rfl
  all_goals cases hfactory
  · exact hcontroller
  · exact hgraph
  · exact hgraph

/-- A property that cannot be parsed as a condition makes no difference to the populated fields but
at its own name. -/
theorem sameButCondition_without {registration : Registration EndpointFactory}
    (h : registration ∈ registrations) (scope : PopulateScope) (node : Node)
    (hnone : scope.conditionAt? node.properties "allowedCondition" = none) :
    SameButCondition (scope.populateNode registration.info node)
      (scope.populateNode registration.info (node.without "allowedCondition")) := by
  have hmem := (policyFields_isPrefix h).subset (List.mem_of_getElem? (i := 3) rfl)
  have hnodup := nodup_fields h
  refine ⟨fun name hname => ?_, ?_, ?_⟩
  · refine PopulateScope.get?_populateFrom_congr hnodup ?_ node.id
    rw [PopulateScope.entryReaders_eq, PopulateScope.entryReaders_eq, Keyed.get?_mapValues,
      Keyed.get?_mapValues, Node.without, Keyed.get?_erase, if_neg (Ne.symm hname)]
  · rw [← hnone]
    exact scope.property?_populateFrom hmem hnodup _ _ _ PropertyValue.condition? rfl rfl
  · have hgiven :
        given? (node.without "allowedCondition").properties "allowedCondition" = none := by
      rw [given?, Node.without, Keyed.get?_erase, if_pos rfl]
      rfl
    have hnone' : scope.conditionAt? (node.without "allowedCondition").properties
        "allowedCondition" = none := by
      rw [conditionAt?, hgiven, Option.bind_none]
    rw [← hnone']
    exact scope.property?_populateFrom hmem hnodup _ _ _ PropertyValue.condition? rfl rfl

end EndpointTypes

namespace Application

/-- **A property that is no condition restricts nobody**: the gate decides as it does without the
property. -/
theorem authorize_without {app : Application} {node : Node}
    (hbuiltin : app.registry.IsBuiltinEndpoint node.type) {context : Context}
    (hnone : (app.registry.scope app.model).conditionAt? (evaluateNode node context).properties
      "allowedCondition" = none) (method : String) (principal : Principal) :
    app.authorize (node.without "allowedCondition") method principal context =
      app.authorize node method principal context := by
  have hendpoint : app.instantiateEndpoint (node.without "allowedCondition") context =
      app.instantiateEndpoint node context := by
    unfold instantiateEndpoint Registry.instantiateEndpoint Registry.instantiateFrom
    rw [evaluateNode_without]
    have htype : ((evaluateNode node context).without "allowedCondition").type =
        (evaluateNode node context).type := rfl
    simp only [bind, Except.bind, Catalog.resolve, Catalog.concrete, htype]
    cases hget : app.registry.endpoints.get? (evaluateNode node context).type with
    | none => rfl
    | some registration =>
      cases hfactory : registration.factory with
      | none => simp only [hfactory]
      | some factory =>
        obtain ⟨hmem, -⟩ := hbuiltin registration hget
        have hsame := EndpointTypes.sameButCondition_without hmem (app.registry.scope app.model)
          (evaluateNode node context) hnone
        simp only [hfactory, EndpointTypes.factory_congr hmem hfactory hsame]
  simp only [authorize, hendpoint]

/-- **The access condition of an endpoint.** Where the property evaluates to a map, an invocation
completes only if the condition holds that the map is parsed as; if it is parsed as none, the gate
decides as it does without the property. The links of a condition that a built-in type parses, at
any depth, are those links of its map that can be parsed in turn. -/
theorem access_condition {app : Application} {id : NodeId} {node : Node}
    (hnode : app.model.endpoint? id = some node)
    (hbuiltin : app.registry.IsBuiltinEndpoint node.type) (method : String) (principal : Principal)
    (world : World) {fields : Value.Fields}
    (hfields : Keyed.get? "allowedCondition"
      (evaluateNode node (app.introduce principal world).context).properties =
        some (.map fields)) :
    (∀ fuel result after,
      app.invoke fuel id method principal world = some (.completed result, after) →
      ∀ condition, (app.registry.scope app.model).parseProperty "Condition" (.map fields) =
        .ok (.condition condition) → condition.holds = true) ∧
    ((∀ condition, (app.registry.scope app.model).parseProperty "Condition" (.map fields) ≠
        .ok (.condition condition)) →
      app.authorize (node.without "allowedCondition") method principal
          (app.introduce principal world).context =
        app.authorize node method principal (app.introduce principal world).context) ∧
    ∀ entries condition, (app.registry.scope app.model).parseProperty "Condition" (.map entries) =
        .ok (.condition condition) →
      (app.registry.scope app.model).ChoosesBuiltin "Condition" (.map entries) →
      condition.andAlso = (app.registry.scope app.model).conditionAt? entries "and" ∧
        condition.orElse = (app.registry.scope app.model).conditionAt? entries "or" := by
  have hgiven : given? (evaluateNode node (app.introduce principal world).context).properties
      "allowedCondition" = some (.map fields) := by
    rw [given?, hfields]
    rfl
  refine ⟨fun fuel result after h condition hparse => ?_, fun hnone => ?_,
    fun entries condition hparse hchosen => PopulateScope.links_of_parseProperty hchosen hparse⟩
  · obtain ⟨hrejects, -⟩ | ⟨node', entry, _, hnode', hentry, -⟩ := invoke_cases h
    · rcases hrejects with h | h <;> cases h
    · obtain rfl : node = node' := by rw [← Option.some.injEq, ← hnode, hnode']
      have hadmitted := admitted_of_authorize hbuiltin hentry
      exact hadmitted.access.condition condition ⟨.map fields, hgiven, hparse⟩
  · refine authorize_without hbuiltin ?_ method principal
    rw [Option.eq_none_iff_forall_ne_some]
    intro condition hcondition
    obtain ⟨v, hv, hparse⟩ := PopulateScope.conditionAt?_eq_some_iff.1 hcondition
    rw [hgiven, Option.some.injEq] at hv
    subst hv
    exact hnone condition hparse

/-! ### A query that everybody may send under a condition -/

/-- A query under an access condition. -/
def greet (condition : Value.Fields) : Node where
  id := "greet"
  type := "Query"
  properties := [("allowAnonymous", .bool true), ("allowedCondition", .map condition)]
  actions := [("execute", "hello")]

/-- An application with such a query. -/
def lobby (condition : Value.Fields) : Application :=
  greeter (greet condition)

/-- A condition that can be parsed, and holds. -/
def nothingGiven : Value.Fields := [("_type", .text "NullOrEmpty"), ("value", .text "")]

/-- A condition of a type that nobody registered. -/
def misspelt : Value.Fields := [("_type", .text "NulOrEmpty"), ("value", .text "given")]

/-- A condition that can be parsed holds where the query is answered. -/
theorem access_condition_lobby :
    ∃ result after, (lobby nothingGiven).invoke 1 "greet" "get" .anonymous ⟨.empty, []⟩ =
        some (.completed result, after) ∧
      ∃ condition, ((lobby nothingGiven).registry.scope (lobby nothingGiven).model).parseProperty
          "Condition" (.map nothingGiven) = .ok (.condition condition) ∧
        condition.holds = true := by
  have hbuiltin : (lobby nothingGiven).registry.IsBuiltinEndpoint (greet nothingGiven).type :=
    Registry.isBuiltinEndpoint_builtins "Query"
  have hnode : (lobby nothingGiven).model.endpoint? "greet" = some (greet nothingGiven) := rfl
  have hfields : Keyed.get? "allowedCondition" (evaluateNode (greet nothingGiven)
      ((lobby nothingGiven).introduce .anonymous ⟨.empty, []⟩).context).properties =
        some (.map nothingGiven) := rfl
  have hparse : ((lobby nothingGiven).registry.scope (lobby nothingGiven).model).parseProperty
      "Condition" (.map nothingGiven) =
        .ok (.condition (.mk (.emptiness (.text "") false) none none)) := rfl
  have hstatus : ((lobby nothingGiven).invoke 1 "greet" "get" .anonymous ⟨.empty, []⟩).map
      (fun made => made.1.status) = some 200 := by decide +kernel
  obtain ⟨⟨outcome, after⟩, h, hok⟩ := Option.map_eq_some_iff.1 hstatus
  obtain ⟨result, rfl⟩ := EndpointOutcome.eq_completed_of_status hok
  obtain ⟨hholds, -, -⟩ := access_condition hnode hbuiltin "get" .anonymous ⟨.empty, []⟩ hfields
  exact ⟨result, after, h, _, hparse, hholds 1 result after h _ hparse⟩

/-- **A condition that cannot be parsed opens an endpoint.** -/
theorem unparsed_condition_opens :
    ¬∀ (app : Application) (id : NodeId) (node : Node) (fuel : Nat) (method : String)
      (principal : Principal) (world after : World) (result : ActionResult)
      (fields : Value.Fields),
      app.model.endpoint? id = some node → app.registry.IsBuiltinEndpoint node.type →
      node.type = "Controller" ∨ node.type = "Query" ∨ node.type = "Mutation" →
      Keyed.get? "allowedCondition"
        (evaluateNode node (app.introduce principal world).context).properties =
          some (.map fields) →
      app.invoke fuel id method principal world = some (.completed result, after) →
      ∃ condition, (app.registry.scope app.model).parseProperty "Condition" (.map fields) =
        .ok (.condition condition) ∧ condition.holds = true := by
  intro hclosed
  have hbuiltin : (lobby misspelt).registry.IsBuiltinEndpoint (greet misspelt).type :=
    Registry.isBuiltinEndpoint_builtins "Query"
  have hfields : Keyed.get? "allowedCondition" (evaluateNode (greet misspelt)
      ((lobby misspelt).introduce .anonymous ⟨.empty, []⟩).context).properties =
        some (.map misspelt) := rfl
  have hparse : ((lobby misspelt).registry.scope (lobby misspelt).model).parseProperty
      "Condition" (.map misspelt) = .error (.abstractType "Condition") := rfl
  have hstatus : ((lobby misspelt).invoke 1 "greet" "get" .anonymous ⟨.empty, []⟩).map
      (fun made => made.1.status) = some 200 := by decide +kernel
  obtain ⟨⟨outcome, after⟩, h, hok⟩ := Option.map_eq_some_iff.1 hstatus
  obtain ⟨result, rfl⟩ := EndpointOutcome.eq_completed_of_status hok
  obtain ⟨condition, hcondition, -⟩ := hclosed (lobby misspelt) "greet" (greet misspelt) 1 "get"
    .anonymous ⟨.empty, []⟩ after result misspelt rfl hbuiltin (.inr (.inl rfl)) hfields h
  rw [hparse] at hcondition
  cases hcondition

end Application

end Flowgraph

import Flowgraph.Proofs.Endpoint.Admission
import Flowgraph.Run.Invocation
/-!
# The access gate

What an invocation does before the first node of its chain. An invocation that completes has
passed the gate of its endpoint: the properties of the node, evaluated after the principal was
bound, admit the principal, and the condition of a graph does not fail. An invocation that does not
complete stops at the gate: no node was executed, no store was touched, and of the context at most
the entries that introduce a principal are new (`access_gate`).

`invoke_cases` says once what an invocation can come to; both halves follow from it.
-/

namespace Flowgraph

open AccessPolicy (Admits)

/-- Whether a registry knows a name as a built-in endpoint type, if it knows it at all. -/
def Registry.IsBuiltinEndpoint (registry : Registry) (type : String) : Prop :=
  ∀ registration, registry.endpoints.get? type = some registration →
    registration ∈ EndpointTypes.registrations ∧ registration.info.name = type

theorem Registry.isBuiltinEndpoint_builtins (type : String) :
    Registry.builtins.IsBuiltinEndpoint type := by
  intro registration h
  have hentries : Registry.builtins.endpoints =
      ⟨"endpoint", EndpointTypes.registrations.map fun registration =>
        (registration.info.name, registration)⟩ := rfl
  rw [hentries] at h
  exact Catalog.mem_of_get? h

/-- Whether an invocation did not complete. -/
def EndpointOutcome.Rejects (outcome : EndpointOutcome) : Prop :=
  outcome = .notFound ∨ outcome = .unauthorized

theorem EndpointOutcome.eq_completed_of_status {outcome : EndpointOutcome}
    (h : outcome.status = 200) : ∃ result, outcome = .completed result := by
  cases outcome with
  | notFound => cases h
  | unauthorized => cases h
  | completed result => exact ⟨result, rfl⟩

theorem EndpointOutcome.eq_unauthorized_of_status {outcome : EndpointOutcome}
    (h : outcome.status = 401) : outcome = .unauthorized := by
  cases outcome with
  | notFound => cases h
  | unauthorized => rfl
  | completed result =>
    simp only [EndpointOutcome.status] at h
    split at h <;> cases h

/-- Whether two worlds have the same stores, and the same entries of the context but for some
names. -/
structure World.SameExcept (names : List String) (before after : World) : Prop where
  stores : after.stores = before.stores
  context : ∀ k, k ∉ names → after.context.get? k = before.context.get? k

namespace Application

/-- The names under which a principal is introduced. -/
def introduced : List String := ["claims", "roles", "scopes", "env"]

theorem sameExcept_introduce (app : Application) (principal : Principal) (world : World) :
    world.SameExcept introduced (app.introduce principal world) where
  stores := rfl
  context k hk := by
    simp only [introduced, List.mem_cons, List.not_mem_nil, or_false, not_or] at hk
    obtain ⟨hclaims, hroles, hscopes, henv⟩ := hk
    have hbind : (principal.bind world.context).get? k = world.context.get? k := by
      simp only [Principal.bind, Context.get?_insert]
      rw [if_neg (Ne.symm hscopes), if_neg (Ne.symm hroles), if_neg (Ne.symm hclaims)]
    rw [introduce, Context.ensureEnvironment]
    split
    · exact hbind
    · have hkey : Context.envKey ≠ k := Ne.symm henv
      rw [Context.get?_insert, if_neg hkey, hbind]

/-- What an invocation can come to: it is turned away, for which it needs no fuel, or the gate opens
and the chain of the endpoint runs. -/
theorem invoke_cases {app : Application} {fuel : Nat} {id : NodeId} {method : String}
    {principal : Principal} {world after : World} {outcome : EndpointOutcome}
    (h : app.invoke fuel id method principal world = some (outcome, after)) :
    outcome.Rejects ∧ (after = world ∨ after = app.introduce principal world) ∧
        app.invoke 0 id method principal world = some (outcome, after) ∨
      ∃ node entry result, app.model.endpoint? id = some node ∧
        app.authorize node method principal (app.introduce principal world).context =
          .entry entry ∧
        outcome = .completed result ∧
        app.run fuel entry (app.introduce principal world) = some (result, after) := by
  cases hnode : app.model.endpoint? id with
  | none =>
    simp only [invoke, hnode] at h
    cases h
    exact .inl ⟨.inl rfl, .inl rfl, by simp [invoke, hnode]⟩
  | some node =>
    simp only [invoke, hnode] at h
    cases hgate : app.authorize node method principal (app.introduce principal world).context with
    | notFound =>
      simp only [hgate] at h
      cases h
      exact .inl ⟨.inl rfl, .inr rfl, by simp [invoke, hnode, hgate]⟩
    | unauthorized =>
      simp only [hgate] at h
      cases h
      exact .inl ⟨.inr rfl, .inr rfl, by simp [invoke, hnode, hgate]⟩
    | entry entry =>
      simp only [hgate, Option.map_eq_some_iff] at h
      obtain ⟨⟨result, reached⟩, hrun, heq⟩ := h
      cases heq
      exact .inr ⟨node, entry, result, rfl, hgate, rfl, hrun⟩

/-- What the gate of an endpoint node asks of a principal, of the node's properties evaluated after
the principal was introduced. -/
structure Admitted (app : Application) (node : Node) (principal : Principal) (world : World) :
    Prop where
  access : Admits (app.registry.scope app.model)
    (evaluateNode node (app.introduce principal world).context).properties principal
  graph : node.type = "Query" ∨ node.type = "Mutation" → ∀ condition,
    (app.registry.scope app.model).ReadsCondition
      (evaluateNode node (app.introduce principal world).context).properties "condition"
      condition → condition.holds = true

/-- **The gate opens for admitted principals only.** -/
theorem admitted_of_authorize {app : Application} {node : Node}
    (hbuiltin : app.registry.IsBuiltinEndpoint node.type) {method : String} {principal : Principal}
    {world : World} {entry : NodeId}
    (h : app.authorize node method principal (app.introduce principal world).context =
      .entry entry) : app.Admitted node principal world := by
  obtain ⟨endpoint, hmade, -, hlets⟩ := authorize_eq_entry_iff.1 h
  obtain ⟨registration, factory, hget, hfactory, hbuild⟩ := Registry.instantiateFrom_eq_ok hmade
  obtain ⟨hmem, hname⟩ := hbuiltin registration hget
  obtain ⟨hpermits, hprecondition⟩ := Bool.and_eq_true_iff.1 hlets
  constructor
  · rw [EndpointTypes.access_of_factory hmem hfactory hbuild] at hpermits
    exact (EndpointTypes.permits_iff_admits hmem _ _ principal).1 hpermits
  · intro hgraph
    rw [← hname] at hgraph
    exact (EndpointTypes.precondition_iff hmem hgraph hfactory _ _ hbuild).1 hprecondition

/-- An invocation that does not complete executes no node and leaves almost everything as it is. -/
theorem sameExcept_of_rejects {app : Application} {fuel : Nat} {id : NodeId} {method : String}
    {principal : Principal} {world after : World} {outcome : EndpointOutcome}
    (h : app.invoke fuel id method principal world = some (outcome, after))
    (hrejects : outcome.Rejects) :
    app.invoke 0 id method principal world = some (outcome, after) ∧
      world.SameExcept introduced after := by
  obtain ⟨-, hafter, hzero⟩ | ⟨_, _, result, -, -, rfl, -⟩ := invoke_cases h
  · refine ⟨hzero, ?_⟩
    rcases hafter with rfl | rfl
    · exact ⟨rfl, fun k _ => rfl⟩
    · exact sameExcept_introduce app principal world
  · rcases hrejects with h | h <;> cases h

/-- **The access gate.** With the built-in endpoint types an invocation completes only for a
principal that the evaluated properties of the endpoint admit. One that does not complete takes no
fuel, so it executes no node, and it leaves the stores and all of the context but the entries that
introduce a principal; a request that does not complete may leave its captured segments besides. -/
theorem access_gate {app : Application} (hbuiltin : ∀ type, app.registry.IsBuiltinEndpoint type)
    (fuel : Nat) (method : String) (principal : Principal) (world : World) :
    (∀ id result after,
      app.invoke fuel id method principal world = some (.completed result, after) →
      ∃ node, app.model.endpoint? id = some node ∧ app.Admitted node principal world) ∧
    (∀ id outcome after, app.invoke fuel id method principal world = some (outcome, after) →
      outcome.Rejects → app.invoke 0 id method principal world = some (outcome, after) ∧
        world.SameExcept introduced after) ∧
    ∀ path outcome after, app.handle fuel method path principal world = some (outcome, after) →
      outcome.Rejects → app.handle 0 method path principal world = some (outcome, after) ∧
        world.SameExcept ("path" :: introduced) after := by
  refine ⟨fun id result after h => ?_, fun id outcome after h hrejects => ?_,
    fun path outcome after h hrejects => ?_⟩
  · obtain ⟨hrejects, -⟩ | ⟨node, entry, _, hnode, hentry, -⟩ := invoke_cases h
    · rcases hrejects with h | h <;> cases h
    · exact ⟨node, hnode, admitted_of_authorize (hbuiltin node.type) hentry⟩
  · exact sameExcept_of_rejects h hrejects
  · cases hroute : app.model.route? method path with
    | none =>
      rw [handle_of_route?_eq_none hroute] at h ⊢
      cases h
      exact ⟨rfl, rfl, fun k _ => rfl⟩
    | some route =>
      simp only [handle, hroute] at h ⊢
      obtain ⟨hzero, hsame⟩ := sameExcept_of_rejects h hrejects
      refine ⟨hzero, hsame.stores, fun k hk => ?_⟩
      rw [List.mem_cons, not_or] at hk
      rw [hsame.context k hk.2, World.bind, Context.get?_insert, if_neg (Ne.symm hk.1)]

/-! ### A query for members -/

/-- An application that greets whom a query lets in. -/
def greeter (query : Node) : Application where
  registry := .builtins
  model :=
    (Model.empty.insert .graphs query).insert .actions
      { id := "hello", type := "JsonAction", properties := [("json", .text "welcome")] }
  transport _ := .error "offline"

/-- An application with a query that asks for a role. -/
def club : Application :=
  greeter { id := "greet", type := "Query", actions := [("execute", "hello")],
            properties := [("allowedRoles", .text "guest, member")] }

/-- A caller with the role that the query asks for. -/
def member : Principal where
  authenticated := true
  roles := ["member"]

/-- The gate lets a member in and turns a stranger away. -/
theorem access_gate_club :
    (∃ result after,
      club.invoke 1 "greet" "get" member ⟨.empty, []⟩ = some (.completed result, after)) ∧
    (∃ node, club.model.endpoint? "greet" = some node ∧
      club.Admitted node member ⟨.empty, []⟩) ∧
    ∃ after, club.invoke 1 "greet" "get" .anonymous ⟨.empty, []⟩ = some (.unauthorized, after) ∧
      World.SameExcept introduced ⟨.empty, []⟩ after := by
  have hbuiltin : ∀ type, club.registry.IsBuiltinEndpoint type :=
    Registry.isBuiltinEndpoint_builtins
  obtain ⟨hopens, -⟩ := access_gate hbuiltin 1 "get" member ⟨.empty, []⟩
  obtain ⟨-, hstops, -⟩ := access_gate hbuiltin 1 "get" .anonymous ⟨.empty, []⟩
  have hmember : (club.invoke 1 "greet" "get" member ⟨.empty, []⟩).map
      (fun made => made.1.status) = some 200 := by decide +kernel
  have hstranger : (club.invoke 1 "greet" "get" .anonymous ⟨.empty, []⟩).map
      (fun made => made.1.status) = some 401 := by decide +kernel
  obtain ⟨⟨outcome, after⟩, h, hstatus⟩ := Option.map_eq_some_iff.1 hmember
  obtain ⟨⟨outcome', after'⟩, h', hstatus'⟩ := Option.map_eq_some_iff.1 hstranger
  obtain ⟨result, rfl⟩ := EndpointOutcome.eq_completed_of_status hstatus
  obtain rfl := EndpointOutcome.eq_unauthorized_of_status hstatus'
  exact ⟨⟨result, after, h⟩, hopens "greet" result after h,
    after', h', (hstops "greet" .unauthorized after' h' (.inr rfl)).2⟩

end Application

end Flowgraph

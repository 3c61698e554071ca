import Flowgraph.Proofs.Action.Tables
import Flowgraph.Run.Chain
/-!
# Tasks on records are atomic

What executing a node does to the stores when its type is one of the six that read and change
records. A node that fails leaves every store as it was, whatever the step at which it fails: its
properties may not make an action, its store may refuse to open a session or to commit, no record
may be found, or its key may be taken. A node that only reads leaves the stores as they are in any
case, and one that succeeds in writing changes no table but that of its own entity
(`execute_atomic`).

Nothing puts the stores back when a task fails (`Data.StoreM`), so this is a matter of the order of
its steps: all that can fail comes before the commit, and a commit that fails has written nothing.
`perform_cases` says once what a task on records does to a world; the three parts follow from it.
-/

namespace Flowgraph

open Data (table rewrite)
open ActionTypes (bindingOf selectionOf)

/-! ## The six types -/

/-- The built-in types of tasks on records. -/
def recordTypes : List String :=
  ["Create", "Read", "ReadFirst", "Update", "Delete", "Count"]

/-- Those of them that change records. -/
def writingTypes : List String :=
  ["Create", "Update", "Delete"]

/-- Whether a registry knows a name as a built-in action type, if it knows it at all. -/
def Registry.IsBuiltinAction (registry : Registry) (type : String) : Prop :=
  ∀ registration, registry.actions.get? type = some registration →
    registration ∈ ActionTypes.registrations ∧ registration.info.name = type

theorem Registry.isBuiltinAction_builtins (type : String) :
    Registry.builtins.IsBuiltinAction type := by
  intro registration h
  have hentries : Registry.builtins.actions =
      ⟨"action", ActionTypes.registrations.map fun registration =>
        (registration.info.name, registration)⟩ := rfl
  rw [hentries] at h
  exact Catalog.mem_of_get? h

/-- The entity whose collection a task on records works on. -/
def Task.entity? : Task → Option EntitySpec
  | .create entity => entity.map EntityBinding.spec
  | .update entity _ => entity.map EntityBinding.spec
  | .read entity _ => entity
  | .readFirst entity _ => entity
  | .delete entity _ => entity
  | .count entity _ => entity
  | _ => none

/-- The tasks on records by type, each with the entity of the populated fields that it is made
of. -/
inductive RecordTask (bag : FieldBag) : String → Task → Prop
  | create : RecordTask bag "Create" (.create (bindingOf bag))
  | read (rules : Option RuleSet) : RecordTask bag "Read" (.read (selectionOf bag) rules)
  | readFirst : RecordTask bag "ReadFirst" (.readFirst (selectionOf bag) (.ofBag bag))
  | update : RecordTask bag "Update" (.update (bindingOf bag) (.ofBag bag))
  | delete : RecordTask bag "Delete" (.delete (selectionOf bag) (.ofBag bag))
  | count (filters : List FilterRule) : RecordTask bag "Count" (.count (selectionOf bag) filters)

/-- A built-in type of tasks on records makes stack actions with such a task. -/
theorem ActionTypes.recordTask_of_factory {registration : Registration ActionFactory}
    (hmem : registration ∈ registrations) (htype : registration.info.name ∈ recordTypes)
    {factory : ActionFactory} (hfactory : registration.factory = some factory) {bag : FieldBag}
    {action : Action} (hbuild : factory bag = .ok action) :
    ∃ task, action = .stack (.ofBag bag) task ∧ RecordTask bag registration.info.name task := by
  simp only [registrations, List.mem_cons, List.not_mem_nil, or_false] at hmem
  rcases hmem with rfl | rfl | rfl | rfl | rfl | rfl | rfl | rfl | rfl | rfl | rfl | rfl | rfl
  case inl => cases hfactory
  all_goals
    first
    | exact absurd htype (by decide)
    | cases hfactory
      cases hbuild
      exact ⟨_, rfl, by constructor⟩

namespace Application

variable {app : Application} {world after : World}

/-- An action that is made of a node of such a type carries out a task of that type, made of the
evaluated and populated properties of the node. -/
theorem recordTask_of_instantiate {node : Node} {context : Context} {action : Action}
    (htype : node.type ∈ recordTypes) (hbuiltin : app.registry.IsBuiltinAction node.type)
    (h : app.instantiate node context = .ok action) :
    ∃ (registration : Registration ActionFactory) (task : Task),
      action = .stack (.ofBag ((app.registry.scope app.model).populateNode registration.info
        (evaluateNode node context))) task ∧
      RecordTask ((app.registry.scope app.model).populateNode registration.info
        (evaluateNode node context)) node.type task := by
  obtain ⟨registration, factory, hget, hfactory, hbuild⟩ := Registry.instantiateFrom_eq_ok h
  obtain ⟨hmem, hname⟩ := hbuiltin registration hget
  rw [← hname] at htype
  obtain ⟨task, rfl, htask⟩ := ActionTypes.recordTask_of_factory hmem htype hfactory hbuild
  rw [hname] at htask
  exact ⟨registration, task, rfl, htask⟩

/-! ## What a task does to a world -/

section OnStores

variable {task : Data.StoreM ActionResult} {stores : List Provider}

theorem onStores_of_ok {result : ActionResult} (h : task.run world.stores = .ok result stores) :
    onStores task world = (.ok result, { world with stores }) := by
  rw [onStores, h]

/-- A task on records leaves the stores of a world as it leaves them, also when it fails. -/
theorem snd_onStores (task : Data.StoreM ActionResult) (world : World) :
    (onStores task world).2 = { world with stores := Data.after world.stores task } := by
  cases h : task.run world.stores with
  | ok result left => rw [onStores_of_ok h, Data.after_of_ok h]
  | error message left => rw [onStores, h, Data.after_of_error h]

/-- A task that leaves the stores alone leaves the world alone. -/
theorem eq_of_after_eq {answer : Except String ActionResult}
    (h : onStores task world = (answer, after))
    (hkept : Data.after world.stores task = world.stores) : after = world := by
  have hleft := snd_onStores task world
  rw [h, hkept] at hleft
  exact hleft

end OnStores

/-- **What carrying out a task on records can come to**: it leaves the world as it is, or it is a
successful task that writes the table of its entity. -/
theorem perform_cases {bag : FieldBag} {type : String} {task : Task}
    (htask : RecordTask bag type task) {answer : Except String ActionResult}
    (h : app.perform task world = (answer, after)) :
    after = world ∨
      type ∈ writingTypes ∧ ∃ spec records v, task.entity? = some spec ∧
        spec.provider.place < world.stores.length ∧ answer = .ok (.returning v) ∧
        after = { world with stores := rewrite spec records world.stores } := by
  cases htask with
  | create =>
    rw [perform] at h
    obtain ⟨message, hrun⟩ | ⟨-, hrun⟩ | ⟨binding, work, stored, collection, hentity, hopen, -,
      hrun⟩ := Data.create_cases world.stores (bindingOf bag)
    · exact .inl (eq_of_after_eq h (Data.after_of_error hrun))
    · exact .inl (eq_of_after_eq h (Data.after_of_ok hrun))
    · cases (onStores_of_ok hrun).symm.trans h
      exact .inr ⟨by decide, binding.spec, collection.records, .map stored,
        by rw [Task.entity?, hentity]; rfl, Data.place_lt hopen, rfl, rfl⟩
  | update =>
    rw [perform] at h
    obtain ⟨message, hrun⟩ | ⟨result, hrun, -⟩ | ⟨binding, work, record, hentity, hopen, -,
      hwrites⟩ := Data.update_cases world.stores (bindingOf bag) (.ofBag bag)
    · exact .inl (eq_of_after_eq h (Data.after_of_error hrun))
    · exact .inl (eq_of_after_eq h (Data.after_of_ok hrun))
    · obtain ⟨-, hrun⟩ | ⟨-, stored, collection, -, hrun⟩ := hwrites
      · exact .inl (eq_of_after_eq h (Data.after_of_ok hrun))
      · cases (onStores_of_ok hrun).symm.trans h
        exact .inr ⟨by decide, binding.spec, collection.records, .map stored,
          by rw [Task.entity?, hentity]; rfl, Data.place_lt hopen, rfl, rfl⟩
  | delete =>
    rw [perform] at h
    obtain ⟨message, hrun⟩ | ⟨result, hrun, -⟩ |
      ⟨spec, work, record, key, removed, collection, hentity, hopen, -, -, -, hrun⟩ :=
        Data.delete_cases world.stores (selectionOf bag) (.ofBag bag)
    · exact .inl (eq_of_after_eq h (Data.after_of_error hrun))
    · exact .inl (eq_of_after_eq h (Data.after_of_ok hrun))
    · cases (onStores_of_ok hrun).symm.trans h
      exact .inr ⟨by decide, spec, collection.records, .map removed, hentity, Data.place_lt hopen,
        rfl, rfl⟩
  | read rules => exact .inl (eq_of_after_eq h (Data.after_read ..))
  | readFirst => exact .inl (eq_of_after_eq h (Data.after_readFirst ..))
  | count filters => exact .inl (eq_of_after_eq h (Data.after_count ..))

/-- A task on records without an entity fails. -/
theorem perform_of_entity?_eq_none {bag : FieldBag} {type : String} {task : Task}
    (htask : RecordTask bag type task) (hentity : task.entity? = none) :
    app.perform task world = (.ok Data.noEntity, world) := by
  cases htask <;>
    simp only [Task.entity?, Option.map_eq_none_iff] at hentity <;>
    rw [hentity] <;>
    rfl

/-! ## Executing a node -/

/-- What executing a node does to the stores. -/
structure Atomic (app : Application) (node : Node) (world : World) (result : ActionResult)
    (after : World) : Prop where
  /-- A node that fails changes nothing. -/
  failed : result.success = false → after.stores = world.stores
  /-- A node that reads changes nothing. -/
  reading : node.type ∉ writingTypes → after.stores = world.stores
  /-- A node that succeeds changes no table but that of its entity. -/
  own : result.success = true → ∃ slots task spec,
    app.instantiate node world.context = .ok (.stack slots task) ∧ task.entity? = some spec ∧
      ∀ place name, place ≠ spec.provider.place ∨ name ≠ spec.collection →
        table after.stores place name = table world.stores place name

/-- A node that fails before its task begins changes nothing. -/
theorem atomic_failureWith {node : Node} (message : String) :
    app.Atomic node world (.failureWith message) world where
  failed _ := rfl
  reading _ := rfl
  own h := by cases h

/-- Storing the value of a stack action in the context leaves the success and the stores alone. -/
theorem performStack_eq {slots : StackSlots} {task : Task} {result : ActionResult}
    (h : app.performStack slots task world = (result, after)) :
    ∃ answer reached, app.perform task world = (answer, reached) ∧ after.stores = reached.stores ∧
      ((∃ made, answer = .ok made ∧ result.success = made.success) ∨
        ∃ message, answer = .error message ∧ result.success = false) := by
  unfold performStack at h
  split at h
  · next made reached hperform =>
    cases h
    exact ⟨_, _, hperform, rfl, .inl ⟨made, rfl, rfl⟩⟩
  · next message reached hperform =>
    cases h
    exact ⟨_, _, hperform, rfl, .inr ⟨message, rfl, rfl⟩⟩

/-- A stack action with a task on records is atomic. -/
theorem atomic_performStack {node : Node} {bag : FieldBag} {slots : StackSlots} {task : Task}
    (hmade : app.instantiate node world.context = .ok (.stack slots task))
    (htask : RecordTask bag node.type task) {result : ActionResult}
    (h : app.performStack slots task world = (result, after)) :
    app.Atomic node world result after := by
  obtain ⟨answer, reached, hperform, hstores, hanswer⟩ := performStack_eq h
  rcases perform_cases htask hperform with
    rfl | ⟨hwrites, spec, records, v, hentity, hplace, rfl, rfl⟩
  · refine ⟨fun _ => hstores, fun _ => hstores, fun hsuccess => ?_⟩
    cases hentity : task.entity? with
    | none =>
      rw [perform_of_entity?_eq_none htask hentity] at hperform
      cases hperform
      rcases hanswer with ⟨made, heq, hmade⟩ | ⟨message, heq, -⟩
      · cases heq
        rw [hmade] at hsuccess
        cases hsuccess
      · cases heq
    | some spec =>
      exact ⟨slots, task, spec, hmade, hentity, fun place name _ => by rw [hstores]⟩
  · obtain ⟨-, others⟩ := Data.rewritten_rewrite hplace records
    have hsuccess : result.success = true := by
      rcases hanswer with ⟨made, heq, hsuccess⟩ | ⟨message, heq, -⟩
      · cases heq
        exact hsuccess
      · cases heq
    refine ⟨fun hfailed => ?_, fun hreads => absurd hwrites hreads, fun _ => ?_⟩
    · rw [hsuccess] at hfailed
      cases hfailed
    · refine ⟨slots, task, spec, hmade, hentity, fun place name hother => ?_⟩
      rw [hstores]
      exact others place name hother

/-- **Tasks on records are atomic.** Executing a node of one of the six types always has an outcome.
If it fails, or only reads, then all stores are as before; if it succeeds, every table but that of
the collection of its own entity is as before. -/
theorem execute_atomic (runChain : ChainRunner) {id : NodeId} {node : Node}
    (hnode : app.model.action? id = some node) (htype : node.type ∈ recordTypes)
    (hbuiltin : app.registry.IsBuiltinAction node.type) (world : World) :
    ∃ result after, app.execute runChain id world = some (result, after) ∧
      app.Atomic node world result after := by
  cases hmade : app.instantiate node world.context with
  | error error =>
    refine ⟨.failureWith error.message, world, ?_, atomic_failureWith _⟩
    simp only [execute, hnode, hmade]
  | ok action =>
    obtain ⟨registration, task, rfl, htask⟩ :=
      recordTask_of_instantiate htype hbuiltin hmade
    cases hrun : app.performStack (.ofBag _) task world with
    | mk result after =>
      refine ⟨result, after, ?_, atomic_performStack hmade htask hrun⟩
      simp only [execute, hnode, hmade, hrun]

/-! ### Adding an article -/

/-- A store of articles and their authors, with a fault or without one. -/
def archive (fault : Option Fault) : Provider where
  store :=
    let articles : RecordSchema :=
      { name := "Article", primaryKey := "id", fields := [.plain "id" .long, .plain "title" .text] }
    let authors : RecordSchema :=
      { name := "Author", primaryKey := "name", fields := [.plain "name" .text] }
    ((MemoryStore.mk "Archive" [] []).declare "Articles" articles).declare "Authors" authors
  fault := fault

/-- A node that adds an article. -/
def publish : Node where
  id := "publish"
  type := "Create"
  properties :=
    [("entity", .map [("_type", .text "Archive.Articles"), ("title", .text "On atomicity")])]

/-- An application whose only node adds an article. -/
def newsroom : Application where
  registry := Registry.builtins.registerProviders [archive none]
  model := Model.empty.insert .actions publish
  transport _ := .error "offline"

/-- An article is added to its own table, and not at all by a store that cannot commit. -/
theorem execute_atomic_newsroom :
    (∃ result after,
      newsroom.execute (fun _ _ => none) "publish" ⟨.empty, [archive none]⟩ = some (result, after) ∧
        result.success = true ∧ (table after.stores 0 "Articles").length = 1 ∧
        newsroom.Atomic publish ⟨.empty, [archive none]⟩ result after) ∧
    ∃ result after,
      newsroom.execute (fun _ _ => none) "publish" ⟨.empty, [archive (some .atCommit)]⟩ =
          some (result, after) ∧
        result.success = false ∧
        newsroom.Atomic publish ⟨.empty, [archive (some .atCommit)]⟩ result after := by
  have hnode : newsroom.model.action? "publish" = some publish := rfl
  have htype : publish.type ∈ recordTypes := by decide
  have hbuiltin : newsroom.registry.IsBuiltinAction publish.type :=
    Registry.isBuiltinAction_builtins _
  obtain ⟨result, after, h, hatomic⟩ := execute_atomic (fun _ _ => none) hnode htype hbuiltin
    ⟨.empty, [archive none]⟩
  obtain ⟨result', after', h', hatomic'⟩ := execute_atomic (fun _ _ => none) hnode htype hbuiltin
    ⟨.empty, [archive (some .atCommit)]⟩
  have hsound : (newsroom.execute (fun _ _ => none) "publish" ⟨.empty, [archive none]⟩).map
      (fun made => (made.1.success, (table made.2.stores 0 "Articles").length)) =
        some (true, 1) := by decide +kernel
  have hfaulty : (newsroom.execute (fun _ _ => none) "publish"
      ⟨.empty, [archive (some .atCommit)]⟩).map (fun made => made.1.success) = some false := by
    decide +kernel
  rw [h, Option.map_some, Option.some.injEq, Prod.mk.injEq] at hsound
  rw [h', Option.map_some, Option.some.injEq] at hfaulty
  exact ⟨⟨result, after, h, hsound.1, hsound.2, hatomic⟩, result', after', h', hfaulty, hatomic'⟩

end Application

end Flowgraph

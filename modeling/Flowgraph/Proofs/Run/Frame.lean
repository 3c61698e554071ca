import Flowgraph.Proofs.Run.Log
import Flowgraph.Proofs.Run.RecordTasks
/-!
# What a run leaves alone

A run of built-in actions writes three kinds of entries of the context: the shared map, the
variables of the environment where there were none, and the names that its loops bind. Every other
entry is after the run what it was before (`frame_of_run`).

The shared map is there after a run, and has every name that it had before, unless a loop of the run
binds the name of the shared map itself (`state_survives`). Such a loop overwrites the map with its
items, and drops it in the end (`loop_drops_state`).

One step is `shares_execute`: a node without a loop writes no entry but the shared map, to which it
only adds. `Ran.related` makes statements on runs of it.
-/

namespace Flowgraph

/-! ## Built-in actions -/

/-- Whether an action does what the host programmed. -/
def Action.isHost : Action → Bool
  | .stack _ (.host _) => true
  | .flow (.host _) => true
  | _ => false

/-- The built-in types make actions of their own only. -/
theorem ActionTypes.isHost_of_factory {registration : Registration ActionFactory}
    (hmem : registration ∈ registrations) {factory : ActionFactory}
    (hfactory : registration.factory = some factory) {bag : FieldBag} {action : Action}
    (hbuild : factory bag = .ok action) : action.isHost = false := by
  simp only [registrations, List.mem_cons, List.not_mem_nil, or_false] at hmem
  rcases hmem with rfl | rfl | rfl | rfl | rfl | rfl | rfl | rfl | rfl | rfl | rfl | rfl | rfl
  all_goals
    cases hfactory
    try cases hbuild
    try rfl

/-- Whether the nodes of a model have built-in action types, if they have known action types at
all. -/
def Application.HasBuiltinActions (app : Application) : Prop :=
  ∀ id node, app.model.action? id = some node → app.registry.IsBuiltinAction node.type

/-! ## Entries of a context -/

namespace Context

/-- Whether a context differs from an earlier one at most in the shared map, which has all the names
that it had. -/
def Shares (before after : Context) : Prop :=
  after = before ∨ ∃ fields, after = before.insert stateKey (.map fields) ∧
    Keyed.keys before.stateMap ⊆ Keyed.keys fields

theorem shares_ensureState (c : Context) : c.Shares c.ensureState :=
  .inr ⟨c.stateMap, rfl, List.Subset.refl _⟩

theorem shares_setState (c : Context) (k : String) (v : Value) : c.Shares (c.setState k v) := by
  refine .inr ⟨Keyed.insert k v c.stateMap, rfl, fun name hname => ?_⟩
  rw [← Keyed.has_iff_mem_keys, Keyed.has] at hname ⊢
  rw [Keyed.get?_insert]
  split
  · rfl
  · exact hname

theorem Shares.get?_eq {before after : Context} (h : before.Shares after) {k : String}
    (hk : k ≠ stateKey) : after.get? k = before.get? k := by
  rcases h with rfl | ⟨fields, rfl, -⟩
  · rfl
  · rw [get?_insert, if_neg hk.symm]

theorem get?_ensureEnvironment (c : Context) (values : Value.Fields) (k : String) :
    (c.ensureEnvironment values).get? k =
      if envKey = k then (c.get? k).or (some (.data (.map values))) else c.get? k := by
  by_cases hk : envKey = k
  · subst hk
    cases henv : c.get? envKey with
    | none =>
      have hcontains : c.contains envKey = false := by
        rw [contains, Keyed.has, ← get?, henv]
        rfl
      rw [ensureEnvironment, hcontains, if_pos rfl, if_neg Bool.false_ne_true, get?_insert,
        if_pos rfl, Option.none_or]
    | some entry =>
      have hcontains : c.contains envKey = true := by
        rw [contains, Keyed.has, ← get?, henv]
        rfl
      rw [ensureEnvironment, hcontains, if_pos rfl, if_pos rfl, henv, Option.some_or]
  · rw [ensureEnvironment, if_neg hk]
    split
    · rfl
    · rw [get?_insert, if_neg hk]

/-- The shared map is read from one entry. -/
theorem state?_congr {c c' : Context} (h : c.get? stateKey = c'.get? stateKey) :
    c.state? = c'.state? := by
  rw [state?, state?, value?, value?, h]

theorem state?_insert_map (c : Context) (fields : Value.Fields) :
    (c.insert stateKey (.map fields)).state? = some fields := by
  rw [state?, value?_insert_self]
  rfl

end Context

namespace Application

open Context (stateKey envKey)

variable {app : Application} {world after : World}

/-- A run finds the entries that are not reserved as they are. -/
theorem get?_prepare {k : String} (hstate : k ≠ stateKey) (henv : k ≠ envKey) :
    (app.prepare world).context.get? k = world.context.get? k := by
  rw [prepare, (Context.shares_ensureState _).get?_eq hstate, Context.get?_ensureEnvironment,
    if_neg henv.symm]

/-- A run finds the variables of the environment, those of the active one where none were. -/
theorem get?_env_prepare : (app.prepare world).context.get? envKey =
    (world.context.get? envKey).or (some (.data (.map app.model.environmentVariables))) := by
  rw [prepare, (Context.shares_ensureState _).get?_eq (by decide), Context.get?_ensureEnvironment,
    if_pos rfl]

/-- A run finds the shared map, and an empty one where none was. -/
theorem state?_prepare : (app.prepare world).context.state? = some world.context.stateMap := by
  have henv : (world.context.ensureEnvironment app.model.environmentVariables).state? =
      world.context.state? := by
    refine Context.state?_congr ?_
    rw [Context.get?_ensureEnvironment, if_neg (by decide)]
  rw [prepare, Context.ensureState, Context.state?_insert_map, Context.stateMap, henv,
    ← Context.stateMap]

/-! ## Nodes without a loop -/

/-- Storing the value of a stack action adds to the shared map. -/
theorem shares_settle (world : World) (slots : StackSlots) (result : ActionResult) :
    world.context.Shares (world.settle slots result).2.context := by
  rw [World.settle]
  split
  · exact Context.shares_ensureState _
  · exact Context.shares_setState _ _ _

theorem shares_performStack {slots : StackSlots} {task : Task} (h : ∀ run, task ≠ .host run) :
    world.context.Shares (app.performStack slots task world).2.context := by
  have hcontext : (app.perform task world).2.context = world.context := context_perform_of_data h
  rw [performStack]
  split
  · next result reached hperform =>
    rw [hperform] at hcontext
    rw [← hcontext]
    exact shares_settle reached slots result
  · next message reached hperform =>
    rw [hperform] at hcontext
    exact .inl hcontext

/-- A node of a built-in type makes an action that is not of the host. -/
theorem isHost_of_instantiate (hbuiltin : app.HasBuiltinActions) {id : NodeId} {node : Node}
    (hnode : app.model.action? id = some node) {context : Context} {action : Action}
    (hmade : app.instantiate node context = .ok action) : action.isHost = false := by
  obtain ⟨registration, factory, hget, hfactory, hbuild⟩ := Registry.instantiateFrom_eq_ok hmade
  obtain ⟨hmem, -⟩ := hbuiltin id node hnode registration hget
  exact ActionTypes.isHost_of_factory hmem hfactory hbuild

/-- **A node without a loop** writes no entry but the shared map, to which it only adds. -/
theorem shares_execute (hbuiltin : app.HasBuiltinActions) {id : NodeId} {outcome : Outcome}
    (hloop : app.loopAt? id world = none)
    (h : app.execute (fun _ _ => none) id world = some outcome) :
    world.context.Shares outcome.2.context := by
  cases hnode : app.model.action? id with
  | none =>
    simp only [execute, hnode, Option.some.injEq] at h
    exact .inl (h ▸ rfl)
  | some node =>
    cases hmade : app.instantiate node world.context with
    | error error =>
      simp only [execute, hnode, hmade, Option.some.injEq] at h
      exact .inl (h ▸ rfl)
    | ok action =>
      have hown := isHost_of_instantiate hbuiltin hnode hmade
      cases action with
      | stack slots task =>
        simp only [execute, hnode, hmade, Option.some.injEq] at h
        rw [← h]
        refine shares_performStack fun run htask => ?_
        rw [htask] at hown
        cases hown
      | flow choice =>
        simp only [execute, hnode, hmade] at h
        cases choice with
        | branch condition onTrue onFalse => cases h; exact .inl rfl
        | switch input cases default => cases h; exact .inl rfl
        | host run => cases hown
        | foreach items entryName body =>
          cases body with
          | none => cases h; exact .inl rfl
          | some body =>
            simp [loopAt?, hnode, hmade, Except.toOption, Action.loop?] at hloop

/-! ## Whole runs -/

/-- A run leaves an entry alone that is not reserved and that no loop of it binds. -/
theorem Ran.get?_eq (hbuiltin : app.HasBuiltinActions) {part : Part} {log : List Event}
    {outcome : Outcome} (h : app.Ran part world log outcome) {k : String} (hstate : k ≠ stateKey)
    (henv : k ≠ envKey) (hnames : k ∉ part.boundNames ++ boundNames log) :
    outcome.2.context.get? k = world.context.get? k := by
  refine h.related (fun before after => after.context.get? k = before.context.get? k) (· ≠ k)
    (fun hab hbc => hbc.trans hab) (fun world => ?_)
    (fun id world outcome hloop hrun => (shares_execute hbuiltin hloop hrun).get?_eq hstate)
    (fun name item world hname => ?_) (fun name world hname => ?_)
    (fun name hname heq => hnames (heq ▸ hname))
  · exact get?_prepare hstate henv
  · rw [World.bind, Context.get?_insert, if_neg hname]
  · rw [World.remove, Context.get?_remove, if_neg hname]

/-- A run leaves bound variables of the environment alone if no loop of it binds their name. -/
theorem Ran.get?_env (hbuiltin : app.HasBuiltinActions) {part : Part} {log : List Event}
    {outcome : Outcome} (h : app.Ran part world log outcome)
    (hnames : envKey ∉ part.boundNames ++ boundNames log) {entry : Context.Entry}
    (hentry : world.context.get? envKey = some entry) :
    outcome.2.context.get? envKey = some entry := by
  have hne : envKey ≠ stateKey := by decide
  refine h.related (fun before after =>
      before.context.get? envKey = some entry → after.context.get? envKey = some entry)
    (· ≠ envKey) (fun hab hbc ha => hbc (hab ha)) (fun world hworld => ?_)
    (fun id world outcome hloop hrun hworld => ?_) (fun name item world hname hworld => ?_)
    (fun name world hname hworld => ?_) (fun name hname heq => hnames (heq ▸ hname)) hentry
  · rw [get?_env_prepare, hworld, Option.some_or]
  · rw [(shares_execute hbuiltin hloop hrun).get?_eq hne, hworld]
  · rw [World.bind, Context.get?_insert, if_neg hname, hworld]
  · rw [World.remove, Context.get?_remove, if_neg hname, hworld]

/-- **The frame of a run.** A run of built-in actions leaves every entry of the context as it was,
present or absent, but for the shared map, the variables of the environment, and the names that its
loops bind. If no loop binds the name of the variables, they are those that were bound before, or
else those of the active environment. -/
theorem frame_of_run (hbuiltin : app.HasBuiltinActions) {fuel : Nat} {entry : NodeId}
    {result : ActionResult} (h : app.run fuel entry world = some (result, after)) :
    ∃ log, app.Logs entry world log (result, after) ∧
      (∀ k, k ≠ stateKey → k ≠ envKey → k ∉ boundNames log →
        after.context.get? k = world.context.get? k) ∧
      (envKey ∉ boundNames log → after.context.get? envKey =
        (world.context.get? envKey).or (some (.data (.map app.model.environmentVariables)))) := by
  obtain ⟨log, hlog, -⟩ := existsUnique_log h
  refine ⟨log, hlog, fun k hstate henv hname => ?_, fun hname => ?_⟩
  · rw [Ran.get?_eq hbuiltin hlog hstate henv hname, get?_prepare hstate henv]
  · rw [← get?_env_prepare]
    cases henv : (app.prepare world).context.get? envKey with
    | none =>
      rw [get?_env_prepare, Option.or_eq_none_iff] at henv
      cases henv.2
    | some found => exact Ran.get?_env hbuiltin hlog hname henv

/-! ### A survey -/

/-- An application with a loop over two items, whose chain stores a text. -/
def survey (entryName : String) : Application where
  registry := .builtins
  model :=
    { (Model.empty.insert .actions
        { id := "each", type := "Foreach", actions := [("do", "note")]
          properties := [("list", .list [.text "first", .text "second"]),
            ("entryName", .text entryName)] }).insert .actions
        { id := "note", type := "JsonAction", properties := [("json", .text "seen")] } with
      environments := ⟨["Prod"], ["region"], [[.text "north"]]⟩ }
  transport _ := .error "offline"

/-- A world with a shared map and an entry of the host. -/
def visitor : World where
  context := ⟨[("state", .data (.map [("kept", .int 1)])), ("user", .data (.text "ann"))]⟩

theorem hasBuiltinActions_survey (entryName : String) :
    (survey entryName).HasBuiltinActions :=
  fun _ node _ => Registry.isBuiltinAction_builtins node.type

/-- The run of the survey binds the name of its loop alone. -/
theorem logs_survey : ∃ log after,
    (survey "row").Logs "each" visitor log (.done, after) ∧ boundNames log = ["row"] := by
  -- One rule after another: the loop, its body for either item, and the end of the chain.
  exact ⟨_, _, .last (.loop rfl (.next (.last (.plain rfl rfl) (.inr rfl)) rfl
    (.next (.last (.plain rfl rfl) (.inr rfl)) rfl .done))) (.inr rfl), rfl⟩

/-- The survey leaves the entry of the host alone and binds the variables of the environment. -/
theorem frame_of_run_survey :
    ∃ fuel result after log, (survey "row").run fuel "each" visitor = some (result, after) ∧
      (survey "row").Logs "each" visitor log (result, after) ∧ boundNames log = ["row"] ∧
      after.context.get? "user" = some (.data (.text "ann")) ∧
      after.context.get? envKey = some (.data (.map [("region", .text "north")])) := by
  obtain ⟨log, after, hlog, hnames⟩ := logs_survey
  obtain ⟨fuel, hrun⟩ := exists_run_iff.2 ⟨log, hlog⟩
  obtain ⟨log', hlog', hframe, henv⟩ := frame_of_run (hasBuiltinActions_survey "row") hrun
  obtain ⟨rfl, -⟩ := hlog.unique hlog'
  rw [hnames] at hframe henv
  exact ⟨fuel, .done, after, log, hrun, hlog, hnames,
    hframe "user" (by decide) (by decide) (by decide), henv (by decide)⟩

/-! ## The shared map -/

/-- Whether the shared map is still there in a later world, with all the names that it had. -/
def KeepsState (before after : World) : Prop :=
  ∀ fields, before.context.state? = some fields →
    ∃ kept, after.context.state? = some kept ∧ Keyed.keys fields ⊆ Keyed.keys kept

/-- What leaves the entry of the shared map alone keeps it. -/
theorem keepsState_of_get?_eq (h : after.context.get? stateKey = world.context.get? stateKey) :
    KeepsState world after :=
  fun fields hfields => ⟨fields, by rw [Context.state?_congr h, hfields], List.Subset.refl _⟩

theorem keepsState_of_shares (h : world.context.Shares after.context) : KeepsState world after := by
  intro fields hfields
  rcases h with heq | ⟨kept, heq, hkeys⟩
  · exact ⟨fields, by rw [heq, hfields], List.Subset.refl _⟩
  · rw [Context.stateMap, hfields, Option.getD_some] at hkeys
    exact ⟨kept, by rw [heq, Context.state?_insert_map], hkeys⟩

/-- A run keeps the shared map if no loop of it binds its name. -/
theorem Ran.keepsState (hbuiltin : app.HasBuiltinActions) {part : Part} {log : List Event}
    {outcome : Outcome} (h : app.Ran part world log outcome)
    (hnames : stateKey ∉ part.boundNames ++ boundNames log) : KeepsState world outcome.2 := by
  refine h.related KeepsState (· ≠ stateKey)
    (fun {a b c} hab hbc fields hfields => ?_) (fun world fields hfields => ?_)
    (fun id world outcome hloop hrun => keepsState_of_shares (shares_execute hbuiltin hloop hrun))
    (fun name item world hname => keepsState_of_get?_eq ?_)
    (fun name world hname => keepsState_of_get?_eq ?_) (fun name hname heq => hnames (heq ▸ hname))
  · obtain ⟨kept, hkept, hkeys⟩ := hab fields hfields
    obtain ⟨kept', hkept', hkeys'⟩ := hbc kept hkept
    exact ⟨kept', hkept', List.Subset.trans hkeys hkeys'⟩
  · refine ⟨fields, ?_, List.Subset.refl _⟩
    rw [state?_prepare, Context.stateMap, hfields, Option.getD_some]
  · rw [World.bind, Context.get?_insert, if_neg hname]
  · rw [World.remove, Context.get?_remove, if_neg hname]

/-- A loop that succeeds names no successor and leaves its name unbound. -/
theorem Ran.of_loop_success {items : List Value} {entryName : String} {body : NodeId}
    {log : List Event} {result : ActionResult}
    (h : app.Ran (.loop ⟨items, entryName, body⟩) world log (result, after))
    (hsuccess : result.success = true) :
    result.nextNode = none ∧ after.context.get? entryName = none := by
  induction items generalizing world log with
  | nil =>
    cases h
    exact ⟨rfl, by rw [World.remove, Context.get?_remove, if_pos rfl]⟩
  | cons item rest ih =>
    cases h with
    | stop _ hfailed => rw [hsuccess] at hfailed; cases hfailed
    | next _ _ hrest => exact ih hrest

/-- The run of a node with a loop ends with the loop. -/
theorem Ran.of_chain_loop {id : NodeId} {begun : Loop} (hloop : app.loopAt? id world = some begun)
    {log : List Event} {outcome : Outcome} (h : app.Ran (.chain id) world log outcome) :
    ∃ inner, app.Ran (.loop begun) world inner outcome := by
  have hinner : ∀ {log outcome}, app.Ran (.node id) world log outcome →
      ∃ inner, app.Ran (.loop begun) world inner outcome := by
    intro log outcome hnode
    cases hnode with
    | plain hnone _ => rw [hloop] at hnone; cases hnone
    | loop hsome hbody =>
      rw [hloop, Option.some.injEq] at hsome
      exact ⟨_, hsome ▸ hbody⟩
  cases h with
  | last hnode _ => exact hinner hnode
  | step hnode hsuccess hnext _ =>
    obtain ⟨inner, hbody⟩ := hinner hnode
    rw [(hbody.of_loop_success hsuccess).1] at hnext
    cases hnext

/-- **The shared map survives** a run of built-in actions, with every name that it had, unless a
loop of the run binds the name of the map. A run of such a loop that succeeds leaves no map
behind. -/
theorem state_survives (hbuiltin : app.HasBuiltinActions) {fuel : Nat} {entry : NodeId}
    {result : ActionResult} (h : app.run fuel entry world = some (result, after)) :
    ∃ log, app.Logs entry world log (result, after) ∧
      (stateKey ∉ boundNames log → ∃ kept, after.context.state? = some kept ∧
        Keyed.keys world.context.stateMap ⊆ Keyed.keys kept) ∧
      ∀ begun, app.loopAt? entry (app.prepare world) = some begun → begun.entryName = stateKey →
        result.success = true → after.context.get? stateKey = none := by
  obtain ⟨log, hlog, -⟩ := existsUnique_log h
  refine ⟨log, hlog, fun hname => ?_, fun begun hloop hname hsuccess => ?_⟩
  · exact Ran.keepsState hbuiltin hlog hname _ state?_prepare
  · obtain ⟨inner, hbody⟩ := Ran.of_chain_loop hloop hlog
    rw [← hname]
    exact (hbody.of_loop_success hsuccess).2

/-- The survey keeps the shared map if it binds another name, and drops it otherwise. -/
theorem state_survives_survey :
    (∃ fuel result after kept,
      (survey "row").run fuel "each" visitor = some (result, after) ∧
        after.context.state? = some kept ∧ "kept" ∈ Keyed.keys kept) ∧
    ∃ result after, (survey "state").run 2 "each" visitor = some (result, after) ∧
      after.context.get? stateKey = none := by
  constructor
  · obtain ⟨log, after, hlog, hnames⟩ := logs_survey
    obtain ⟨fuel, hrun⟩ := exists_run_iff.2 ⟨log, hlog⟩
    obtain ⟨log', hlog', hkeeps, -⟩ := state_survives (hasBuiltinActions_survey "row") hrun
    obtain ⟨rfl, -⟩ := hlog.unique hlog'
    rw [hnames] at hkeeps
    obtain ⟨kept, hkept, hkeys⟩ := hkeeps (by decide)
    exact ⟨fuel, .done, after, kept, hrun, hkept, hkeys (by decide)⟩
  · have hsuccess : ((survey "state").run 2 "each" visitor).map (fun made => made.1.success) =
        some true := by decide +kernel
    obtain ⟨⟨result, after⟩, hrun, hsuccess⟩ := Option.map_eq_some_iff.1 hsuccess
    obtain ⟨-, -, -, hdrops⟩ := state_survives (hasBuiltinActions_survey "state") hrun
    exact ⟨result, after, hrun, hdrops ⟨_, "state", _⟩ rfl rfl hsuccess⟩

/-- **A loop can drop the shared map**: not every run of built-in actions keeps it. -/
theorem loop_drops_state :
    ¬∀ (app : Application) (fuel : Nat) (entry : NodeId) (world after : World)
      (result : ActionResult), app.HasBuiltinActions →
      app.run fuel entry world = some (result, after) →
      ∃ kept, after.context.state? = some kept ∧
        Keyed.keys world.context.stateMap ⊆ Keyed.keys kept := by
  intro hkeeps
  have hdropped : ((survey "state").run 2 "each" visitor).map
      (fun made => made.2.context.state?.isSome) = some false := by decide +kernel
  obtain ⟨⟨result, after⟩, hrun, hnone⟩ := Option.map_eq_some_iff.1 hdropped
  obtain ⟨kept, hkept, -⟩ := hkeeps (survey "state") 2 "each" visitor after result
    (hasBuiltinActions_survey "state") hrun
  rw [hkept] at hnone
  cases hnone

end Application

end Flowgraph

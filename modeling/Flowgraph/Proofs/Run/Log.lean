import Flowgraph.Run.Chain
import Mathlib.Logic.ExistsUnique
/-!
# What a run executes

A run that comes to an end leaves a log behind: every node that it executed has a start in it and a
finish with a result, and what a loop executes stands between the start and the finish of the
loop's node. `Ran` describes runs by rules, one for each way in which a part of a run can go on or
end, without fuel. It is the description that proofs about whole runs are inductions on.

Both descriptions agree: a run has an outcome with enough fuel exactly when it has a log with that
outcome (`exists_run_iff`), and the log and the outcome are the only ones (`Ran.unique`,
`existsUnique_log`).

`Ran.related` packages the induction for statements on worlds: what is kept when the reserved
entries are bound, when a node without a loop is executed, and when the loops of the log bind and
drop their names, is kept by the run.
-/

namespace Flowgraph

/-- A loop: its items, the name under which each is bound, and the node whose chain runs for it. -/
structure Loop where
  items : List Value
  entryName : String
  body : NodeId

/-- The loop that an action runs; one without a body runs none. -/
def Action.loop? : Action → Option Loop
  | .flow (.foreach items entryName (some body)) => some ⟨items, entryName, body⟩
  | _ => none

/-- A node that is executed, with the loop that it runs, if it runs one. -/
structure Visit where
  id : NodeId
  loop : Option Loop

/-- What happens to the nodes of a run. -/
inductive Event where
  | start (visit : Visit)
  | finish (visit : Visit) (result : ActionResult)

/-- A part of a run. -/
inductive Part where
  /-- The execution of one node. -/
  | node (id : NodeId)
  /-- What is left of a loop. -/
  | loop (loop : Loop)
  /-- The chain from a node on. -/
  | chain (id : NodeId)

/-- The name that a started loop binds. -/
def Event.boundName? : Event → Option String
  | .start visit => visit.loop.map Loop.entryName
  | .finish _ _ => none

/-- The names that the loops of a log bind. -/
def boundNames (log : List Event) : List String :=
  log.filterMap Event.boundName?

@[simp] theorem boundNames_append (log more : List Event) :
    boundNames (log ++ more) = boundNames log ++ boundNames more :=
  List.filterMap_append

/-- The names that a part of a run binds before it executes a node. -/
def Part.boundNames : Part → List String
  | .loop begun => [begun.entryName]
  | _ => []

@[simp] theorem Part.boundNames_node (id : NodeId) : (node id).boundNames = [] := rfl

@[simp] theorem Part.boundNames_loop (begun : Loop) :
    (loop begun).boundNames = [begun.entryName] := rfl

@[simp] theorem Part.boundNames_chain (id : NodeId) : (chain id).boundNames = [] := rfl

namespace Application

variable {app : Application}

/-- The loop that a node runs when it is executed in a world. -/
def loopAt? (app : Application) (id : NodeId) (world : World) : Option Loop :=
  (app.model.action? id).bind fun node =>
    (app.instantiate node world.context).toOption.bind Action.loop?

/-- The visit of a node that is executed in a world. -/
def visitAt (app : Application) (id : NodeId) (world : World) : Visit :=
  ⟨id, app.loopAt? id world⟩

/-- Whether a part of a run, begun in a world, leaves a log and comes to an outcome. -/
inductive Ran (app : Application) : Part → World → List Event → Outcome → Prop
  /-- A node without a loop needs nothing else to run. -/
  | plain {id : NodeId} {world : World} {result : ActionResult} {after : World}
      (hloop : app.loopAt? id world = none)
      (hrun : app.execute (fun _ _ => none) id world = some (result, after)) :
      Ran app (.node id) world
        [.start (app.visitAt id world), .finish (app.visitAt id world) result] (result, after)
  /-- A node with a loop has the result of the loop. -/
  | loop {id : NodeId} {world : World} {loop : Loop} {log : List Event} {result : ActionResult}
      {after : World} (hloop : app.loopAt? id world = some loop)
      (hbody : Ran app (.loop loop) world log (result, after)) :
      Ran app (.node id) world
        (.start (app.visitAt id world) :: (log ++ [.finish (app.visitAt id world) result]))
        (result, after)
  /-- A loop without items left drops its name. -/
  | done {entryName : String} {body : NodeId} {world : World} :
      Ran app (.loop ⟨[], entryName, body⟩) world [] (.done, world.remove entryName)
  /-- A loop stops at an item whose chain fails. -/
  | stop {item : Value} {rest : List Value} {entryName : String} {body : NodeId} {world : World}
      {log : List Event} {result : ActionResult} {after : World}
      (hbody : Ran app (.chain body) (app.prepare (world.bind entryName item)) log (result, after))
      (hfailed : result.success = false) :
      Ran app (.loop ⟨item :: rest, entryName, body⟩) world log (result, after)
  /-- A loop goes on behind an item whose chain succeeds. -/
  | next {item : Value} {rest : List Value} {entryName : String} {body : NodeId} {world : World}
      {log more : List Event} {result : ActionResult} {between : World} {outcome : Outcome}
      (hbody : Ran app (.chain body) (app.prepare (world.bind entryName item)) log
        (result, between))
      (hsuccess : result.success = true)
      (hrest : Ran app (.loop ⟨rest, entryName, body⟩) between more outcome) :
      Ran app (.loop ⟨item :: rest, entryName, body⟩) world (log ++ more) outcome
  /-- A chain ends with a node that fails or names no successor. -/
  | last {id : NodeId} {world : World} {log : List Event} {result : ActionResult} {after : World}
      (hnode : Ran app (.node id) world log (result, after))
      (hlast : result.success = false ∨ result.nextNode = none) :
      Ran app (.chain id) world log (result, after)
  /-- A chain goes on with the successor that a node names. -/
  | step {id next : NodeId} {world : World} {log more : List Event} {result : ActionResult}
      {between : World} {outcome : Outcome}
      (hnode : Ran app (.node id) world log (result, between))
      (hsuccess : result.success = true) (hnext : result.nextNode = some next)
      (hrest : Ran app (.chain next) between more outcome) :
      Ran app (.chain id) world (log ++ more) outcome

/-- Whether the run from a node on leaves a log and comes to an outcome. -/
def Logs (app : Application) (entry : NodeId) (world : World) (log : List Event)
    (outcome : Outcome) : Prop :=
  app.Ran (.chain entry) (app.prepare world) log outcome

/-! ## Nodes with and without a loop -/

/-- A node with a loop runs it. -/
theorem execute_of_loopAt? {runChain : ChainRunner} {id : NodeId} {world : World} {loop : Loop}
    (h : app.loopAt? id world = some loop) :
    app.execute runChain id world =
      iterate (runChain loop.body) loop.entryName loop.items world := by
  simp only [loopAt?, Option.bind_eq_some_iff] at h
  obtain ⟨node, hnode, action, hmade, hloop⟩ := h
  have hmade : app.instantiate node world.context = .ok action := by
    cases hi : app.instantiate node world.context with
    | error error => simp [hi, Except.toOption] at hmade
    | ok made =>
      rw [hi] at hmade
      rw [Option.some.inj hmade]
  unfold Action.loop? at hloop
  split at hloop
  · cases hloop
    simp only [execute, hnode, hmade, choose]
  · cases hloop

/-- A node without a loop runs no chain, so that it has an outcome without fuel. -/
theorem execute_of_loopAt?_eq_none {id : NodeId} {world : World}
    (h : app.loopAt? id world = none) :
    ∃ outcome, ∀ runChain, app.execute runChain id world = some outcome := by
  cases hnode : app.model.action? id with
  | none => exact ⟨_, fun runChain => by simp only [execute, hnode]; rfl⟩
  | some node =>
    cases hmade : app.instantiate node world.context with
    | error error => exact ⟨_, fun runChain => by simp only [execute, hnode, hmade]; rfl⟩
    | ok action =>
      cases action with
      | stack slots task => exact ⟨_, fun runChain => by simp only [execute, hnode, hmade]; rfl⟩
      | flow choice =>
        cases choice with
        | foreach items entryName body =>
          cases body with
          | none => exact ⟨_, fun runChain => by simp only [execute, hnode, hmade, choose]; rfl⟩
          | some body =>
            simp [loopAt?, hnode, hmade, Except.toOption, Action.loop?] at h
        | host run =>
          cases hrun : onContext run world with
          | mk answer after =>
            cases answer with
            | ok result =>
              exact ⟨(result, after), fun runChain => by
                simp only [execute, hnode, hmade, choose, hrun]⟩
            | error message =>
              exact ⟨(.failureWith message, after), fun runChain => by
                simp only [execute, hnode, hmade, choose, hrun]⟩
        | _ => exact ⟨_, fun runChain => by simp only [execute, hnode, hmade, choose]; rfl⟩

/-- The log of a node with a loop has the name of the loop in front. -/
theorem boundNames_of_loopAt? {id : NodeId} {world : World} {loop : Loop}
    (h : app.loopAt? id world = some loop) {log : List Event} {result : ActionResult} :
    boundNames (.start (app.visitAt id world) :: (log ++ [.finish (app.visitAt id world) result])) =
      loop.entryName :: boundNames log := by
  have hstart : Event.boundName? (.start (app.visitAt id world)) = some loop.entryName := by
    rw [Event.boundName?, visitAt, h, Option.map_some]
  have hfinish : boundNames [.finish (app.visitAt id world) result] = [] := rfl
  rw [boundNames, List.filterMap_cons_some hstart, ← boundNames, boundNames_append, hfinish,
    List.append_nil]

/-! ## Runs with fuel have logs -/

/-- A loop has a log if each chain of its body has one. -/
theorem exists_ran_of_iterate {body : NodeId} {chain : World → Option Outcome}
    (hchain : ∀ world outcome, chain world = some outcome →
      ∃ log, app.Ran (.chain body) (app.prepare world) log outcome)
    {entryName : String} {items : List Value} {world : World} {outcome : Outcome}
    (h : iterate chain entryName items world = some outcome) :
    ∃ log, app.Ran (.loop ⟨items, entryName, body⟩) world log outcome := by
  induction items generalizing world with
  | nil =>
    cases h
    exact ⟨[], .done⟩
  | cons item rest ih =>
    simp only [iterate] at h
    split at h
    · cases h
    · next result between hitem =>
      obtain ⟨log, hlog⟩ := hchain _ _ hitem
      split at h
      · next hsuccess =>
        obtain ⟨more, hmore⟩ := ih h
        exact ⟨log ++ more, .next hlog hsuccess hmore⟩
      · next hfailed =>
        cases h
        exact ⟨log, .stop hlog (Bool.not_eq_true _ ▸ hfailed)⟩

/-- A node has a log if each chain that it may run has one. -/
theorem exists_ran_of_execute {runChain : ChainRunner}
    (hchain : ∀ body world outcome, runChain body world = some outcome →
      ∃ log, app.Ran (.chain body) (app.prepare world) log outcome)
    {id : NodeId} {world : World} {outcome : Outcome}
    (h : app.execute runChain id world = some outcome) :
    ∃ log, app.Ran (.node id) world log outcome := by
  cases hloop : app.loopAt? id world with
  | none =>
    obtain ⟨reached, hreached⟩ := execute_of_loopAt?_eq_none hloop
    rw [hreached, Option.some.injEq] at h
    subst h
    exact ⟨_, .plain hloop (hreached _)⟩
  | some loop =>
    rw [execute_of_loopAt? hloop] at h
    obtain ⟨log, hlog⟩ := exists_ran_of_iterate (hchain loop.body) h
    exact ⟨_, .loop hloop hlog⟩

/-- A chain that comes to an end within its fuel has a log. -/
theorem exists_ran_of_follow {fuel : Nat} {id : NodeId} {world : World} {outcome : Outcome}
    (h : app.follow fuel id world = some outcome) :
    ∃ log, app.Ran (.chain id) world log outcome := by
  induction fuel generalizing id world outcome with
  | zero => cases h
  | succ fuel ih =>
    simp only [follow] at h
    split at h
    · cases h
    · next result between hnode =>
      obtain ⟨log, hlog⟩ := exists_ran_of_execute (fun _ _ _ hbody => ih hbody) hnode
      split at h
      · next next hsuccess hnext =>
        obtain ⟨more, hmore⟩ := ih h
        exact ⟨log ++ more, .step hlog hsuccess hnext hmore⟩
      · next hlast =>
        cases h
        refine ⟨log, .last hlog ?_⟩
        cases hsuccess : result.success with
        | false => exact .inl rfl
        | true => exact .inr (Option.eq_none_iff_forall_ne_some.2 (hlast · hsuccess))

/-! ## Logs belong to runs with fuel -/

/-- Carries out a part of a run with fuel for the chains in it. -/
def carryOut (app : Application) (fuel : Nat) : Part → World → Option Outcome
  | .node id, world =>
    app.execute (fun body world => app.follow fuel body (app.prepare world)) id world
  | .loop ⟨items, entryName, body⟩, world =>
    iterate (fun world => app.follow fuel body (app.prepare world)) entryName items world
  | .chain id, world => app.follow fuel id world

theorem carryOut_mono {fuel more : Nat} (hle : fuel ≤ more) {part : Part} {world : World}
    {outcome : Outcome} (h : app.carryOut fuel part world = some outcome) :
    app.carryOut more part world = some outcome := by
  cases part with
  | node id => exact execute_mono (fun _ _ _ hbody => follow_mono hle hbody) h
  | loop begun => exact iterate_mono (fun _ _ hbody => follow_mono hle hbody) h
  | chain id => exact follow_mono hle h

/-- Two parts that can be carried out can be carried out with the same fuel. -/
theorem exists_carryOut_both {part part' : Part} {world world' : World}
    {outcome outcome' : Outcome} (h : ∃ fuel, app.carryOut fuel part world = some outcome)
    (h' : ∃ fuel, app.carryOut fuel part' world' = some outcome') :
    ∃ fuel, app.carryOut fuel part world = some outcome ∧
      app.carryOut fuel part' world' = some outcome' := by
  obtain ⟨fuel, h⟩ := h
  obtain ⟨fuel', h'⟩ := h'
  exact ⟨max fuel fuel', carryOut_mono (Nat.le_max_left ..) h,
    carryOut_mono (Nat.le_max_right ..) h'⟩

/-- What has a log is carried out with enough fuel. -/
theorem Ran.exists_carryOut {part : Part} {world : World} {log : List Event} {outcome : Outcome}
    (h : app.Ran part world log outcome) :
    ∃ fuel, app.carryOut fuel part world = some outcome := by
  induction h with
  | plain hloop hrun =>
    obtain ⟨reached, hreached⟩ := execute_of_loopAt?_eq_none hloop
    exact ⟨0, by rw [carryOut, hreached, ← hrun, hreached]⟩
  | loop hloop _ ih =>
    obtain ⟨fuel, hfuel⟩ := ih
    exact ⟨fuel, by rw [carryOut, execute_of_loopAt? hloop]; exact hfuel⟩
  | done => exact ⟨0, rfl⟩
  | stop _ hfailed ih =>
    obtain ⟨fuel, hfuel⟩ := ih
    simp only [carryOut] at hfuel
    exact ⟨fuel, by simp [carryOut, iterate, hfuel, hfailed]⟩
  | next _ hsuccess _ ih ihrest =>
    obtain ⟨fuel, hbody, hrest⟩ := exists_carryOut_both ih ihrest
    simp only [carryOut] at hbody hrest
    exact ⟨fuel, by simp [carryOut, iterate, hbody, hsuccess, hrest]⟩
  | last _ hlast ih =>
    obtain ⟨fuel, hnode⟩ := ih
    simp only [carryOut] at hnode
    refine ⟨fuel + 1, ?_⟩
    rcases hlast with hfailed | hnone
    · simp [carryOut, follow, hnode, hfailed]
    · simp [carryOut, follow, hnode, hnone]
  | step _ hsuccess hnext _ ih ihrest =>
    obtain ⟨fuel, hnode, hrest⟩ := exists_carryOut_both ih ihrest
    simp only [carryOut] at hnode hrest
    exact ⟨fuel + 1, by simp [carryOut, follow, hnode, hsuccess, hnext, hrest]⟩

/-- **Runs and logs.** A run has an outcome with enough fuel exactly when it has a log with that
outcome. -/
theorem exists_run_iff {entry : NodeId} {world : World} {outcome : Outcome} :
    (∃ fuel, app.run fuel entry world = some outcome) ↔
      ∃ log, app.Logs entry world log outcome :=
  ⟨fun ⟨_, h⟩ => exists_ran_of_follow h, fun ⟨_, h⟩ => h.exists_carryOut⟩

/-! ## One log -/

/-- A part of a run has no other log and no other outcome. -/
theorem Ran.unique {part : Part} {world : World} {log log' : List Event}
    {outcome outcome' : Outcome} (h : app.Ran part world log outcome)
    (h' : app.Ran part world log' outcome') : log = log' ∧ outcome = outcome' := by
  induction h generalizing log' outcome' with
  | plain hloop hrun =>
    cases h' with
    | plain _ hrun' =>
      rw [hrun, Option.some.injEq, Prod.mk.injEq] at hrun'
      obtain ⟨rfl, rfl⟩ := hrun'
      exact ⟨rfl, rfl⟩
    | loop hloop' _ => rw [hloop] at hloop'; cases hloop'
  | loop hloop _ ih =>
    cases h' with
    | plain hloop' _ => rw [hloop] at hloop'; cases hloop'
    | loop hloop' hbody' =>
      rw [hloop, Option.some.injEq] at hloop'
      subst hloop'
      obtain ⟨rfl, heq⟩ := ih hbody'
      cases heq
      exact ⟨rfl, rfl⟩
  | done =>
    cases h'
    exact ⟨rfl, rfl⟩
  | stop _ hfailed ih =>
    cases h' with
    | stop hbody' _ => exact ih hbody'
    | next hbody' hsuccess' _ =>
      obtain ⟨-, heq⟩ := ih hbody'
      cases heq
      rw [hfailed] at hsuccess'
      cases hsuccess'
  | next _ hsuccess _ ih ihrest =>
    cases h' with
    | stop hbody' hfailed' =>
      obtain ⟨-, heq⟩ := ih hbody'
      cases heq
      rw [hsuccess] at hfailed'
      cases hfailed'
    | next hbody' _ hrest' =>
      obtain ⟨rfl, heq⟩ := ih hbody'
      cases heq
      obtain ⟨rfl, rfl⟩ := ihrest hrest'
      exact ⟨rfl, rfl⟩
  | last _ hlast ih =>
    cases h' with
    | last hnode' _ => exact ih hnode'
    | step hnode' hsuccess' hnext' _ =>
      obtain ⟨-, heq⟩ := ih hnode'
      cases heq
      simp [hsuccess', hnext'] at hlast
  | step _ hsuccess hnext _ ih ihrest =>
    cases h' with
    | last hnode' hlast' =>
      obtain ⟨-, heq⟩ := ih hnode'
      cases heq
      simp [hsuccess, hnext] at hlast'
    | step hnode' _ hnext' hrest' =>
      obtain ⟨rfl, heq⟩ := ih hnode'
      cases heq
      rw [hnext, Option.some.injEq] at hnext'
      subst hnext'
      obtain ⟨rfl, rfl⟩ := ihrest hrest'
      exact ⟨rfl, rfl⟩

/-- **A run that comes to an end has exactly one log.** -/
theorem existsUnique_log {fuel : Nat} {entry : NodeId} {world : World} {outcome : Outcome}
    (h : app.run fuel entry world = some outcome) :
    ∃! log, app.Logs entry world log outcome := by
  obtain ⟨log, hlog⟩ := exists_run_iff.1 ⟨fuel, h⟩
  exact ⟨log, hlog, fun _ hlog' => (hlog'.unique hlog).1⟩

/-! ## What a run keeps -/

/-- **The induction over a run**, for a transitive relation on worlds: it holds between the worlds
before and after if preparing a world, executing a node without a loop, and binding and dropping the
names of the loops that are run keep to it. -/
theorem Ran.related (related : World → World → Prop) (allowed : String → Prop)
    (htrans : ∀ {a b c}, related a b → related b c → related a c)
    (hprepare : ∀ world, related world (app.prepare world))
    (hplain : ∀ id world outcome, app.loopAt? id world = none →
      app.execute (fun _ _ => none) id world = some outcome → related world outcome.2)
    (hbind : ∀ name item world, allowed name → related world (world.bind name item))
    (hremove : ∀ name world, allowed name → related world (world.remove name))
    {part : Part} {world : World} {log : List Event} {outcome : Outcome}
    (h : app.Ran part world log outcome)
    (hnames : ∀ name ∈ part.boundNames ++ boundNames log, allowed name) :
    related world outcome.2 := by
  induction h with
  | plain hloop hrun => exact hplain _ _ _ hloop hrun
  | loop hloop _ ih =>
    rw [boundNames_of_loopAt? hloop] at hnames
    exact ih hnames
  | done => exact hremove _ _ (hnames _ (List.mem_append_left _ (List.mem_singleton_self _)))
  | stop _ _ ih =>
    obtain ⟨hentry, hbody⟩ := List.forall_mem_cons.1 hnames
    exact htrans (hbind _ _ _ hentry) (htrans (hprepare _) (ih hbody))
  | next _ _ _ ih ihrest =>
    simp only [Part.boundNames_loop, Part.boundNames_chain, boundNames_append, List.nil_append,
      List.forall_mem_append] at hnames ih ihrest
    obtain ⟨hentry, hbody, hrest⟩ := hnames
    have hname := hentry _ (List.mem_singleton_self _)
    exact htrans (htrans (hbind _ _ _ hname) (htrans (hprepare _) (ih hbody)))
      (ihrest ⟨hentry, hrest⟩)
  | last _ _ ih => exact ih hnames
  | step _ _ _ _ ih ihrest =>
    simp only [Part.boundNames_node, Part.boundNames_chain, boundNames_append, List.nil_append,
      List.forall_mem_append] at hnames ih ihrest
    exact htrans (ih hnames.1) (ihrest hnames.2)

end Application

end Flowgraph

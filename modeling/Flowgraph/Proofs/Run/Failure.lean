import Flowgraph.Proofs.Run.Log
/-!
# Failures are not swallowed

What the log of a run looks like when a node fails in it, at whatever depth of nested loops. Nothing
starts any more: the loops around the failed node finish one after another, from the inside to the
outside, each with the very result of the failed node, and so does the run. A run that succeeds has
executed no node that failed (`failure_surfaces`).

A log is read with a stack of the visits that have started and not finished (`running`). `Ends` says
how the log of a part of a run ends; each rule of `Ran` puts such logs together to another one
(`Ran.ends`).

The results in a log are those of executing the nodes (`Ran.exists_carryOut_of_finish`), and a node
fails when the model does not define it, when no action can be made of it, and when its action fails
or cannot be carried out (`success_iff_of_execute`).
-/

namespace Flowgraph

namespace Event

/-- The visits that are running after an event, innermost first. -/
def track (stack : List Visit) : Event → List Visit
  | start visit => visit :: stack
  | finish _ _ => stack.tail

/-- Whether an event is not the finish of a node that failed. -/
def Succeeds : Event → Prop
  | start _ => True
  | finish _ result => result.success = true

end Event

/-- The visits that have started in a log and not finished, innermost first. -/
def running (log : List Event) : List Visit :=
  log.foldl Event.track []

/-- Whether all nodes of a log have succeeded and finished. -/
structure Settled (log : List Event) : Prop where
  succeeds : ∀ event ∈ log, event.Succeeds
  balanced : ∀ stack, log.foldl Event.track stack = stack

theorem settled_nil : Settled [] where
  succeeds _ h := by cases h
  balanced _ := rfl

theorem Settled.append {log more : List Event} (h : Settled log) (h' : Settled more) :
    Settled (log ++ more) where
  succeeds := List.forall_mem_append.2 ⟨h.succeeds, h'.succeeds⟩
  balanced stack := by rw [List.foldl_append, h.balanced, h'.balanced]

/-- Finishing the innermost visits leaves those around them. -/
theorem foldl_track_finish (inner outer : List Visit) (result : ActionResult) :
    (inner.map (Event.finish · result)).foldl Event.track (inner ++ outer) = outer := by
  induction inner with
  | nil => rfl
  | cons visit rest ih => exact ih

/-- How the log of a part of a run ends that has a result. -/
inductive Ends (result : ActionResult) : List Event → Prop
  /-- All has gone well. -/
  | well {log : List Event} (hsuccess : result.success = true) (hsettled : Settled log) :
      Ends result log
  /-- A node has failed, and the loops around it finish with its result. -/
  | ill {log : List Event} {visit : Visit} {enclosing : List Visit}
      (hfailed : result.success = false) (hsucceeds : ∀ event ∈ log, event.Succeeds)
      (hstack : ∀ stack, log.foldl Event.track stack = visit :: (enclosing ++ stack))
      (hloops : ∀ outer ∈ enclosing, outer.loop.isSome = true) :
      Ends result (log ++ (visit :: enclosing).map (Event.finish · result))

/-- Whether every failure in a log is the last node to finish but for the loops around it, which
finish in turn with its result, and no node starts behind it; and whether a result is that of every
failure. -/
def Surfaces (result : ActionResult) (log : List Event) : Prop :=
  ∀ before visit failed later, log = before ++ .finish visit failed :: later →
    failed.success = false →
    result = failed ∧ ∃ enclosing, running before = visit :: enclosing ∧
      (∀ outer ∈ enclosing, outer.loop.isSome = true) ∧
      later = enclosing.map (Event.finish · failed)

namespace Ends

variable {result : ActionResult} {log more : List Event}

theorem settled (h : Ends result log) (hsuccess : result.success = true) : Settled log := by
  cases h with
  | well _ hsettled => exact hsettled
  | ill hfailed => rw [hsuccess] at hfailed; cases hfailed

/-- A node without a loop. -/
theorem plain (visit : Visit) (result : ActionResult) :
    Ends result [.start visit, .finish visit result] := by
  have hstart : ∀ event ∈ [Event.start visit], event.Succeeds := by
    rintro event hevent
    rw [List.mem_singleton.1 hevent]
    trivial
  cases hsuccess : result.success with
  | true =>
    refine .well hsuccess ⟨List.forall_mem_cons.2 ⟨trivial, ?_⟩, fun _ => rfl⟩
    exact List.forall_mem_cons.2 ⟨hsuccess, fun event h => by cases h⟩
  | false =>
    have hends : Ends result ([.start visit] ++ [visit].map (Event.finish · result)) :=
      .ill hsuccess hstart (fun _ => rfl) fun outer h => by cases h
    exact hends

/-- What goes well in front changes nothing. -/
theorem behind (hsettled : Settled log) (h : Ends result more) : Ends result (log ++ more) := by
  cases h with
  | well hsuccess hmore => exact .well hsuccess (hsettled.append hmore)
  | ill hfailed hsucceeds hstack hloops =>
    rw [← List.append_assoc]
    refine .ill hfailed (List.forall_mem_append.2 ⟨hsettled.succeeds, hsucceeds⟩) (fun stack => ?_)
      hloops
    rw [List.foldl_append, hsettled.balanced, hstack]

/-- A loop around a log finishes with the result of what it has run. -/
theorem around {visit : Visit} (hloop : visit.loop.isSome = true) (h : Ends result log) :
    Ends result (.start visit :: (log ++ [.finish visit result])) := by
  cases h with
  | well hsuccess hsettled =>
    refine .well hsuccess ⟨List.forall_mem_cons.2 ⟨trivial, ?_⟩, fun stack => ?_⟩
    · refine List.forall_mem_append.2 ⟨hsettled.succeeds, fun event hevent => ?_⟩
      rw [List.mem_singleton.1 hevent]
      exact hsuccess
    · rw [List.foldl_cons, List.foldl_append, hsettled.balanced]
      rfl
  | @ill before innermost enclosing hfailed hsucceeds hstack hloops =>
    have hends : Ends result ((.start visit :: before) ++
        (innermost :: (enclosing ++ [visit])).map (Event.finish · result)) := by
      refine .ill hfailed (List.forall_mem_cons.2 ⟨trivial, hsucceeds⟩) (fun stack => ?_)
        (List.forall_mem_append.2 ⟨hloops, fun outer houter => ?_⟩)
      · rw [List.foldl_cons, hstack, List.append_assoc]
        rfl
      · rw [List.mem_singleton.1 houter]
        exact hloop
    simpa using hends

/-- Where a node has failed, the loops around it finish with its result, and the part as well. -/
theorem surfaces (h : Ends result log) : Surfaces result log := by
  intro before visit failed later hlog hfailed
  have hfinish : ¬(Event.finish visit failed).Succeeds := by
    rw [Event.Succeeds, hfailed]
    exact Bool.false_ne_true
  cases h with
  | well _ hsettled =>
    subst hlog
    exact absurd (hsettled.succeeds _ (List.mem_append_right _ List.mem_cons_self)) hfinish
  | @ill front innermost enclosing _ hsucceeds hstack hloops =>
    -- What failed is not in front of the finishes of the innermost visits, so it is one of them.
    obtain ⟨inner, rfl, hrest⟩ : ∃ inner, before = front ++ inner ∧
        (innermost :: enclosing).map (Event.finish · result) =
          inner ++ .finish visit failed :: later := by
      rcases List.append_eq_append_iff.1 hlog.symm with
        ⟨inner, hfront, hrest⟩ | ⟨inner, hback, hrest⟩
      · cases inner with
        | nil => exact ⟨[], by simpa using hfront.symm, by simpa using hrest.symm⟩
        | cons event inner =>
          cases hrest
          exact absurd (hsucceeds _ (hfront ▸ List.mem_append_right _ List.mem_cons_self)) hfinish
      · exact ⟨inner, hback, hrest⟩
    obtain ⟨finished, left, hvisits, rfl, hleft⟩ := List.map_eq_append_iff.1 hrest
    obtain ⟨visit', outers, rfl, hvisit, rfl⟩ := List.map_eq_cons_iff.1 hleft
    cases hvisit
    refine ⟨rfl, outers, ?_, fun outer houter => ?_, rfl⟩
    · rw [running, List.foldl_append, hstack, List.append_nil, hvisits, foldl_track_finish]
    · cases finished with
      | nil =>
        cases hvisits
        exact hloops outer houter
      | cons first finished =>
        cases hvisits
        exact hloops outer (List.mem_append_right _ (List.mem_cons_of_mem _ houter))

end Ends

namespace Application

variable {app : Application}

/-- The log of every part of a run ends well, or with a failure that surfaces. -/
theorem Ran.ends {part : Part} {world : World} {log : List Event} {outcome : Outcome}
    (h : app.Ran part world log outcome) : Ends outcome.1 log := by
  induction h with
  | plain => exact .plain _ _
  | loop hloop _ ih => exact ih.around (Option.isSome_iff_exists.2 ⟨_, hloop⟩)
  | done => exact .well rfl settled_nil
  | stop _ _ ih => exact ih
  | next _ hsuccess _ ih ihrest => exact ihrest.behind (ih.settled hsuccess)
  | last _ _ ih => exact ih
  | step _ hsuccess _ _ ih ihrest => exact ihrest.behind (ih.settled hsuccess)

/-! ## What makes a node fail -/

section Answer

variable {runChain : ChainRunner} {id : NodeId} {world : World} {result : ActionResult}
  {after : World}

/-- What an action answers when it is carried out: a result, or why there is none. A loop answers
when it has come to an end. -/
def answerOf? (app : Application) (runChain : ChainRunner) (action : Action) (world : World) :
    Option (Except String ActionResult) :=
  match action with
  | .stack _ task => some (app.perform task world).1
  | .flow (.host run) => some (onContext run world).1
  | .flow choice => (choose runChain choice world).map fun outcome => .ok outcome.1

/-- **A node has the result of its action**: an action that could not be carried out fails the node
with the reason, and a result is passed on with its success and its data. -/
theorem result_of_answerOf? {node : Node} {action : Action}
    (hnode : app.model.action? id = some node)
    (hmade : app.instantiate node world.context = .ok action)
    (h : app.execute runChain id world = some (result, after)) :
    (∃ message, app.answerOf? runChain action world = some (.error message) ∧
        result = .failureWith message) ∨
      ∃ made, app.answerOf? runChain action world = some (.ok made) ∧
        result.success = made.success ∧ result.returnData = made.returnData := by
  simp only [execute, hnode, hmade] at h
  cases action with
  | stack slots task =>
    cases hperform : app.perform task world with
    | mk answer reached =>
      simp only [performStack, hperform] at h
      rw [answerOf?, hperform]
      cases answer with
      | error message =>
        cases h
        exact .inl ⟨message, rfl, rfl⟩
      | ok made =>
        cases h
        exact .inr ⟨made, rfl, rfl, rfl⟩
  | flow choice =>
    cases choice with
    | host run =>
      cases hrun : onContext run world with
      | mk answer reached =>
        simp only [choose, hrun] at h
        rw [answerOf?, hrun]
        cases answer with
        | error message =>
          cases h
          exact .inl ⟨message, rfl, rfl⟩
        | ok made =>
          cases h
          exact .inr ⟨result, rfl, rfl, rfl⟩
    | _ => exact .inr ⟨result, by simp only [answerOf?, h, Option.map_some], rfl, rfl⟩

/-- **What makes a node fail.** A node succeeds exactly when the model defines it, an action can be
made of it, and the action answers a success. -/
theorem success_iff_of_execute (h : app.execute runChain id world = some (result, after)) :
    result.success = true ↔ ∃ node action made, app.model.action? id = some node ∧
      app.instantiate node world.context = .ok action ∧
      app.answerOf? runChain action world = some (.ok made) ∧ made.success = true := by
  constructor
  · intro hsuccess
    cases hnode : app.model.action? id with
    | none =>
      simp only [execute, hnode] at h
      cases h
      cases hsuccess
    | some node =>
      cases hmade : app.instantiate node world.context with
      | error error =>
        simp only [execute, hnode, hmade] at h
        cases h
        cases hsuccess
      | ok action =>
        obtain ⟨message, -, rfl⟩ | ⟨made, hanswer, hsame, -⟩ := result_of_answerOf? hnode hmade h
        · cases hsuccess
        · exact ⟨node, action, made, rfl, hmade, hanswer, by rw [← hsame, hsuccess]⟩
  · rintro ⟨node, action, made, hnode, hmade, hanswer, hsuccess⟩
    obtain ⟨message, hfailed, -⟩ | ⟨made', hanswer', hsame, -⟩ := result_of_answerOf? hnode hmade h
    · rw [hanswer] at hfailed
      cases hfailed
    · rw [hanswer, Option.some.injEq, Except.ok.injEq] at hanswer'
      rw [hsame, ← hanswer', hsuccess]

end Answer

/-- The results in a log are those of the nodes that were executed, each in the world that the run
had come to. -/
theorem Ran.exists_carryOut_of_finish {part : Part} {world : World} {log : List Event}
    {outcome : Outcome} (h : app.Ran part world log outcome) {visit : Visit}
    {result : ActionResult} (hfinish : .finish visit result ∈ log) :
    ∃ reached after fuel, app.carryOut fuel (.node visit.id) reached = some (result, after) := by
  induction h with
  | @plain id world made left hloop hrun =>
    rcases List.mem_cons.1 hfinish with heq | hfinish
    · cases heq
    · cases List.mem_singleton.1 hfinish
      obtain ⟨fuel, hfuel⟩ := (Ran.plain hloop hrun).exists_carryOut
      exact ⟨world, left, fuel, hfuel⟩
  | @loop id world begun log made left hloop hbody ih =>
    rcases List.mem_cons.1 hfinish with heq | hfinish
    · cases heq
    · rcases List.mem_append.1 hfinish with hfinish | hfinish
      · exact ih hfinish
      · cases List.mem_singleton.1 hfinish
        obtain ⟨fuel, hfuel⟩ := (Ran.loop hloop hbody).exists_carryOut
        exact ⟨world, left, fuel, hfuel⟩
  | done => cases hfinish
  | stop _ _ ih => exact ih hfinish
  | next _ _ _ ih ihrest => exact (List.mem_append.1 hfinish).elim ih ihrest
  | last _ _ ih => exact ih hfinish
  | step _ _ _ _ ih ihrest => exact (List.mem_append.1 hfinish).elim ih ihrest

/-! ## Whole runs -/

/-- **Failures surface.** In the log of a run, a node that fails is the last to finish but for the
loops around it, which finish in turn with its result; no node starts after it; and its result is
that of the run. If the run succeeds, every node that it executed has succeeded. -/
theorem failure_surfaces {fuel : Nat} {entry : NodeId} {world after : World}
    {result : ActionResult} (h : app.run fuel entry world = some (result, after)) :
    ∃ log, app.Logs entry world log (result, after) ∧ Surfaces result log ∧
      (result.success = true →
        ∀ visit finished, Event.finish visit finished ∈ log → finished.success = true) := by
  obtain ⟨log, hlog, -⟩ := existsUnique_log h
  exact ⟨log, hlog, hlog.ends.surfaces, fun hsuccess visit finished hmem =>
    (hlog.ends.settled hsuccess).succeeds _ hmem⟩

/-! ### A failure in the inner of two loops -/

/-- A node that runs the chain of another one for each of two items. -/
def each (id entryName body : String) : Node where
  id := id
  type := "Foreach"
  properties := [("list", .list [.int 1, .int 2]), ("entryName", .text entryName)]
  actions := [("do", body)]

/-- An application with a loop in a loop over a node that it does not have. -/
def grid : Application where
  registry := .builtins
  model := (Model.empty.insert .actions (each "rows" "row" "cells")).insert .actions
    (each "cells" "cell" "gone")
  transport _ := .error "offline"

/-- The failure in the inner loop ends the first round of both loops. -/
theorem failure_surfaces_grid :
    ∃ result after log, grid.run 3 "rows" ⟨.empty, []⟩ = some (result, after) ∧
      result.success = false ∧
      result.returnData.bind Value.text? = some "action 'gone' is not defined" ∧
      grid.Logs "rows" ⟨.empty, []⟩ log (result, after) ∧ Surfaces result log := by
  have hfails : (grid.run 3 "rows" ⟨.empty, []⟩).map (fun made =>
      (made.1.success, made.1.returnData.bind Value.text?)) =
        some (false, some "action 'gone' is not defined") := by decide +kernel
  obtain ⟨⟨result, after⟩, hrun, hresult⟩ := Option.map_eq_some_iff.1 hfails
  obtain ⟨hfailed, hmessage⟩ := Prod.mk.injEq .. ▸ hresult
  obtain ⟨log, hlog, hsurfaces, -⟩ := failure_surfaces hrun
  exact ⟨result, after, log, hrun, hfailed, hmessage, hlog, hsurfaces⟩

end Application

end Flowgraph

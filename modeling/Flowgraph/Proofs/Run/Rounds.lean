import Flowgraph.Proofs.Run.Alike
/-!
# The rounds of a loop

A loop over a list runs its body in rounds, one for each item: the item is bound, the chain of the
body runs, and the next round starts in the world that it leaves behind. `Rounds` strings rounds
together, whatever their results; `LoopEnd` says when a loop is at its end, and with which outcome.

* What a loop executes is its rounds, either one for each item, which all succeed, or one for each
  item up to the first that fails (`Ran.exists_rounds`, `Rounds.ran`).
* A loop over one list behind another is a loop over the first and, if it succeeds, one over the
  second (`runLoop_append`). The two may leave contexts of different order behind, since the loop
  over the first list drops its name and the other one binds it again.

Both make up `loop_composes`.
-/

namespace Flowgraph

/-- One round of a loop: its item, what its body executes, and the result. -/
structure Round where
  item : Value
  log : List Event
  result : ActionResult

/-- How a loop over items is at its end, after rounds that leave a world behind. -/
inductive LoopEnd (entryName : String) (items : List Value) (rounds : List Round) (last : World)
    (outcome : Outcome) : Prop
  /-- Every item has had its round, and the name is dropped. -/
  | completed (hitems : items = rounds.map Round.item)
      (hsuccess : ∀ round ∈ rounds, round.result.success = true)
      (houtcome : outcome = (.done, last.remove entryName))
  /-- The last round has failed, and the items behind it have none. -/
  | stopped (begun : List Round) (failing : Round) (left : List Value)
      (hrounds : rounds = begun ++ [failing])
      (hitems : items = begun.map Round.item ++ failing.item :: left)
      (hsuccess : ∀ round ∈ begun, round.result.success = true)
      (hfailed : failing.result.success = false)
      (houtcome : outcome = (failing.result, last))

namespace LoopEnd

variable {entryName : String} {items : List Value} {round : Round} {rounds : List Round}
  {last : World} {outcome : Outcome}

/-- A round that succeeds goes in front. -/
theorem cons (round : Round) (hsuccess : round.result.success = true)
    (h : LoopEnd entryName items rounds last outcome) :
    LoopEnd entryName (round.item :: items) (round :: rounds) last outcome := by
  cases h with
  | completed hitems hrounds houtcome =>
    exact .completed (by rw [hitems, List.map_cons])
      (List.forall_mem_cons.2 ⟨hsuccess, hrounds⟩) houtcome
  | stopped begun failing left hrounds hitems hbegun hfailed houtcome =>
    exact .stopped (round :: begun) failing left (by rw [hrounds, List.cons_append])
      (by rw [hitems, List.map_cons, List.cons_append])
      (List.forall_mem_cons.2 ⟨hsuccess, hbegun⟩) hfailed houtcome

/-- A loop that ends without a round has no items. -/
theorem of_nil (h : LoopEnd entryName items [] last outcome) :
    items = [] ∧ outcome = (.done, last.remove entryName) := by
  cases h with
  | completed hitems _ houtcome => exact ⟨hitems, houtcome⟩
  | stopped begun failing left hrounds => simp at hrounds

/-- The first round is that of the first item, and fails or is followed by the other rounds. -/
theorem of_cons (h : LoopEnd entryName items (round :: rounds) last outcome) :
    ∃ rest, items = round.item :: rest ∧
      ((round.result.success = true ∧ LoopEnd entryName rest rounds last outcome) ∨
        (round.result.success = false ∧ rounds = [] ∧ outcome = (round.result, last))) := by
  cases h with
  | completed hitems hrounds houtcome =>
    obtain ⟨hsuccess, hrounds⟩ := List.forall_mem_cons.1 hrounds
    exact ⟨_, hitems, .inl ⟨hsuccess, .completed rfl hrounds houtcome⟩⟩
  | stopped begun failing left hrounds hitems hbegun hfailed houtcome =>
    cases begun with
    | nil =>
      cases hrounds
      exact ⟨left, hitems, .inr ⟨hfailed, rfl, houtcome⟩⟩
    | cons first begun =>
      cases hrounds
      obtain ⟨hsuccess, hbegun⟩ := List.forall_mem_cons.1 hbegun
      exact ⟨_, hitems, .inl
        ⟨hsuccess, .stopped begun failing left rfl rfl hbegun hfailed houtcome⟩⟩

end LoopEnd

namespace Application

variable {app : Application} {entryName : String} {body : NodeId} {items : List Value}
  {world : World} {outcome : Outcome}

/-- The rounds of a body from a world to another, one after another. -/
inductive Rounds (app : Application) (entryName : String) (body : NodeId) :
    World → List Round → World → Prop
  | none {world : World} : Rounds app entryName body world [] world
  | round {world between last : World} {item : Value} {log : List Event} {result : ActionResult}
      {rounds : List Round}
      (hbody : app.Logs body (world.bind entryName item) log (result, between))
      (hrest : Rounds app entryName body between rounds last) :
      Rounds app entryName body world (⟨item, log, result⟩ :: rounds) last

/-- Runs the loop of a node over items. -/
def runLoop (app : Application) (fuel : Nat) (entryName : String) (body : NodeId)
    (items : List Value) (world : World) : Option Outcome :=
  choose (app.run fuel) (.foreach items entryName (some body)) world

/-- A loop has an outcome with enough fuel exactly when it has a log with that outcome. -/
theorem exists_runLoop_iff :
    (∃ fuel, app.runLoop fuel entryName body items world = some outcome) ↔
      ∃ log, app.Ran (.loop ⟨items, entryName, body⟩) world log outcome :=
  ⟨fun ⟨_, h⟩ => exists_ran_of_iterate (fun _ _ hbody => exists_ran_of_follow hbody) h,
    fun ⟨_, h⟩ => h.exists_carryOut⟩

/-! ## What a loop executes -/

/-- A loop that comes to an end has executed its rounds. -/
theorem Ran.exists_rounds {log : List Event}
    (h : app.Ran (.loop ⟨items, entryName, body⟩) world log outcome) :
    ∃ rounds last, app.Rounds entryName body world rounds last ∧
      LoopEnd entryName items rounds last outcome ∧ log = rounds.flatMap Round.log := by
  induction items generalizing world log with
  | nil =>
    cases h
    exact ⟨[], world, .none, .completed rfl (by simp) rfl, rfl⟩
  | cons item rest ih =>
    cases h with
    | @stop _ _ _ _ _ _ result after hbody hfailed =>
      exact ⟨[⟨item, log, result⟩], after, .round hbody .none,
        .stopped [] _ rest rfl rfl (by simp) hfailed rfl, by simp⟩
    | @next _ _ _ _ _ log _ result _ _ hbody hsuccess hrest =>
      obtain ⟨rounds, last, hrounds, hend, rfl⟩ := ih hrest
      exact ⟨⟨item, log, result⟩ :: rounds, last, .round hbody hrounds,
        hend.cons ⟨item, log, result⟩ hsuccess, rfl⟩

/-- Rounds are executed by the loop that they bring to its end. -/
theorem Rounds.ran {rounds : List Round} {last : World}
    (h : app.Rounds entryName body world rounds last)
    (hend : LoopEnd entryName items rounds last outcome) :
    app.Ran (.loop ⟨items, entryName, body⟩) world (rounds.flatMap Round.log) outcome := by
  induction h generalizing items with
  | none =>
    obtain ⟨rfl, rfl⟩ := hend.of_nil
    exact .done
  | round hbody hrest ih =>
    obtain ⟨rest, rfl, hgoes | hstops⟩ := hend.of_cons
    · obtain ⟨hsuccess, hend⟩ := hgoes
      exact .next hbody hsuccess (ih hend)
    · obtain ⟨hfailed, rfl, rfl⟩ := hstops
      cases hrest
      rw [List.flatMap_singleton]
      exact .stop hbody hfailed

/-! ## A loop over two lists -/

/-- A loop over one list behind another goes on with the second one after the first. -/
theorem runLoop_append (hbuiltin : app.HasBuiltinActions) (fuel : Nat) (entryName : String)
    (body : NodeId) (xs ys : List Value) (world : World) :
    Option.Rel Outcome.Alike (app.runLoop fuel entryName body (xs ++ ys) world)
      ((app.runLoop fuel entryName body xs world).bind fun made =>
        if made.1.success then app.runLoop fuel entryName body ys made.2 else some made) := by
  simp only [runLoop, choose]
  induction xs generalizing world with
  | nil =>
    exact iterate_alike (fun _ _ => run_alike hbuiltin fuel body) ys
      (World.Alike.remove_remove world entryName).symm
  | cons item rest ih =>
    rw [List.cons_append, iterate, iterate]
    cases app.run fuel body (world.bind entryName item) with
    | none => exact .none
    | some reached =>
      obtain ⟨result, after⟩ := reached
      cases hsuccess : result.success with
      | true => simpa only [hsuccess, if_true] using ih after
      | false => simpa [hsuccess] using Outcome.Alike.refl (result, after)

/-- **Loops compose over their lists.** A loop over `xs ++ ys` has the outcome of a loop over `xs`
followed, if that one succeeds, by a loop over `ys`: the same result and a world that is alike, or
no outcome where these have none. A loop has an outcome exactly when rounds bring it to its end, and
these rounds are then all that it executes. If it succeeds, its name is unbound in the end. -/
theorem loop_composes (hbuiltin : app.HasBuiltinActions) (entryName : String) (body : NodeId)
    (world : World) :
    (∀ fuel xs ys,
      Option.Rel Outcome.Alike (app.runLoop fuel entryName body (xs ++ ys) world)
        ((app.runLoop fuel entryName body xs world).bind fun made =>
          if made.1.success then app.runLoop fuel entryName body ys made.2 else some made)) ∧
    (∀ items outcome,
      (∃ fuel, app.runLoop fuel entryName body items world = some outcome) ↔
        ∃ rounds last, app.Rounds entryName body world rounds last ∧
          LoopEnd entryName items rounds last outcome) ∧
    (∀ items outcome rounds last, app.Rounds entryName body world rounds last →
      LoopEnd entryName items rounds last outcome →
      app.Ran (.loop ⟨items, entryName, body⟩) world (rounds.flatMap Round.log) outcome) ∧
    ∀ fuel items result after,
      app.runLoop fuel entryName body items world = some (result, after) →
      result.success = true → after.context.get? entryName = none := by
  refine ⟨fun fuel xs ys => runLoop_append hbuiltin fuel entryName body xs ys world,
    fun items outcome => ⟨fun h => ?_, fun ⟨rounds, last, hrounds, hend⟩ => ?_⟩,
    fun items outcome rounds last hrounds hend => hrounds.ran hend,
    fun fuel items result after h hsuccess => ?_⟩
  · obtain ⟨log, hran⟩ := exists_runLoop_iff.1 h
    obtain ⟨rounds, last, hrounds, hend, -⟩ := hran.exists_rounds
    exact ⟨rounds, last, hrounds, hend⟩
  · exact exists_runLoop_iff.2 ⟨_, hrounds.ran hend⟩
  · obtain ⟨log, hran⟩ := exists_runLoop_iff.1 ⟨fuel, h⟩
    exact (hran.of_loop_success hsuccess).2

/-- An application with a loop body that has a case for one item. -/
def sorter : Application where
  registry := .builtins
  model :=
    (Model.empty.insert .actions
      { id := "pick", type := "SwitchCase", actions := [("known", "note")]
        properties := [("inputValue", .text "$\x7brow\x7d")] }).insert .actions
      { id := "note", type := "JsonAction", properties := [("json", .text "seen")] }
  transport _ := .error "offline"

/-- A loop over three items of which the second fails, cut behind the first. -/
theorem loop_composes_sorter :
    sorter.HasBuiltinActions ∧
    ∃ outcome outcome', outcome.1.success = false ∧ Outcome.Alike outcome outcome' ∧
      sorter.runLoop 3 "row" "pick" ([.text "known"] ++ [.text "other", .text "known"]) visitor =
        some outcome ∧
      ((sorter.runLoop 3 "row" "pick" [.text "known"] visitor).bind fun made =>
        if made.1.success then
          sorter.runLoop 3 "row" "pick" [.text "other", .text "known"] made.2
        else some made) = some outcome' ∧
      ∃ rounds last, sorter.Rounds "row" "pick" visitor rounds last ∧
        LoopEnd "row" [.text "known", .text "other", .text "known"] rounds last outcome := by
  have hbuiltin : sorter.HasBuiltinActions :=
    fun _ node _ => Registry.isBuiltinAction_builtins node.type
  have hfails : (sorter.runLoop 3 "row" "pick"
      ([.text "known"] ++ [.text "other", .text "known"]) visitor).map
        (fun made => made.1.success) = some false := by decide +kernel
  obtain ⟨outcome, hrun, hfailed⟩ := Option.map_eq_some_iff.1 hfails
  obtain ⟨happend, hrounds, -⟩ := loop_composes hbuiltin "row" "pick" visitor
  have hcut := happend 3 [.text "known"] [.text "other", .text "known"]
  rw [hrun] at hcut
  generalize Option.bind _ _ = ran at hcut ⊢
  cases hcut with
  | @some _ outcome' halike =>
    exact ⟨hbuiltin, outcome, outcome', hfailed, halike, hrun, rfl,
      (hrounds _ outcome).1 ⟨3, hrun⟩⟩

end Application

end Flowgraph

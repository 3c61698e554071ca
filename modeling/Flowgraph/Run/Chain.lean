import Flowgraph.Run.Task
/-!
# Runs

A run walks a chain of nodes. Each node's properties are evaluated in the context as it is then,
its action is made and carried out, and the run goes on with the successor that the result names
until there is none or a node fails. A loop runs a chain of its own for each item of a list.

Chains may run in circles, so a run is given fuel and has no outcome when the fuel runs out before
its end; `run_mono` says that more fuel never changes an outcome.

Main definitions: `iterate`, `Application.choose`, `Application.execute`, `Application.run`.
Main statement: `run_mono`.
-/

namespace Flowgraph

/-- What runs the chain of a node, with no outcome when its fuel runs out. -/
abbrev ChainRunner := NodeId → World → Option Outcome

/-- Runs a body for each item of a list, bound under a name. The first failure ends the loop and
leaves the item bound; otherwise the name is unbound in the end. -/
def iterate (body : World → Option Outcome) (entryName : String) :
    List Value → World → Option Outcome
  | [], world => some (.done, world.remove entryName)
  | item :: rest, world =>
    match body (world.bind entryName item) with
    | none => none
    | some (result, after) =>
      if result.success then iterate body entryName rest after else some (result, after)

/-- The node that a text selects: the case of that name, else the default. -/
def selectCase (input : Option String) (cases : List (String × NodeId)) (default : Option NodeId) :
    Option NodeId :=
  (input.bind fun name => Keyed.get? name cases).or default

/-- The result of a selection. -/
def switchResult (input : Option String) (selected : Option NodeId) : ActionResult :=
  match selected with
  | some next => .route (some next)
  | none =>
    let text := input.getD ""
    .failureWith s!"no case matches '{text}' and no default is set"

namespace Application

/-- Carries out the choice of a control-flow action. -/
def choose (runChain : ChainRunner) (choice : ControlFlow) (world : World) : Option Outcome :=
  match choice with
  | .branch condition onTrue onFalse =>
    some (.route (if condition.any Condition.holds then onTrue else onFalse), world)
  | .switch input cases default =>
    some (switchResult input (selectCase input cases default), world)
  | .foreach _ _ none => some (.failureWith "Foreach has no 'do' action", world)
  | .foreach items entryName (some body) => iterate (runChain body) entryName items world
  | .host run =>
    match onContext run world with
    | (.ok result, after) => some (result, after)
    | (.error message, after) => some (.failureWith message, after)

/-- Executes one node. -/
def execute (app : Application) (runChain : ChainRunner) (id : NodeId) (world : World) :
    Option Outcome :=
  match app.model.action? id with
  | none => some (.failureWith s!"action '{id}' is not defined", world)
  | some node =>
    match app.instantiate node world.context with
    | .error error => some (.failureWith error.message, world)
    | .ok (.stack slots task) => some (app.performStack slots task world)
    | .ok (.flow choice) => choose runChain choice world

/-- The world with the reserved entries bound, as a run finds it. -/
def prepare (app : Application) (world : World) : World :=
  { world with
    context := (world.context.ensureEnvironment app.model.environmentVariables).ensureState }

/-- Executes the nodes of a chain one after another until one fails or names no successor. -/
def follow (app : Application) : Nat → NodeId → World → Option Outcome
  | 0, _, _ => none
  | fuel + 1, id, world =>
    match app.execute (fun body world => app.follow fuel body (app.prepare world)) id world with
    | none => none
    | some (result, after) =>
      match result.success, result.nextNode with
      | true, some next => app.follow fuel next after
      | _, _ => some (result, after)

/-- Runs the chain of a node. -/
def run (app : Application) (fuel : Nat) (entry : NodeId) (world : World) : Option Outcome :=
  app.follow fuel entry (app.prepare world)

/-! ## More fuel -/

/-- A runner that has every outcome of another one. -/
def Extends (more less : ChainRunner) : Prop :=
  ∀ id world outcome, less id world = some outcome → more id world = some outcome

theorem iterate_mono {more less : World → Option Outcome}
    (h : ∀ world outcome, less world = some outcome → more world = some outcome)
    {entryName : String} {items : List Value} {world : World} {outcome : Outcome}
    (hl : iterate less entryName items world = some outcome) :
    iterate more entryName items world = some outcome := by
  induction items generalizing world with
  | nil => exact hl
  | cons item rest ih =>
    simp only [iterate] at hl ⊢
    cases hb : less (world.bind entryName item) with
    | none => simp [hb] at hl
    | some reached =>
      rw [h _ _ hb]
      simp only [hb] at hl ⊢
      split at hl
      · next hs => simpa [hs] using ih hl
      · next hs => simpa [hs] using hl

theorem execute_mono {app : Application} {more less : ChainRunner} (h : Extends more less)
    {id : NodeId} {world : World} {outcome : Outcome}
    (hl : app.execute less id world = some outcome) :
    app.execute more id world = some outcome := by
  simp only [execute] at hl ⊢
  split at hl
  · exact hl
  · split at hl
    · exact hl
    · exact hl
    · next choice _ =>
      cases choice with
      | foreach items entryName body =>
        cases body with
        | none => exact hl
        | some body => exact iterate_mono (h body) hl
      | _ => exact hl

theorem follow_mono {app : Application} {fuel more : Nat} (hle : fuel ≤ more) {id : NodeId}
    {world : World} {outcome : Outcome} (h : app.follow fuel id world = some outcome) :
    app.follow more id world = some outcome := by
  induction fuel generalizing more id world outcome with
  | zero => simp [follow] at h
  | succ fuel ih =>
    obtain ⟨more, rfl⟩ : ∃ k, more = k + 1 := ⟨more - 1, by omega⟩
    have hle : fuel ≤ more := by omega
    simp only [follow] at h ⊢
    cases he : app.execute (fun body world => app.follow fuel body (app.prepare world)) id
        world with
    | none => simp [he] at h
    | some reached =>
      rw [execute_mono (fun body world outcome hb => ih hle hb) he]
      simp only [he] at h ⊢
      split at h
      · next hs hn => simpa [hs, hn] using ih hle h
      · exact h

/-- More fuel never changes the outcome of a run. -/
theorem run_mono {app : Application} {fuel more : Nat} (hle : fuel ≤ more) {entry : NodeId}
    {world : World} {outcome : Outcome} (h : app.run fuel entry world = some outcome) :
    app.run more entry world = some outcome :=
  follow_mono hle h

end Application

end Flowgraph

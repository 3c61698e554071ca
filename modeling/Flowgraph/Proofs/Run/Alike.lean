import Flowgraph.Proofs.Run.Frame
/-!
# Worlds that a run cannot tell apart

A context keeps its entries in order of arrival, but no built-in action asks for that order:
templates look entries up by name, and so do the writers of the shared map. Worlds are alike if they
have the same stores, and contexts with the same entries under the same names (`World.Alike`). From
such worlds a run with the same fuel has outcomes that are alike again, the results being the same,
or it has no outcome from either of them (`run_alike`). So has a loop around a body that keeps to
this, whatever is bound under its name when it starts (`iterate_alike`).

One step is `execute_alike`, with one lemma for each thing that a node does to a world.
-/

namespace Flowgraph

/-! ## Contexts -/

namespace Context

/-- Whether two contexts have the same entries, in whatever order. -/
def Alike (c c' : Context) : Prop :=
  ∀ k, c.get? k = c'.get? k

namespace Alike

variable {c c' : Context}

theorem stateMap (h : c.Alike c') : c.stateMap = c'.stateMap := by
  rw [Context.stateMap, Context.stateMap, state?_congr (h stateKey)]

theorem insert (h : c.Alike c') (k : String) (v : Value) :
    (c.insert k v).Alike (c'.insert k v) := by
  intro name
  rw [get?_insert, get?_insert, h name]

theorem remove (h : c.Alike c') (k : String) : (c.remove k).Alike (c'.remove k) := by
  intro name
  rw [get?_remove, get?_remove, h name]

theorem ensureState (h : c.Alike c') : c.ensureState.Alike c'.ensureState := by
  rw [Context.ensureState, Context.ensureState, h.stateMap]
  exact h.insert _ _

theorem setState (h : c.Alike c') (k : String) (v : Value) :
    (c.setState k v).Alike (c'.setState k v) := by
  rw [Context.setState, Context.setState, h.stateMap]
  exact h.insert _ _

theorem ensureEnvironment (h : c.Alike c') (values : Value.Fields) :
    (c.ensureEnvironment values).Alike (c'.ensureEnvironment values) := by
  intro name
  rw [get?_ensureEnvironment, get?_ensureEnvironment, h name]

/-- An entry that is written was there before or not. -/
theorem insert_remove (c : Context) (k : String) (v : Value) :
    ((c.remove k).insert k v).Alike (c.insert k v) := by
  intro name
  rw [get?_insert, get?_insert, get?_remove]
  split <;> rfl

/-- An entry is dropped once. -/
theorem remove_remove (c : Context) (k : String) : ((c.remove k).remove k).Alike (c.remove k) := by
  intro name
  rw [get?_remove, get?_remove]
  split <;> rfl

end Alike

end Context

/-! ## Templates -/

namespace Template

variable {c c' : Context}

/-- An expression looks entries up by name. -/
theorem resolve_alike (h : c.Alike c') : resolve c = resolve c' := by
  have hpath (path : List (List Char)) : resolvePath c path = resolvePath c' path := by
    cases path with
    | nil => rfl
    | cons root rest => simp only [resolvePath, h (String.ofList root)]
  funext body
  rw [resolve, resolve]
  split
  · rw [h, hpath]
  · rw [hpath]

/-- A text is evaluated by what its expressions resolve to. -/
theorem expand_alike (h : c.Alike c') (budget : Nat) (cs : List Char) :
    expand c budget cs = expand c' budget cs := by
  induction budget generalizing cs with
  | zero => rw [expand, expand, resolve_alike h]
  | succ budget ih =>
    rw [expand, expand, resolve_alike h]
    split
    · rfl
    · simp only [ih]

mutual

theorem evaluateValue_alike (h : c.Alike c') (v : Value) :
    evaluateValue c v = evaluateValue c' v := by
  cases v with
  | text s => exact expand_alike h (budgetOf s) s.toList
  | list items => rw [evaluateValue, evaluateValue, evaluateItems_alike h items]
  | map fields => rw [evaluateValue, evaluateValue, evaluateFields_alike h fields]
  | _ => rfl

theorem evaluateItems_alike (h : c.Alike c') (items : List Value) :
    evaluateItems c items = evaluateItems c' items := by
  cases items with
  | nil => rfl
  | cons v rest =>
    rw [evaluateItems, evaluateItems, evaluateValue_alike h v, evaluateItems_alike h rest]

theorem evaluateFields_alike (h : c.Alike c') (fields : Value.Fields) :
    evaluateFields c fields = evaluateFields c' fields := by
  cases fields with
  | nil => rfl
  | cons field rest =>
    obtain ⟨k, v⟩ := field
    rw [evaluateFields, evaluateFields, evaluateValue_alike h v, evaluateFields_alike h rest]

end

end Template

/-! ## Worlds -/

/-- Whether two worlds have the same stores, and contexts with the same entries. -/
structure World.Alike (world world' : World) : Prop where
  context : world.context.Alike world'.context
  stores : world.stores = world'.stores

/-- Whether two outcomes have the same result and leave worlds behind that are alike. -/
def Outcome.Alike (outcome outcome' : Outcome) : Prop :=
  outcome.1 = outcome'.1 ∧ outcome.2.Alike outcome'.2

namespace World.Alike

variable {world world' : World}

theorem refl (world : World) : world.Alike world where
  context _ := rfl
  stores := rfl

theorem symm (h : world.Alike world') : world'.Alike world where
  context k := (h.context k).symm
  stores := h.stores.symm

theorem trans {world'' : World} (h : world.Alike world') (h' : world'.Alike world'') :
    world.Alike world'' where
  context k := (h.context k).trans (h'.context k)
  stores := h.stores.trans h'.stores

theorem remove (h : world.Alike world') (k : String) :
    (world.remove k).Alike (world'.remove k) where
  context := h.context.remove k
  stores := h.stores

theorem remove_remove (world : World) (k : String) :
    ((world.remove k).remove k).Alike (world.remove k) where
  context := Context.Alike.remove_remove world.context k
  stores := rfl

/-- What was bound under a name makes no difference when the name is bound. -/
theorem bind_of_remove {k : String} (h : (world.remove k).Alike (world'.remove k)) (v : Value) :
    (world.bind k v).Alike (world'.bind k v) := by
  have hdrop (start : World) : ((start.remove k).bind k v).Alike (start.bind k v) :=
    ⟨Context.Alike.insert_remove start.context k v, rfl⟩
  have hbind : ((world.remove k).bind k v).Alike ((world'.remove k).bind k v) :=
    ⟨h.context.insert k v, h.stores⟩
  exact (hdrop world).symm.trans (hbind.trans (hdrop world'))

theorem settle (h : world.Alike world') (slots : StackSlots) (result : ActionResult) :
    (world.settle slots result).Alike (world'.settle slots result) := by
  have hstate (v : Value) : world.context.isState v = world'.context.isState v := by
    rw [Context.isState, Context.isState, h.context.stateMap]
  refine ⟨rfl, ?_, h.stores⟩
  rw [World.settle, World.settle, hstate]
  split
  · exact h.context.ensureState
  · exact h.context.setState _ _

end World.Alike

theorem Outcome.Alike.refl (outcome : Outcome) : outcome.Alike outcome :=
  ⟨rfl, .refl outcome.2⟩

namespace Application

variable {app : Application} {world world' : World}

theorem prepare_alike (h : world.Alike world') :
    (app.prepare world).Alike (app.prepare world') where
  context := (h.context.ensureEnvironment _).ensureState
  stores := h.stores

theorem instantiate_alike {c c' : Context} (h : c.Alike c') (node : Node) :
    app.instantiate node c = app.instantiate node c' := by
  rw [instantiate, instantiate, evaluateNode, evaluateNode, Template.evaluateFields_alike h]

/-! ## Executing a node -/

/-- A task has the same answer in worlds that are alike, and leaves such worlds behind. -/
theorem perform_alike (app : Application) (h : world.Alike world') {task : Task}
    (hown : ∀ run, task ≠ .host run) :
    (app.perform task world).1 = (app.perform task world').1 ∧
      (app.perform task world).2.Alike (app.perform task world').2 := by
  have hstores (data : Data.StoreM ActionResult) :
      (onStores data world).1 = (onStores data world').1 ∧
        (onStores data world).2.Alike (onStores data world').2 := by
    rw [onStores, onStores, h.stores]
    split <;> exact ⟨rfl, h.context, rfl⟩
  cases task with
  | json v => exact ⟨rfl, h⟩
  | rest call => exact ⟨rfl, h⟩
  | request spec headers =>
    cases spec with
    | none => exact ⟨rfl, h⟩
    | some spec =>
      have hcall :
          app.callOf spec headers world.context = app.callOf spec headers world'.context := by
        rw [callOf, callOf, RequestSpec.resolve, RequestSpec.resolve,
          Template.evaluateFields_alike h.context]
      rw [perform, perform, hcall]
      exact ⟨rfl, h⟩
  | host run => exact absurd rfl (hown run)
  | create entity => exact hstores _
  | read entity rules => exact hstores _
  | readFirst entity lookup => exact hstores _
  | update entity lookup => exact hstores _
  | delete entity lookup => exact hstores _
  | count entity filters => exact hstores _

theorem performStack_alike (h : world.Alike world') (slots : StackSlots) {task : Task}
    (hown : ∀ run, task ≠ .host run) :
    (app.performStack slots task world).Alike (app.performStack slots task world') := by
  obtain ⟨hanswer, hafter⟩ := perform_alike app h hown
  rw [performStack, performStack]
  cases hperform : app.perform task world with
  | mk answer after =>
    cases hperform' : app.perform task world' with
    | mk answer' after' =>
      rw [hperform, hperform'] at hanswer hafter
      cases hanswer
      cases answer with
      | ok result => exact hafter.settle slots result
      | error message => exact ⟨rfl, hafter⟩

end Application

/-- A loop around bodies that have outcomes that are alike in worlds that are alike, whatever is
bound under the name of the loop. -/
theorem iterate_alike {body body' : World → Option Outcome}
    (hbody : ∀ world world', world.Alike world' →
      Option.Rel Outcome.Alike (body world) (body' world'))
    {entryName : String} (items : List Value) {world world' : World}
    (h : (world.remove entryName).Alike (world'.remove entryName)) :
    Option.Rel Outcome.Alike (iterate body entryName items world)
      (iterate body' entryName items world') := by
  induction items generalizing world world' with
  | nil => exact .some ⟨rfl, h⟩
  | cons item rest ih =>
    have hitem := hbody _ _ (World.Alike.bind_of_remove h item)
    rw [iterate, iterate]
    generalize body (world.bind entryName item) = ran,
      body' (world'.bind entryName item) = ran' at hitem
    cases hitem with
    | none => exact .none
    | @some reached reached' hreached =>
      obtain ⟨result, after⟩ := reached
      obtain ⟨result', after'⟩ := reached'
      obtain ⟨rfl, hafter⟩ := hreached
      cases hsuccess : result.success with
      | true => simpa only [hsuccess, if_true] using ih (hafter.remove entryName)
      | false => simpa only [hsuccess, if_neg Bool.false_ne_true] using .some ⟨rfl, hafter⟩

namespace Application

variable {app : Application} {world world' : World}

/-- **One step**: a node of a built-in type has outcomes that are alike in worlds that are alike, if
the chains have that it may run. -/
theorem execute_alike (hbuiltin : app.HasBuiltinActions) {runChain : ChainRunner}
    (hchain : ∀ id world world', world.Alike world' →
      Option.Rel Outcome.Alike (runChain id world) (runChain id world'))
    (id : NodeId) (h : world.Alike world') :
    Option.Rel Outcome.Alike (app.execute runChain id world) (app.execute runChain id world') := by
  rw [execute, execute]
  cases hnode : app.model.action? id with
  | none => exact .some ⟨rfl, h⟩
  | some node =>
    simp only [← instantiate_alike h.context node]
    cases hmade : app.instantiate node world.context with
    | error error => exact .some ⟨rfl, h⟩
    | ok action =>
      have hown := isHost_of_instantiate hbuiltin hnode hmade
      cases action with
      | stack slots task =>
        refine .some (performStack_alike h slots fun run htask => ?_)
        rw [htask] at hown
        cases hown
      | flow choice =>
        cases choice with
        | branch condition onTrue onFalse => exact .some ⟨rfl, h⟩
        | switch input cases default => exact .some ⟨rfl, h⟩
        | host run => cases hown
        | foreach items entryName body =>
          cases body with
          | none => exact .some ⟨rfl, h⟩
          | some body => exact iterate_alike (hchain body) items (h.remove entryName)

theorem follow_alike (hbuiltin : app.HasBuiltinActions) (fuel : Nat) (id : NodeId)
    (h : world.Alike world') :
    Option.Rel Outcome.Alike (app.follow fuel id world) (app.follow fuel id world') := by
  induction fuel generalizing id world world' with
  | zero => exact .none
  | succ fuel ih =>
    have hchain (body : NodeId) (world world' : World) (hworlds : world.Alike world') :
        Option.Rel Outcome.Alike (app.follow fuel body (app.prepare world))
          (app.follow fuel body (app.prepare world')) :=
      ih body (prepare_alike hworlds)
    have hnode := execute_alike hbuiltin hchain id h
    rw [follow, follow]
    generalize app.execute _ id world = ran, app.execute _ id world' = ran' at hnode
    cases hnode with
    | none => exact .none
    | @some reached reached' hreached =>
      obtain ⟨result, after⟩ := reached
      obtain ⟨result', after'⟩ := reached'
      obtain ⟨rfl, hafter⟩ := hreached
      dsimp only
      split
      · exact ih _ hafter
      · exact .some ⟨rfl, hafter⟩

/-- **Runs from worlds that are alike** have outcomes that are alike, or none. -/
theorem run_alike (hbuiltin : app.HasBuiltinActions) (fuel : Nat) (entry : NodeId)
    (h : world.Alike world') :
    Option.Rel Outcome.Alike (app.run fuel entry world) (app.run fuel entry world') :=
  follow_alike hbuiltin fuel entry (prepare_alike h)

end Application

end Flowgraph

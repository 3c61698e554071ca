import Flowgraph.Proofs.Store.Sharing
/-!
# What a session sees

A session works on a snapshot of each collection: the committed table as it was when the session
first touched the collection, with the session's own successful operations carried out on it. This
module says so of runs, whatever the sessions do in between (`isolated`).

The two sides are told apart on purpose. `seen` and `Changed` know only what is visible from
outside: the schedule of a run, its answers and its committed tables. The copies that the sessions
keep, with their marks of change, are what the store makes of it. `shows_of_firstTouch` relates the
two by induction on the time, one step at a time.
-/

namespace Flowgraph

/-! ## Operations one after another -/

namespace Collection

/-- A table with operations carried out on it one after another. -/
def replay (schema : RecordSchema) (table : List Record) (ops : List Operation) : Collection :=
  ops.foldl after { schema, records := table }

/-- Whether two collections differ at most in their marks of change. -/
structure SameRecords (a b : Collection) : Prop where
  schema : a.schema = b.schema
  records : a.records = b.records

namespace SameRecords

variable {a b : Collection}

theorem position? (h : SameRecords a b) (key : Value) : a.position? key = b.position? key := by
  unfold Collection.position?
  rw [h.schema, h.records]

theorem keyed (h : SameRecords a b) (record : Record) : a.keyed record = b.keyed record := by
  unfold Collection.keyed nextKey
  rw [h.schema, h.records]

/-- What an operation answers does not depend on the mark of change, and neither do the records
that it leaves. -/
theorem perform (h : SameRecords a b) (op : Operation) :
    (a.perform op).1 = (b.perform op).1 ∧ SameRecords (a.after op) (b.after op) := by
  unfold Collection.after
  cases op with
  | touch => exact ⟨rfl, h⟩
  | query q =>
    refine ⟨?_, h⟩
    simp only [Collection.perform, Collection.query, h.records]
  | count filters =>
    refine ⟨?_, h⟩
    simp only [Collection.perform, Collection.count, h.records]
  | add record =>
    simp only [Collection.perform, Collection.add, h.keyed]
    cases b.keyed record with
    | error error => exact ⟨rfl, h⟩
    | ok made =>
      simp only [h.position?]
      cases b.position? made.2 with
      | some i => exact ⟨by simp only [h.schema, Prod.map_fst], h⟩
      | none => exact ⟨rfl, h.schema, by simp only [Prod.map_snd, id_eq, h.records]⟩
  | update record =>
    simp only [Collection.perform, Collection.update, h.schema]
    cases b.schema.keyOf? record with
    | none => exact ⟨rfl, h⟩
    | some key =>
      simp only [h.position?]
      cases b.position? key with
      | none => exact ⟨rfl, h⟩
      | some i => exact ⟨rfl, rfl, by simp only [Prod.map_snd, id_eq, h.records]⟩
  | remove key =>
    simp only [Collection.perform, Collection.remove, h.position?]
    cases b.position? key with
    | none => exact ⟨by simp only [h.schema, Prod.map_fst], h⟩
    | some i =>
      exact ⟨by simp only [Prod.map_fst, h.records], h.schema,
        by simp only [Prod.map_snd, id_eq, h.records]⟩

end SameRecords

/-- A collection is marked as changed by the operations that change records and succeed. -/
theorem dirty_perform {collection left : Collection} {op : Operation} {answer : Answer}
    (h : collection.perform op = (.ok answer, left)) :
    left.dirty = true ↔ op.Mutates ∨ collection.dirty = true := by
  cases effect_of_perform h with
  | looked _ hreads => simp [hreads]
  | added | updated | removed => simp [Operation.Mutates]

end Collection

namespace SharedStore

/-! ### What an operation does to what sessions see -/

section View

variable (shared : SharedStore) (place : Nat) (name : String)

/-- What an open session sees of a collection without a copy of its own. -/
def committed? : Option Collection :=
  if place < shared.sessions.length then
    (Keyed.get? name shared.provider.store.schemas).map fun schema =>
      { schema, records := shared.table name }
  else none

theorem view?_eq_or :
    shared.view? place name = (shared.copy? place name).or (shared.committed? place name) := by
  unfold view? copy? committed?
  cases hs : shared.sessions[place]? with
  | none =>
    rw [if_neg (Nat.not_lt_of_le (List.getElem?_eq_none_iff.1 hs))]
    rfl
  | some session =>
    rw [if_pos (List.getElem?_eq_some_iff.1 hs).1]
    rfl

variable (op : Collection.Operation)

/-- An operation opens no session and commits nothing. -/
theorem committed?_act (other : Nat) (name' : String) :
    (shared.step (.act place name op)).2.committed? other name' =
      shared.committed? other name' := by
  have hlength : (shared.step (.act place name op)).2.sessions.length =
      shared.sessions.length := by
    rw [step_act]
    cases shared.sessions[place]? with
    | none => rfl
    | some session => exact List.length_set
  unfold committed? SharedStore.table
  rw [hlength, provider_act]

/-- An operation leaves the session with what it saw, as the operation left it. -/
theorem view?_act_self :
    (shared.step (.act place name op)).2.view? place name =
      (shared.view? place name).map fun collection => collection.after op := by
  rw [view?_eq_or, copy?_act_self, committed?_act]
  cases hview : shared.view? place name with
  | some collection => rfl
  | none =>
    rw [view?_eq_or, Option.or_eq_none_iff] at hview
    exact hview.2

/-- An operation changes nothing else that a session sees. -/
theorem view?_act_of_ne {other : Nat} {name' : String} (h : other ≠ place ∨ name' ≠ name) :
    (shared.step (.act place name op)).2.view? other name' = shared.view? other name' := by
  rw [view?_eq_or, view?_eq_or, copy?_act_of_ne _ _ _ _ h, committed?_act]

end View

namespace Run

/-! ## Seen from outside -/

section Outside

variable (run : Run) (session : Nat) (name : String)

/-- Whether an open session operates on a declared collection at a time. -/
def Touches (t : Nat) : Prop :=
  (∃ op, run.schedule t = .act session name op) ∧ session < (run.state t).sessions.length ∧
    Keyed.has name run.provider.store.schemas = true

/-- Whether a session touches a collection at a time, and did not before. -/
def FirstTouch (since : Nat) : Prop :=
  run.Touches session name since ∧ ∀ t, t < since → ¬run.Touches session name t

/-- The operation on a collection by which a session succeeds at a time. -/
def success? (t : Nat) : Option Collection.Operation :=
  match run.schedule t, run.answer t with
  | .act place other op, some (.ok _) => if place = session ∧ other = name then some op else none
  | _, _ => none

/-- The operations on a collection by which a session succeeded before a time, in their order. -/
def log (t : Nat) : List Collection.Operation :=
  (List.range t).filterMap (run.success? session name)

/-- What a session sees of a collection that it touched first at a time: the table as it was then,
with the operations carried out on it by which the session succeeded. -/
def seen (schema : RecordSchema) (since t : Nat) : Collection :=
  .replay schema ((run.state since).table name) (run.log session name t)

/-- Whether a session changed a collection and has not committed since. -/
def Changed (t : Nat) : Prop :=
  ∃ u op, u < t ∧ run.success? session name u = some op ∧ op.Mutates ∧
    ∀ v, u < v → v < t → run.schedule v = .commit session → ¬run.Succeeds v

end Outside

variable {run : Run} {session : Nat} {name : String}

theorem success?_eq_some_iff {t : Nat} {op : Collection.Operation} :
    run.success? session name t = some op ↔
      run.schedule t = .act session name op ∧ run.Succeeds t := by
  unfold success? Succeeds
  split
  · next place other op' answer hact hanswer =>
    simp only [hact, hanswer, Option.ite_none_right_eq_some, Option.some.injEq, Step.act.injEq,
      Except.ok.injEq, exists_eq', and_true, and_assoc]
  · next hnot =>
    constructor
    · intro h
      cases h
    · rintro ⟨hact, answer, hanswer⟩
      exact absurd hanswer (hnot _ _ _ _ hact)

theorem success?_of_schedule {t : Nat} {s : Step} (hstep : run.schedule t = s)
    (h : ∀ op, s ≠ .act session name op) : run.success? session name t = none := by
  rw [Option.eq_none_iff_forall_ne_some]
  intro op hop
  obtain ⟨hact, -⟩ := success?_eq_some_iff.1 hop
  exact h op (by rw [← hstep, hact])

theorem log_succ (t : Nat) :
    run.log session name (t + 1) =
      run.log session name t ++ (run.success? session name t).toList := by
  unfold log
  rw [List.range_succ, List.filterMap_append]
  cases h : run.success? session name t <;> simp [h]

/-- A collection is changed by an operation that changes records, and is so until a commit. -/
theorem changed_succ_iff {t : Nat} :
    run.Changed session name (t + 1) ↔
      (∃ op, run.success? session name t = some op ∧ op.Mutates) ∨
        run.Changed session name t ∧ ¬(run.schedule t = .commit session ∧ run.Succeeds t) := by
  constructor
  · rintro ⟨u, op, hlt, hop, hmutates, hsince⟩
    rcases Nat.eq_or_lt_of_le (Nat.le_of_lt_succ hlt) with rfl | hlt'
    · exact .inl ⟨op, hop, hmutates⟩
    · refine .inr ⟨⟨u, op, hlt', hop, hmutates, ?_⟩, ?_⟩
      · intro v huv hvt
        exact hsince v huv (by omega)
      · rintro ⟨hcommit, hsucceeds⟩
        exact hsince t hlt' (by omega) hcommit hsucceeds
  · rintro (⟨op, hop, hmutates⟩ | ⟨⟨u, op, hlt, hop, hmutates, hsince⟩, hnot⟩)
    · refine ⟨t, op, by omega, hop, hmutates, ?_⟩
      intro v htv hvt
      omega
    · refine ⟨u, op, by omega, hop, hmutates, ?_⟩
      intro v huv hvt hcommit hsucceeds
      rcases Nat.eq_or_lt_of_le (Nat.le_of_lt_succ hvt) with rfl | hvt'
      · exact hnot ⟨hcommit, hsucceeds⟩
      · exact hsince v huv hvt' hcommit hsucceeds

/-! ## Copies and what is seen -/

/-- Whoever sees something of a collection, by acting on it, touches it. -/
theorem touches_of_view? {t : Nat} {op : Collection.Operation} {collection : Collection}
    (hact : run.schedule t = .act session name op)
    (hview : (run.state t).view? session name = some collection) : run.Touches session name t := by
  refine ⟨⟨op, hact⟩, ?_, ?_⟩
  · obtain ⟨opened, hopened, -⟩ := Option.bind_eq_some_iff.1 hview
    exact (List.getElem?_eq_some_iff.1 hopened).1
  · rw [Keyed.has, schema_view? hview]
    rfl

theorem touches_of_success? {t : Nat} {op : Collection.Operation}
    (h : run.success? session name t = some op) : run.Touches session name t := by
  obtain ⟨hact, answer, hanswer⟩ := success?_eq_some_iff.1 h
  rw [answer_of_schedule hact] at hanswer
  obtain ⟨collection, after, hview, -⟩ := perform_of_answer_act hanswer
  exact touches_of_view? hact hview

/-- A session has no copy of a collection that it did not touch. -/
theorem copy?_eq_none_of_untouched {t : Nat} (h : ∀ u, u < t → ¬run.Touches session name u) :
    (run.state t).copy? session name = none := by
  induction t with
  | zero => rfl
  | succ t ih =>
    have hnone := ih fun u hu => h u (by omega)
    cases hstep : run.schedule t with
    | opening => rw [state_succ_of_schedule hstep, copy?_opening, hnone]
    | seed collection records => rw [state_succ_of_schedule hstep, copy?_seed, hnone]
    | act place name' op =>
      rw [state_succ_of_schedule hstep]
      by_cases hself : session = place ∧ name = name'
      · obtain ⟨rfl, rfl⟩ := hself
        rw [copy?_act_self, Option.map_eq_none_iff, Option.eq_none_iff_forall_ne_some]
        intro collection hview
        exact h t (by omega) (touches_of_view? hstep hview)
      · rw [copy?_act_of_ne _ _ _ _ (Classical.not_and_iff_not_or_not.1 hself), hnone]
    | commit place =>
      rw [state_succ_of_schedule hstep]
      by_cases hplace : session = place
      · subst hplace
        obtain ⟨hsame, -⟩ | ⟨_, -, hdone⟩ := commit_cases (run.state t) session
        · rw [hsame, hnone]
        · have hanswer : ((run.state t).step (.commit session)).1 = some (.ok .done) := by
            rw [hdone]
          rw [copy?_commit_self hanswer, hnone]
          rfl
      · rw [copy?_commit_of_ne hplace, hnone]

/-- Whether a collection is what a session sees, with the right mark of change. -/
structure Shows (run : Run) (session : Nat) (name : String) (since t : Nat)
    (collection : Collection) : Prop where
  same : collection.SameRecords (run.seen session name collection.schema since t)
  dirty : collection.dirty = true ↔ run.Changed session name t

/-- At its first touch a session sees the committed table. -/
theorem shows_at_firstTouch {since : Nat} (hfirst : run.FirstTouch session name since) :
    ∃ collection, (run.state since).view? session name = some collection ∧
      run.Shows session name since since collection := by
  obtain ⟨⟨-, hopen, hdeclared⟩, huntouched⟩ := hfirst
  obtain ⟨schema, hschema⟩ := Option.isSome_iff_exists.1 hdeclared
  have hcopy := copy?_eq_none_of_untouched huntouched
  rw [← run.schemas_state since] at hschema
  have hview : (run.state since).view? session name =
      some { schema, records := (run.state since).table name } := by
    rw [view?_eq_or, hcopy, committed?, if_pos hopen, hschema]
    rfl
  refine ⟨_, hview, ?_, ?_⟩
  · have hlog : run.log session name since = [] := by
      rw [log, List.filterMap_eq_nil_iff]
      intro u hu
      rw [Option.eq_none_iff_forall_ne_some]
      intro op hop
      exact huntouched u (List.mem_range.1 hu) (touches_of_success? hop)
    unfold seen
    rw [hlog]
    exact ⟨rfl, rfl⟩
  · constructor
    · intro hdirty
      cases hdirty
    · rintro ⟨u, op, hlt, hop, -⟩
      exact absurd (touches_of_success? hop) (huntouched u hlt)

/-- An operation of the session leaves what the session sees afterwards. -/
theorem Shows.act {since t : Nat} {collection : Collection} {op : Collection.Operation}
    (h : run.Shows session name since t collection)
    (hact : run.schedule t = .act session name op)
    (hview : (run.state t).view? session name = some collection) :
    run.Shows session name since (t + 1) (collection.after op) := by
  have hanswer := answer_of_schedule hact
  rw [answer_act hview] at hanswer
  have hkept : ¬(run.schedule t = .commit session ∧ run.Succeeds t) := by
    rintro ⟨hcommit, -⟩
    rw [hact] at hcommit
    cases hcommit
  cases hfirst : (collection.perform op).1 with
  | error error =>
    have hnone : run.success? session name t = none := by
      rw [Option.eq_none_iff_forall_ne_some]
      intro op' hop'
      obtain ⟨-, answer, hok⟩ := success?_eq_some_iff.1 hop'
      rw [hanswer, hfirst] at hok
      cases hok
    rw [Collection.after_of_error hfirst]
    constructor
    · rw [seen, log_succ, hnone, Option.toList_none, List.append_nil]
      exact h.same
    · rw [changed_succ_iff, hnone, h.dirty]
      simp [hkept]
  | ok answer =>
    have hsome : run.success? session name t = some op := by
      rw [success?_eq_some_iff]
      exact ⟨hact, answer, by rw [hanswer, hfirst]⟩
    constructor
    · obtain ⟨-, hafter⟩ := h.same.perform op
      rw [Collection.schema_after, seen, log_succ, hsome, Collection.replay, List.foldl_append]
      exact hafter
    · have hperform : collection.perform op = (.ok answer, collection.after op) :=
        Prod.ext hfirst rfl
      rw [Collection.dirty_perform hperform, changed_succ_iff, hsome, h.dirty]
      simp [hkept]

/-- A step that is no operation of the session on the collection, and no commit of the session that
succeeds, leaves what the session sees. -/
theorem Shows.succ {since t : Nat} {collection : Collection}
    (h : run.Shows session name since t collection) {s : Step} (hstep : run.schedule t = s)
    (hact : ∀ op, s ≠ .act session name op)
    (hcommit : ¬(run.schedule t = .commit session ∧ run.Succeeds t)) :
    run.Shows session name since (t + 1) collection := by
  have hnone := success?_of_schedule hstep hact
  constructor
  · rw [seen, log_succ, hnone, Option.toList_none, List.append_nil]
    exact h.same
  · rw [changed_succ_iff, hnone, h.dirty]
    simp [hcommit]

/-- A commit of the session that succeeds takes the mark of change away. -/
theorem Shows.commit {since t : Nat} {collection : Collection}
    (h : run.Shows session name since t collection) (hstep : run.schedule t = .commit session)
    (hsucceeds : run.Succeeds t) :
    run.Shows session name since (t + 1) { collection with dirty := false } := by
  have hnone : run.success? session name t = none := success?_of_schedule hstep (by simp)
  constructor
  · rw [seen, log_succ, hnone, Option.toList_none, List.append_nil]
    exact ⟨h.same.schema, h.same.records⟩
  · rw [changed_succ_iff, hnone]
    simp [hstep, hsucceeds]

/-- **From its first touch on a session sees** its own copy, and that is the table of then with the
session's successful operations carried out on it. -/
theorem shows_of_firstTouch {since t : Nat} (hfirst : run.FirstTouch session name since)
    (hle : since ≤ t) :
    ∃ collection, (run.state t).view? session name = some collection ∧
      run.Shows session name since t collection ∧
      (since < t → (run.state t).copy? session name = some collection) := by
  induction hle with
  | refl =>
    obtain ⟨collection, hview, hshows⟩ := shows_at_firstTouch hfirst
    exact ⟨collection, hview, hshows, fun hlt => absurd hlt (Nat.lt_irrefl since)⟩
  | @step t hle ih =>
    obtain ⟨collection, hview, hshows, hcopy⟩ := ih
    -- It is enough to find the copy that the session has after the step.
    suffices hnext : ∃ copy, (run.state (t + 1)).copy? session name = some copy ∧
        run.Shows session name since (t + 1) copy by
      obtain ⟨copy, hcopy, hshows⟩ := hnext
      exact ⟨copy, view?_of_copy? hcopy, hshows, fun _ => hcopy⟩
    by_cases hself : ∃ op, run.schedule t = .act session name op
    · obtain ⟨op, hact⟩ := hself
      refine ⟨collection.after op, ?_, hshows.act hact hview⟩
      rw [state_succ_of_schedule hact, copy?_act_self, hview]
      rfl
    · have hlt : since < t := by
        rcases Nat.eq_or_lt_of_le hle with rfl | hlt
        · exact absurd hfirst.1.1 hself
        · exact hlt
      have hcopy := hcopy hlt
      by_cases hdone : run.schedule t = .commit session ∧ run.Succeeds t
      · obtain ⟨hstep, hsucceeds⟩ := hdone
        refine ⟨_, ?_, hshows.commit hstep hsucceeds⟩
        obtain ⟨answer, hanswer⟩ := hsucceeds
        rw [answer_of_schedule hstep] at hanswer
        rw [state_succ_of_schedule hstep, copy?_commit_self hanswer, hcopy]
        rfl
      · refine ⟨collection, ?_, hshows.succ rfl (fun op hop => hself ⟨op, hop⟩) hdone⟩
        cases hstep : run.schedule t with
        | opening => rw [state_succ_of_schedule hstep, copy?_opening, hcopy]
        | seed other records => rw [state_succ_of_schedule hstep, copy?_seed, hcopy]
        | act place other op =>
          rw [state_succ_of_schedule hstep, copy?_act_of_ne, hcopy]
          rw [← Classical.not_and_iff_not_or_not]
          rintro ⟨rfl, rfl⟩
          exact hself ⟨op, hstep⟩
        | commit place =>
          rw [state_succ_of_schedule hstep]
          by_cases hplace : session = place
          · subst hplace
            obtain ⟨hsame, -⟩ | ⟨_, -, hwritten⟩ := commit_cases (run.state t) session
            · rw [hsame, hcopy]
            · refine absurd ⟨hstep, .done, ?_⟩ hdone
              rw [answer_of_schedule hstep, hwritten]
          · rw [copy?_commit_of_ne hplace, hcopy]

/-! ## Snapshot isolation -/

/-- A session that touches a collection has touched it first at some time. -/
theorem firstTouch_of_touches {t : Nat} (h : run.Touches session name t) :
    ∃ since, since ≤ t ∧ run.FirstTouch session name since := by
  induction t using Nat.strongRecOn with
  | ind t ih =>
    by_cases hbefore : ∃ u, u < t ∧ run.Touches session name u
    · obtain ⟨u, hut, hu⟩ := hbefore
      obtain ⟨since, hle, hfirst⟩ := ih u hut hu
      exact ⟨since, by omega, hfirst⟩
    · refine ⟨t, Nat.le_refl t, h, ?_⟩
      intro u hut hu
      exact hbefore ⟨u, hut, hu⟩

/-- A session that changed a collection has a copy of it, as its first touch and its successful
operations make it. -/
theorem shows_of_changed {t : Nat} (h : run.Changed session name t) :
    ∃ copy since, (run.state t).copy? session name = some copy ∧ since < t ∧
      run.FirstTouch session name since ∧ run.Shows session name since t copy := by
  obtain ⟨u, op, hut, hop, -⟩ := h
  obtain ⟨since, hle, hfirst⟩ := firstTouch_of_touches (touches_of_success? hop)
  have hlt : since < t := by omega
  obtain ⟨copy, -, hshows, hcopy⟩ := shows_of_firstTouch hfirst (Nat.le_of_lt hlt)
  exact ⟨copy, since, hcopy hlt, hlt, hfirst, hshows⟩

/-- A session changed whatever it has a marked copy of. -/
theorem changed_of_dirty {t : Nat} {copy : Collection}
    (hcopy : (run.state t).copy? session name = some copy) (hdirty : copy.dirty = true) :
    run.Changed session name t := by
  by_cases htouched : ∃ u, u < t ∧ run.Touches session name u
  · obtain ⟨u, hut, hu⟩ := htouched
    obtain ⟨since, hle, hfirst⟩ := firstTouch_of_touches hu
    obtain ⟨collection, hview, hshows, -⟩ := shows_of_firstTouch hfirst (t := t) (by omega)
    obtain rfl : copy = collection := by
      rw [← Option.some.injEq, ← view?_of_copy? hcopy, hview]
    exact hshows.dirty.1 hdirty
  · -- A session that never touched the collection has no copy to be marked.
    have hnone : (run.state t).copy? session name = none :=
      copy?_eq_none_of_untouched fun u hut hu => htouched ⟨u, hut, hu⟩
    rw [hnone] at hcopy
    cases hcopy

/-- What a step of a run is to its sessions. -/
structure Isolated (run : Run) (t : Nat) : Prop where
  /-- An operation on a collection answers what it answers on the table as it was at the session's
  first touch, with the session's own successful operations carried out on it. -/
  observes : ∀ {session name op schema}, run.schedule t = .act session name op →
    session < (run.state t).sessions.length →
    Keyed.get? name run.provider.store.schemas = some schema →
    ∃ since, since ≤ t ∧ run.FirstTouch session name since ∧
      run.answer t = some ((run.seen session name schema since t).perform op).1
  /-- An operation that fails changes nothing that any session sees. -/
  fails : ∀ {session name op error}, run.schedule t = .act session name op →
    run.answer t = some (.error error) →
    ∀ other name', (run.state (t + 1)).view? other name' = (run.state t).view? other name'
  /-- An operation changes no committed table, and nothing that another session sees. -/
  invisible : ∀ {session name op}, run.schedule t = .act session name op →
    (∀ name', (run.state (t + 1)).table name' = (run.state t).table name') ∧
    ∀ other name', other ≠ session →
      (run.state (t + 1)).view? other name' = (run.state t).view? other name'
  /-- A commit writes what the session sees of the collections that it changed since its last
  commit, and leaves all other tables. -/
  commits : ∀ {session}, run.schedule t = .commit session → run.Succeeds t → ∀ name,
    (run.Changed session name t → ∃ schema since, since < t ∧
      Keyed.get? name run.provider.store.schemas = some schema ∧
      run.FirstTouch session name since ∧
      (run.state (t + 1)).table name = (run.seen session name schema since t).records) ∧
    (¬run.Changed session name t →
      (run.state (t + 1)).table name = (run.state t).table name)

/-- **Sessions see snapshots.** -/
theorem isolated (run : Run) (t : Nat) : run.Isolated t where
  observes {session name op schema} hact hopen hschema := by
    have htouches : run.Touches session name t := by
      refine ⟨⟨op, hact⟩, hopen, ?_⟩
      rw [Keyed.has, hschema]
      rfl
    obtain ⟨since, hle, hfirst⟩ := firstTouch_of_touches htouches
    obtain ⟨collection, hview, hshows, -⟩ := shows_of_firstTouch hfirst hle
    obtain rfl : collection.schema = schema := by
      rw [← Option.some.injEq, ← schema_view? hview, hschema]
    refine ⟨since, hle, hfirst, ?_⟩
    rw [answer_of_schedule hact, answer_act hview, (hshows.same.perform op).1]
  fails {session name op error} hact hfails other name' := by
    rw [state_succ_of_schedule hact]
    by_cases hself : other = session ∧ name' = name
    · obtain ⟨rfl, rfl⟩ := hself
      rw [view?_act_self]
      cases hview : (run.state t).view? other name' with
      | none => rfl
      | some collection =>
        rw [answer_of_schedule hact, answer_act hview] at hfails
        rw [Option.map_some, Collection.after_of_error (Option.some.inj hfails)]
    · exact view?_act_of_ne _ _ _ _ (Classical.not_and_iff_not_or_not.1 hself)
  invisible {session name op} hact := by
    rw [state_succ_of_schedule hact]
    constructor
    · intro name'
      rw [SharedStore.table, provider_act]
      rfl
    · intro other name' hother
      exact view?_act_of_ne _ _ _ _ (.inl hother)
  commits {session} hstep hsucceeds name := by
    obtain ⟨answer, hanswer⟩ := hsucceeds
    rw [answer_of_schedule hstep] at hanswer
    rw [state_succ_of_schedule hstep]
    constructor
    · intro hchanged
      obtain ⟨copy, since, hcopy, hlt, hfirst, hshows⟩ := shows_of_changed hchanged
      refine ⟨copy.schema, since, hlt, schema_view? (view?_of_copy? hcopy), hfirst, ?_⟩
      rw [table_commit_of_dirty (run.inv_state t) hanswer hcopy (hshows.dirty.2 hchanged)]
      exact hshows.same.records
    · intro hunchanged
      refine table_commit_of_clean (run.inv_state t) hanswer ?_
      intro copy hcopy hdirty
      exact hunchanged (changed_of_dirty hcopy hdirty)

/-! ### A post that a reader overlooks -/

/-- A session counts the posts twice, and another one publishes a post in between. -/
def overlooked : Run where
  provider := { store := blog }
  schedule
    | 0 | 1 => .opening
    | 2 => .act 1 "Posts" (.count [])
    | 3 => .act 0 "Posts" (.add (post "first"))
    | 4 => .commit 0
    | _ => .act 1 "Posts" (.count [])

/-- The reader counts no post though the first one is in the table: it sees its snapshot. -/
theorem overlooked_isolated :
    (overlooked.state 5).table "Posts" = [post "first"] ∧
      overlooked.answer 5 = some (.ok (.number 0)) ∧
      ∃ schema since, Keyed.get? "Posts" blog.schemas = some schema ∧ since ≤ 5 ∧
        overlooked.FirstTouch 1 "Posts" since ∧
        overlooked.answer 5 =
          some ((overlooked.seen 1 "Posts" schema since 5).perform (.count [])).1 := by
  obtain ⟨since, hle, hfirst, hanswer⟩ :=
    (isolated overlooked 5).observes rfl (by decide) rfl
  exact ⟨rfl, rfl, _, since, rfl, hle, hfirst, hanswer⟩

end Run

end SharedStore

end Flowgraph

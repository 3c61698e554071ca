import Flowgraph.Proofs.Store.Sharing
/-!
# When a committed addition stays

Sessions work on private copies and write them back whole, so the session that commits last
decides what a table holds. Of two sessions that take their copies before either commits, the
second undoes the first one's addition (`lost_addition`).

An added record that was committed stays in the table as long as every session that commits
changes to the table afterwards took its copy after that commit (`Timely`), and no committed step
removes or updates the record (`Discarded`). The proof goes in two stretches of the run. From the
addition to its commit the record waits in the session's changed copy (`CommitsAdd.pending`); from
then on it is in the table and in every copy that is still going to be committed
(`CommitsAdd.held`). Records that two sessions add in this way have distinct keys, since the later
one is added to a copy that has the earlier one (`hasBoth_of_timely`).
-/

namespace Flowgraph

namespace Collection

/-- Whether an operation replaces or removes the record with a key. -/
def Operation.Discards (schema : RecordSchema) (key : String) : Operation → Prop
  | .update record => schema.keyText? record = some key
  | .remove given => given.stringify = key
  | _ => False

/-- A record stays where it is unless an operation on its key succeeds. -/
theorem mem_records_after {collection : Collection} {record : Record} {key : String}
    (hr : record ∈ collection.records) (hk : collection.schema.keyText? record = some key)
    (op : Operation) :
    record ∈ (collection.after op).records ∨
      op.Discards collection.schema key ∧ ∃ answer, (collection.perform op).1 = .ok answer := by
  obtain ⟨j, hj⟩ := List.mem_iff_getElem?.1 hr
  cases hop : collection.perform op with
  | mk answer left =>
    rw [after_of_perform hop]
    cases effect_of_perform hop with
    | failed | looked => exact .inl hr
    | added => exact .inl (List.mem_append_left _ hr)
    | @updated record' key' i hkey' hpos =>
      by_cases hij : i = j
      · -- The record is the one that was replaced, so it has the key of the new one.
        subst hij
        have htext := keyText?_of_position? hpos hj
        refine .inr ⟨?_, _, rfl⟩
        change collection.schema.keyText? record' = some key
        rw [← hk, htext, RecordSchema.keyText?, hkey', Option.map_some]
      · refine .inl (List.mem_iff_getElem?.2 ⟨j, ?_⟩)
        rw [List.getElem?_set_ne hij, hj]
    | @removed key' i hpos =>
      by_cases hij : i = j
      · subst hij
        have htext := keyText?_of_position? hpos hj
        rw [hk, Option.some.injEq] at htext
        exact .inr ⟨htext.symm, _, rfl⟩
      · exact .inl (List.mem_eraseIdx_iff_getElem?.2 ⟨j, fun e => hij e.symm, hj⟩)

end Collection

namespace SharedStore.Run

variable (run : Run) (name : String)

/-- Whether a session commits changes to the collection at a time. -/
def Writes (session t : Nat) : Prop :=
  run.schedule t = .commit session ∧ run.Succeeds t ∧
    ∃ copy, (run.state t).copy? session name = some copy ∧ copy.dirty = true

/-- A session adds a record and later commits it, both successfully. -/
structure CommitsAdd (session added committed : Nat) (stored : Record) : Prop where
  adds : ∃ record, run.schedule added = .act session name (.add record)
  answered : run.answer added = some (.ok (.record stored))
  commits : run.schedule committed = .commit session
  succeeds : run.Succeeds committed
  later : added < committed
  first : ∀ t, added < t → t < committed → run.schedule t = .commit session → ¬run.Succeeds t

/-- Some session replaces or removes the record between two times, and commits that. -/
def Discarded (stored : Record) (since before : Nat) : Prop :=
  ∃ session t u op schema key, since < t ∧ t < u ∧ u < before ∧
    run.schedule t = .act session name op ∧ run.Succeeds t ∧
    run.schedule u = .commit session ∧ run.Succeeds u ∧
    Keyed.get? name run.provider.store.schemas = some schema ∧
    schema.keyText? stored = some key ∧ op.Discards schema key

/-- Every other session that commits changes to the collection between two times took its copy of
it after the first. -/
def Timely (session since before : Nat) : Prop :=
  ∀ other t, other ≠ session → since < t → t < before → run.Writes name other t →
    (run.state since).copy? other name = none

variable {run name}

namespace CommitsAdd

variable {session added committed before : Nat} {stored : Record}

/-- A record is added to what the session sees: no record there has its key, and the session has
it in its changed copy from then on. -/
theorem view?_added (h : run.CommitsAdd name session added committed stored) :
    ∃ collection key, (run.state added).view? session name = some collection ∧
      collection.schema.keyText? stored = some key ∧
      (∀ record ∈ collection.records, collection.schema.keyText? record ≠ some key) ∧
      ∃ copy, (run.state (added + 1)).copy? session name = some copy ∧ copy.dirty = true ∧
        stored ∈ copy.records := by
  obtain ⟨given, hact⟩ := h.adds
  have hanswer := h.answered
  rw [answer_of_schedule hact] at hanswer
  obtain ⟨collection, left, hview, hperform⟩ := perform_of_answer_act hanswer
  have hcopy := copy?_act_self (run.state added) session name (.add given)
  rw [← state_succ_of_schedule hact, hview, Option.map_some,
    Collection.after_of_perform hperform] at hcopy
  cases Collection.effect_of_perform hperform with
  | looked _ hreads => exact absurd trivial hreads
  | @added _ _ key hkey hpos =>
    refine ⟨collection, key.stringify, hview, ?_, fun record hr => ?_, _, hcopy, rfl, ?_⟩
    · rw [RecordSchema.keyText?, hkey, Option.map_some]
    · exact Collection.keyText?_ne_of_position? hpos hr
    · exact List.mem_append_right _ (List.mem_singleton.2 rfl)

/-- An added record has a key. -/
theorem keyText?_stored (h : run.CommitsAdd name session added committed stored) :
    ∃ schema key, Keyed.get? name run.provider.store.schemas = some schema ∧
      schema.keyText? stored = some key := by
  obtain ⟨collection, key, hview, hkey, -⟩ := h.view?_added
  exact ⟨collection.schema, key, schema_view? hview, hkey⟩

/-- One operation on a copy that has a record which is not discarded: either the record stays
there, or the session has no successful commit any more. -/
theorem mem_after (h : run.CommitsAdd name session added committed stored)
    (hkeep : ¬run.Discarded name stored added before) {t place : Nat} {op : Collection.Operation}
    {collection : Collection} (hlt : added < t) (hact : run.schedule t = .act place name op)
    (hview : (run.state t).view? place name = some collection)
    (hmem : stored ∈ collection.records) :
    stored ∈ (collection.after op).records ∨
      ∀ u, t < u → u < before → run.schedule u = .commit place → ¬run.Succeeds u := by
  obtain ⟨schema, key, hschema, hkey⟩ := h.keyText?_stored
  obtain rfl : schema = collection.schema := by
    rw [← Option.some.injEq, ← hschema, schema_view? hview]
  obtain hstays | ⟨hdiscards, answer, hanswer⟩ := Collection.mem_records_after hmem hkey op
  · exact .inl hstays
  · have hsucceeds : run.Succeeds t := by
      refine ⟨answer, ?_⟩
      rw [answer_of_schedule hact, answer_act hview, hanswer]
    refine .inr fun u htu hbefore hcommit hu => hkeep ?_
    exact ⟨place, t, u, op, collection.schema, key, hlt, htu, hbefore, hact, hsucceeds, hcommit, hu,
      hschema, hkey, hdiscards⟩

/-- **Up to its commit an added record waits** in the changed copy of the session. -/
theorem pending (h : run.CommitsAdd name session added committed stored)
    (hbefore : committed < before) (hkeep : ¬run.Discarded name stored added before) {t : Nat}
    (hlt : added < t) (hle : t ≤ committed) :
    ∃ copy, (run.state t).copy? session name = some copy ∧ copy.dirty = true ∧
      stored ∈ copy.records := by
  induction t with
  | zero => omega
  | succ t ih =>
    rcases Nat.eq_or_lt_of_le (Nat.le_of_lt_succ hlt) with rfl | hlt'
    · obtain ⟨-, -, -, -, -, hcopy⟩ := h.view?_added
      exact hcopy
    · obtain ⟨copy, hcopy, hdirty, hmem⟩ := ih hlt' (by omega)
      cases hstep : run.schedule t with
      | opening =>
        rw [state_succ_of_schedule hstep, copy?_opening]
        exact ⟨copy, hcopy, hdirty, hmem⟩
      | seed collection records =>
        rw [state_succ_of_schedule hstep, copy?_seed]
        exact ⟨copy, hcopy, hdirty, hmem⟩
      | act place name' op =>
        rw [state_succ_of_schedule hstep]
        by_cases hself : session = place ∧ name = name'
        · obtain ⟨rfl, rfl⟩ := hself
          have hview := view?_of_copy? hcopy
          rw [copy?_act_self, hview, Option.map_some]
          refine ⟨copy.after op, rfl, Collection.dirty_after hdirty op, ?_⟩
          refine (h.mem_after hkeep hlt' hstep hview hmem).resolve_right fun hnone => ?_
          exact hnone committed (by omega) hbefore h.commits h.succeeds
        · rw [copy?_act_of_ne _ _ _ _ (Classical.not_and_iff_not_or_not.1 hself)]
          exact ⟨copy, hcopy, hdirty, hmem⟩
      | commit place =>
        rw [state_succ_of_schedule hstep]
        by_cases hplace : session = place
        · -- The session's own commits fail until the one at `committed`.
          subst hplace
          obtain ⟨hsame, -⟩ | ⟨_, -, hdone⟩ := commit_cases (run.state t) session
          · rw [hsame]
            exact ⟨copy, hcopy, hdirty, hmem⟩
          · refine absurd ⟨.done, ?_⟩ (h.first t hlt' (by omega) hstep)
            rw [answer_of_schedule hstep, hdone]
        · rw [copy?_commit_of_ne hplace]
          exact ⟨copy, hcopy, hdirty, hmem⟩

end CommitsAdd

/-- A record is in the committed table and in every copy that is committed before a time. -/
structure Held (run : Run) (name : String) (stored : Record) (before t : Nat) : Prop where
  table : stored ∈ (run.state t).table name
  copies : ∀ session copy, (run.state t).copy? session name = some copy →
    stored ∈ copy.records ∨ ∀ u, t ≤ u → u < before → ¬run.Writes name session u

/-- What a session sees has a held record, if the session is going to commit. -/
theorem Held.view? {before t session : Nat} {stored : Record} {collection : Collection}
    (h : run.Held name stored before t)
    (hview : (run.state t).view? session name = some collection) :
    stored ∈ collection.records ∨ ∀ u, t ≤ u → u < before → ¬run.Writes name session u := by
  cases hcopy : (run.state t).copy? session name with
  | none =>
    rw [records_view? hcopy hview]
    exact .inl h.table
  | some copy =>
    obtain rfl : copy = collection := by
      rw [← Option.some.injEq, ← view?_of_copy? hcopy, hview]
    exact h.copies session copy hcopy

/-- Whoever commits nothing from a time on commits nothing from the next one on. -/
theorem Held.copies_succ {before t : Nat} {stored : Record} (h : run.Held name stored before t)
    (session : Nat) (copy : Collection) (hcopy : (run.state t).copy? session name = some copy) :
    stored ∈ copy.records ∨ ∀ u, t + 1 ≤ u → u < before → ¬run.Writes name session u :=
  (h.copies session copy hcopy).imp_right fun hno u hu => hno u (by omega)

/-- A commit keeps a record held: a copy that it writes is one that has the record. -/
theorem Held.commit {before t place : Nat} {stored : Record}
    (h : run.Held name stored before t) (hbefore : t < before)
    (hstep : run.schedule t = .commit place) : run.Held name stored before (t + 1) := by
  obtain ⟨hsame, -⟩ | ⟨_, -, hdone⟩ := commit_cases (run.state t) place
  · constructor
    · rw [state_succ_of_schedule hstep, hsame]
      exact h.table
    · rw [state_succ_of_schedule hstep, hsame]
      exact h.copies_succ
  · have hanswer : ((run.state t).step (.commit place)).1 = some (.ok .done) := by rw [hdone]
    constructor
    · rw [state_succ_of_schedule hstep]
      by_cases hchanged : ∃ copy, (run.state t).copy? place name = some copy ∧ copy.dirty = true
      · obtain ⟨copy, hcopy, hdirty⟩ := hchanged
        have hwrites : run.Writes name place t :=
          ⟨hstep, ⟨.done, by rw [answer_of_schedule hstep, hanswer]⟩, copy, hcopy, hdirty⟩
        rw [table_commit_of_dirty (run.inv_state t) hanswer hcopy hdirty]
        exact (h.copies place copy hcopy).resolve_right fun hno =>
          hno t (Nat.le_refl t) hbefore hwrites
      · rw [table_commit_of_clean (run.inv_state t) hanswer fun copy hcopy hdirty =>
          hchanged ⟨copy, hcopy, hdirty⟩]
        exact h.table
    · intro other copy hcopy
      rw [state_succ_of_schedule hstep] at hcopy
      by_cases hother : other = place
      · subst hother
        rw [copy?_commit_self hanswer] at hcopy
        obtain ⟨copy', hcopy', rfl⟩ := Option.map_eq_some_iff.1 hcopy
        exact h.copies_succ other copy' hcopy'
      · rw [copy?_commit_of_ne hother] at hcopy
        exact h.copies_succ other copy hcopy

namespace CommitsAdd

variable {session added committed before : Nat} {stored : Record}

/-- The commit of an added record puts it into the table, and the sessions that do not have it
in their copies then commit no more. -/
theorem held_succ (h : run.CommitsAdd name session added committed stored)
    (hbefore : committed < before) (hkeep : ¬run.Discarded name stored added before)
    (htimely : run.Timely name session committed before) :
    run.Held name stored before (committed + 1) := by
  obtain ⟨copy, hcopy, hdirty, hmem⟩ := h.pending hbefore hkeep h.later (Nat.le_refl _)
  obtain ⟨answer, hanswer⟩ := h.succeeds
  rw [answer_of_schedule h.commits] at hanswer
  constructor
  · rw [state_succ_of_schedule h.commits,
      table_commit_of_dirty (run.inv_state committed) hanswer hcopy hdirty]
    exact hmem
  · intro other copy' hcopy'
    rw [state_succ_of_schedule h.commits] at hcopy'
    by_cases hother : other = session
    · subst hother
      rw [copy?_commit_self hanswer, hcopy, Option.map_some, Option.some.injEq] at hcopy'
      rw [← hcopy']
      exact .inl hmem
    · rw [copy?_commit_of_ne hother] at hcopy'
      refine .inr fun u hu hub hwrites => ?_
      have hnone := htimely other u hother hu hub hwrites
      rw [hnone] at hcopy'
      cases hcopy'

/-- An operation keeps a committed record held, if its key is not discarded. -/
theorem held_act (h : run.CommitsAdd name session added committed stored)
    (hkeep : ¬run.Discarded name stored added before) {t : Nat} (hlt : added < t)
    (hheld : run.Held name stored before t) {place : Nat} {name' : String}
    {op : Collection.Operation} (hstep : run.schedule t = .act place name' op) :
    run.Held name stored before (t + 1) := by
  constructor
  · rw [state_succ_of_schedule hstep, SharedStore.table, provider_act]
    exact hheld.table
  · intro other copy hcopy
    rw [state_succ_of_schedule hstep] at hcopy
    by_cases hself : other = place ∧ name = name'
    · obtain ⟨rfl, rfl⟩ := hself
      rw [copy?_act_self] at hcopy
      obtain ⟨collection, hview, rfl⟩ := Option.map_eq_some_iff.1 hcopy
      rcases hheld.view? hview with hmem | hno
      · refine (h.mem_after hkeep hlt hstep hview hmem).imp_right fun hnone u hu hub hwrites => ?_
        obtain ⟨hcommit, hsucceeds, -⟩ := hwrites
        exact hnone u hu hub hcommit hsucceeds
      · exact .inr fun u hu => hno u (by omega)
    · rw [copy?_act_of_ne _ _ _ _ (Classical.not_and_iff_not_or_not.1 hself)] at hcopy
      exact hheld.copies_succ other copy hcopy

/-- One step keeps a committed record held, if its key is not discarded. -/
theorem held_step (h : run.CommitsAdd name session added committed stored)
    (hkeep : ¬run.Discarded name stored added before) {t : Nat} (hlt : added < t)
    (hheld : run.Held name stored before t) (htb : t < before) :
    run.Held name stored before (t + 1) := by
  cases hstep : run.schedule t with
  | opening =>
    constructor
    · rw [state_succ_of_schedule hstep, SharedStore.table, provider_opening]
      exact hheld.table
    · rw [state_succ_of_schedule hstep]
      simpa only [copy?_opening] using hheld.copies_succ
  | seed collection records =>
    constructor
    · obtain ⟨more, hmore⟩ : ∃ more, ((run.state t).step (.seed collection records)).2.table name =
          (run.state t).table name ++ more := table_seed collection records
      rw [state_succ_of_schedule hstep, hmore]
      exact List.mem_append_left _ hheld.table
    · rw [state_succ_of_schedule hstep]
      simpa only [copy?_seed] using hheld.copies_succ
  | act place name' op => exact h.held_act hkeep hlt hheld hstep
  | commit place => exact hheld.commit htb hstep

/-- **A committed record stays** in the table and in every copy that is still going to be
committed. -/
theorem held (h : run.CommitsAdd name session added committed stored)
    (hkeep : ¬run.Discarded name stored added before)
    (htimely : run.Timely name session committed before) {t : Nat} (hlt : committed < t)
    (hle : t ≤ before) : run.Held name stored before t := by
  have hlater := h.later
  induction t with
  | zero => omega
  | succ t ih =>
    rcases Nat.eq_or_lt_of_le (Nat.le_of_lt_succ hlt) with rfl | hlt'
    · exact h.held_succ hle hkeep htimely
    · exact h.held_step hkeep (by omega) (ih hlt' (by omega)) hle

/-- Of two records that are added in good time, the one that is committed later is added to a copy
that has the other, so it has another key. -/
theorem keyText?_ne_of_lt {first second : Nat} {added' committed' : Nat} {stored' : Record}
    (h : run.CommitsAdd name first added committed stored)
    (h' : run.CommitsAdd name second added' committed' stored') (hne : second ≠ first)
    (hlt : committed < committed') (hbefore : committed' < before)
    (hkeep : ¬run.Discarded name stored added before)
    (hkeep' : ¬run.Discarded name stored' added' before)
    (htimely : run.Timely name first committed before) {schema : RecordSchema}
    (hschema : Keyed.get? name run.provider.store.schemas = some schema) :
    schema.keyText? stored ≠ schema.keyText? stored' := by
  have hlater := h'.later
  have hwrites : run.Writes name second committed' := by
    obtain ⟨copy, hcopy, hdirty, -⟩ := h'.pending hbefore hkeep' hlater (Nat.le_refl _)
    exact ⟨h'.commits, h'.succeeds, copy, hcopy, hdirty⟩
  have hafter : committed < added' := by
    rcases Nat.lt_trichotomy added' committed with hlt' | heq | hgt
    · -- The second session would have had a copy at the commit of the first.
      obtain ⟨copy, hcopy, -, -⟩ := h'.pending hbefore hkeep' hlt' (Nat.le_of_lt hlt)
      rw [htimely second committed' hne hlt hbefore hwrites] at hcopy
      cases hcopy
    · obtain ⟨record, hact⟩ := h'.adds
      rw [heq, h.commits] at hact
      cases hact
    · exact hgt
  obtain ⟨collection, key, hview, hkey, hnew, -⟩ := h'.view?_added
  obtain rfl : schema = collection.schema := by
    rw [← Option.some.injEq, ← hschema, schema_view? hview]
  rcases (h.held hkeep htimely hafter (by omega)).view? hview with hmem | hno
  · rw [hkey]
    exact hnew stored hmem
  · exact absurd hwrites (hno committed' (by omega) hbefore)

end CommitsAdd

/-- Whether the committed table has two records at a time, under distinct keys. -/
def HasBoth (run : Run) (name : String) (first second : Record) (t : Nat) : Prop :=
  first ∈ (run.state t).table name ∧ second ∈ (run.state t).table name ∧
    ∃ schema key₁ key₂, Keyed.get? name run.provider.store.schemas = some schema ∧
      schema.keyText? first = some key₁ ∧ schema.keyText? second = some key₂ ∧ key₁ ≠ key₂

/-- **Additions that are committed in good time are kept.** When two sessions each add a record to
a collection and commit it, and every session that commits changes to the collection after one of
these commits took its copy after it, then the table has both records from then on, under distinct
keys, unless a committed step replaces or removes one of them. -/
theorem hasBoth_of_timely {s₁ s₂ added₁ added₂ committed₁ committed₂ before : Nat}
    {stored₁ stored₂ : Record} (hne : s₁ ≠ s₂)
    (h₁ : run.CommitsAdd name s₁ added₁ committed₁ stored₁)
    (h₂ : run.CommitsAdd name s₂ added₂ committed₂ stored₂)
    (hbefore₁ : committed₁ < before) (hbefore₂ : committed₂ < before)
    (hkeep₁ : ¬run.Discarded name stored₁ added₁ before)
    (hkeep₂ : ¬run.Discarded name stored₂ added₂ before)
    (htimely₁ : run.Timely name s₁ committed₁ before)
    (htimely₂ : run.Timely name s₂ committed₂ before) :
    run.HasBoth name stored₁ stored₂ before := by
  obtain ⟨schema, key₁, hschema, hkey₁⟩ := h₁.keyText?_stored
  obtain ⟨schema', key₂, hschema', hkey₂⟩ := h₂.keyText?_stored
  obtain rfl : schema = schema' := by
    rw [← Option.some.injEq, ← hschema, hschema']
  have htexts : schema.keyText? stored₁ ≠ schema.keyText? stored₂ := by
    rcases Nat.lt_trichotomy committed₁ committed₂ with hlt | heq | hgt
    · exact h₁.keyText?_ne_of_lt h₂ hne.symm hlt hbefore₂ hkeep₁ hkeep₂ htimely₁ hschema
    · -- One commit is not that of two sessions.
      have hcommit := h₁.commits
      rw [heq, h₂.commits, Step.commit.injEq] at hcommit
      exact absurd hcommit.symm hne
    · exact (h₂.keyText?_ne_of_lt h₁ hne hgt hbefore₁ hkeep₂ hkeep₁ htimely₂ hschema).symm
  refine ⟨?_, ?_, schema, key₁, key₂, hschema, hkey₁, hkey₂, ?_⟩
  · exact (h₁.held hkeep₁ htimely₁ hbefore₁ (Nat.le_refl _)).table
  · exact (h₂.held hkeep₂ htimely₂ hbefore₂ (Nat.le_refl _)).table
  · rw [hkey₁, hkey₂] at htexts
    exact fun e => htexts (congrArg some e)

/-- Where sessions do nothing but add, nothing is discarded. -/
theorem not_discarded_of_adds
    (h : ∀ t session name' op, run.schedule t = .act session name' op → ∃ record, op = .add record)
    (stored : Record) (since before : Nat) : ¬run.Discarded name stored since before := by
  rintro ⟨session, t, u, op, schema, key, -, -, -, hact, -, -, -, -, -, hdiscards⟩
  obtain ⟨record, rfl⟩ := h t session name op hact
  exact hdiscards

/-! ### Two sessions that publish a post each -/

/-- The second session takes its copy after the first one has committed. -/
def inTurn : Run where
  provider := { store := blog }
  schedule
    | 0 | 1 => .opening
    | 2 => .act 0 "Posts" (.add (post "first"))
    | 3 => .commit 0
    | 4 => .act 1 "Posts" (.add (post "second"))
    | _ => .commit 1

/-- Both sessions take their copies before either commits. -/
def atOnce : Run where
  provider := { store := blog }
  schedule
    | 0 | 1 => .opening
    | 2 => .act 0 "Posts" (.add (post "first"))
    | 3 => .act 1 "Posts" (.add (post "second"))
    | 4 => .commit 0
    | _ => .commit 1

theorem inTurn_not_discarded (stored : Record) (since before : Nat) :
    ¬inTurn.Discarded "Posts" stored since before :=
  not_discarded_of_adds (fun t session name' op hact => by
    match t, hact with
    | 2, hact => cases hact; exact ⟨_, rfl⟩
    | 4, hact => cases hact; exact ⟨_, rfl⟩) stored since before

theorem atOnce_not_discarded (stored : Record) (since before : Nat) :
    ¬atOnce.Discarded "Posts" stored since before :=
  not_discarded_of_adds (fun t session name' op hact => by
    match t, hact with
    | 2, hact => cases hact; exact ⟨_, rfl⟩
    | 3, hact => cases hact; exact ⟨_, rfl⟩
    | 4, hact => cases hact
    | t + 5, hact => cases hact) stored since before

/-- Taking turns, both sessions have their posts in the table. -/
theorem inTurn_hasBoth :
    inTurn.CommitsAdd "Posts" 0 2 3 (post "first") ∧
      inTurn.CommitsAdd "Posts" 1 4 5 (post "second") ∧
      inTurn.HasBoth "Posts" (post "first") (post "second") 6 := by
  have h₁ : inTurn.CommitsAdd "Posts" 0 2 3 (post "first") :=
    ⟨⟨_, rfl⟩, rfl, rfl, ⟨_, rfl⟩, by decide, fun t _ _ => by omega⟩
  have h₂ : inTurn.CommitsAdd "Posts" 1 4 5 (post "second") :=
    ⟨⟨_, rfl⟩, rfl, rfl, ⟨_, rfl⟩, by decide, fun t _ _ => by omega⟩
  have htimely₁ : inTurn.Timely "Posts" 0 3 6 := by
    rintro other t - hlt hle ⟨hcommit, -⟩
    obtain rfl | rfl : t = 4 ∨ t = 5 := by omega
    · cases hcommit
    · cases hcommit
      rfl
  have htimely₂ : inTurn.Timely "Posts" 1 5 6 := by
    rintro other t - hlt hle -
    omega
  exact ⟨h₁, h₂, hasBoth_of_timely (by decide) h₁ h₂ (by decide) (by decide)
    (inTurn_not_discarded _ _ _) (inTurn_not_discarded _ _ _) htimely₁ htimely₂⟩

/-- **An addition can be lost.** Without a word on when the copies are taken, two committed
additions need not both be in the table, though no step replaces or removes one of them. -/
theorem lost_addition :
    ¬∀ (run : Run) (name : String) (s₁ s₂ added₁ added₂ committed₁ committed₂ before : Nat)
      (stored₁ stored₂ : Record), s₁ ≠ s₂ →
      run.CommitsAdd name s₁ added₁ committed₁ stored₁ →
      run.CommitsAdd name s₂ added₂ committed₂ stored₂ →
      committed₁ < before → committed₂ < before →
      ¬run.Discarded name stored₁ added₁ before → ¬run.Discarded name stored₂ added₂ before →
      run.HasBoth name stored₁ stored₂ before := by
  intro h
  have h₁ : atOnce.CommitsAdd "Posts" 0 2 4 (post "first") := by
    refine ⟨⟨_, rfl⟩, rfl, rfl, ⟨_, rfl⟩, by decide, fun t hlt hle hcommit => ?_⟩
    obtain rfl : t = 3 := by omega
    cases hcommit
  have h₂ : atOnce.CommitsAdd "Posts" 1 3 5 (post "second") := by
    refine ⟨⟨_, rfl⟩, rfl, rfl, ⟨_, rfl⟩, by decide, fun t hlt hle hcommit => ?_⟩
    obtain rfl : t = 4 := by omega
    cases hcommit
  have htable : (atOnce.state 6).table "Posts" = [post "second"] := rfl
  obtain ⟨hfirst, -⟩ := h atOnce "Posts" 0 1 2 3 4 5 6 _ _ (by decide) h₁ h₂ (by decide)
    (by decide) (atOnce_not_discarded _ _ _) (atOnce_not_discarded _ _ _)
  rw [htable, List.mem_singleton] at hfirst
  simp [post] at hfirst

end SharedStore.Run

end Flowgraph

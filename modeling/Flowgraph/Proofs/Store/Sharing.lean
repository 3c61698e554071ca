import Flowgraph.Proofs.Keyed
import Flowgraph.Proofs.Store.Keys
import Flowgraph.Store.Shared
/-!
# What the steps on a shared store change

A shared store is seen through its committed tables and the copies that its sessions have taken.
This module says what each step does to that view, so that proofs about runs need not open the
steps.

* An operation on a collection that fails leaves it as it was, and one that succeeds changes one
  record at most (`Collection.Effect`, `effect_of_perform`).
* A session looks at its own copy of a collection or, without one, at the committed table
  (`SharedStore.view?`). Acting on a collection leaves the session with what it looked at as the
  operation left it (`copy?_act_self`), and changes no other copy and no table (`copy?_act_of_ne`,
  `provider_act`).
* Seeding and opening change no copy (`copy?_seed`, `copy?_opening`).
* Committing writes the session's changed copies over the committed tables and nothing else
  (`table_commit`, `copy?_commit_self`, `copy?_commit_of_ne`).

`Inv` is what all reachable shared stores have in common: a session has one copy of a collection at
most, and a copy has the schema that the store declares.
-/

namespace Flowgraph

/-! ## Operations on one collection -/

namespace Collection

/-- A collection as an operation leaves it, also when the operation fails. -/
def after (collection : Collection) (op : Operation) : Collection :=
  (collection.perform op).2

/-- Whether an operation changes the records when it succeeds. -/
def Operation.Mutates : Operation → Prop
  | .add _ | .update _ | .remove _ => True
  | .touch | .query _ | .count _ => False

/-- **What an operation can come to**: its answer, and the collection that it leaves. -/
inductive Effect (collection : Collection) :
    Operation → Except StoreError Answer → Collection → Prop
  /-- An operation that fails leaves the collection as it was. -/
  | failed {op : Operation} (error : StoreError) : Effect collection op (.error error) collection
  | looked {op : Operation} (answer : Answer) (hreads : ¬op.Mutates) :
    Effect collection op (.ok answer) collection
  /-- A record is appended if its key is new. -/
  | added {record stored : Record} {key : Value}
    (hkey : collection.schema.keyOf? stored = some key)
    (hplace : collection.position? key = none) :
    Effect collection (.add record) (.ok (.record stored))
      { collection with records := collection.records ++ [stored], dirty := true }
  /-- A record is put in the place of the first one with its key. -/
  | updated {record : Record} {key : Value} {i : Nat}
    (hkey : collection.schema.keyOf? record = some key)
    (hplace : collection.position? key = some i) :
    Effect collection (.update record) (.ok (.record record))
      { collection with records := collection.records.set i record, dirty := true }
  /-- The first record with a key is removed. -/
  | removed {key : Value} {i : Nat} (hplace : collection.position? key = some i) :
    Effect collection (.remove key) (.ok (.record ((collection.records[i]?).getD [])))
      { collection with records := collection.records.eraseIdx i, dirty := true }

section Effect

variable {collection left : Collection} {op : Operation}

theorem effect_of_perform {answer : Except StoreError Answer}
    (h : collection.perform op = (answer, left)) : collection.Effect op answer left := by
  cases op with
  | touch => cases h; exact .looked .done id
  | query q => cases h; exact .looked _ id
  | count filters => cases h; exact .looked _ id
  | add record =>
    rw [perform] at h
    obtain ⟨error, hadd⟩ | ⟨stored, key, hkeyed, hplace, hadd⟩ := collection.add_cases record
    · rw [hadd] at h
      cases h
      exact .failed error
    · rw [hadd] at h
      cases h
      exact .added (keyOf?_of_keyed hkeyed) hplace
  | update record =>
    rw [perform] at h
    obtain ⟨error, hupdate⟩ | ⟨key, i, hkey, hplace, hupdate⟩ := collection.update_cases record
    · rw [hupdate] at h
      cases h
      exact .failed error
    · rw [hupdate] at h
      cases h
      exact .updated hkey hplace
  | remove key =>
    rw [perform] at h
    obtain ⟨error, hremove⟩ | ⟨i, hplace, hremove⟩ := collection.remove_cases key
    · rw [hremove] at h
      cases h
      exact .failed error
    · rw [hremove] at h
      cases h
      exact .removed hplace

theorem after_of_perform {answer : Except StoreError Answer}
    (h : collection.perform op = (answer, left)) : collection.after op = left := by
  rw [Collection.after, h]

/-- **An operation that fails leaves the collection as it was.** -/
theorem after_of_error {error : StoreError} (h : (collection.perform op).1 = .error error) :
    collection.after op = collection := by
  cases hop : collection.perform op with
  | mk answer left =>
    obtain rfl : answer = .error error := by rw [← h, hop]
    cases effect_of_perform hop
    exact after_of_perform hop

/-- No operation changes the schema of a collection. -/
@[simp] theorem schema_after (collection : Collection) (op : Operation) :
    (collection.after op).schema = collection.schema := by
  cases hop : collection.perform op with
  | mk answer left =>
    rw [after_of_perform hop]
    cases effect_of_perform hop <;> rfl

/-- A changed collection stays marked as changed. -/
theorem dirty_after (hd : collection.dirty = true) (op : Operation) :
    (collection.after op).dirty = true := by
  cases hop : collection.perform op with
  | mk answer left =>
    rw [after_of_perform hop]
    cases effect_of_perform hop with
    | failed | looked => exact hd
    | added | updated | removed => rfl

end Effect

end Collection

/-! ## Sessions -/

namespace Session

theorem collection?_write (session : Session) (name other : String) (collection : Collection) :
    (session.write name collection).collection? other =
      if name = other then some collection else session.collection? other :=
  Keyed.get?_put ..

/-- What a session sees when it looks at a collection: its own copy, or else the committed
records of a collection that the store declares. -/
def view? (session : Session) (store : MemoryStore) (name : String) : Option Collection :=
  (session.collection? name).or
    ((Keyed.get? name store.schemas).map fun schema => { schema, records := store.snapshot name })

theorem write_write (session : Session) (name : String) (first second : Collection) :
    (session.write name first).write name second = session.write name second := by
  rw [write, write, write, Keyed.put_put]

/-- Touching a collection answers what the session sees, and the session keeps it. -/
theorem touch_eq (session : Session) (store : MemoryStore) (name : String) :
    session.touch store name =
      match session.view? store name with
      | some collection => (.ok collection, session.write name collection)
      | none => (.error (.unknownCollection name), session) := by
  unfold touch view?
  cases hc : session.collection? name with
  | some collection =>
    have hw : session.write name collection = session := by
      rw [write, Keyed.put_eq_self hc]
    simp [hw]
  | none => cases Keyed.get? name store.schemas <;> rfl

/-- Acting on a collection answers what the operation answers on what the session sees, and leaves
the session with a copy that the operation was carried out on. -/
theorem perform_eq (session : Session) (store : MemoryStore) (name : String)
    (op : Collection.Operation) :
    session.perform store name op =
      match session.view? store name with
      | some collection =>
        ((collection.perform op).1, session.write name (collection.after op))
      | none => (.error (.unknownCollection name), session) := by
  rw [perform, touch_eq]
  cases session.view? store name with
  | none => rfl
  | some collection => simp only [write_write, Collection.after]

/-- The committed records of a collection after writing back distinct copies. -/
theorem snapshot_writeBack {working : List (String × Collection)}
    (h : (Keyed.keys working).Nodup) (store : MemoryStore) (name : String) :
    (writeBack working store).snapshot name =
      match Keyed.get? name working with
      | some collection => if collection.dirty then collection.records else store.snapshot name
      | none => store.snapshot name := by
  induction working generalizing store with
  | nil => rfl
  | cons entry rest ih =>
    obtain ⟨first, collection⟩ := entry
    obtain ⟨hfirst, hrest⟩ := List.nodup_cons.1 h
    have hback : writeBack ((first, collection) :: rest) store =
        writeBack rest (if collection.dirty then store.write first collection.records
          else store) := rfl
    rw [hback, ih hrest, Keyed.get?_cons]
    by_cases hname : first = name
    · -- No later copy has this name, so what is written here stands.
      subst hname
      rw [Keyed.get?_eq_none_of_not_mem_keys hfirst, if_pos rfl]
      by_cases hd : collection.dirty = true
      · simp [hd, MemoryStore.snapshot_write]
      · simp [hd]
    · have hother : (if collection.dirty = true then store.write first collection.records
          else store).snapshot name = store.snapshot name := by
        split
        · rw [MemoryStore.snapshot_write, if_neg hname]
        · rfl
      rw [if_neg hname, hother]

/-- Writing back declares nothing. -/
theorem schemas_writeBack (working : List (String × Collection)) (store : MemoryStore) :
    (writeBack working store).schemas = store.schemas := by
  induction working generalizing store with
  | nil => rfl
  | cons entry rest ih =>
    have hback : writeBack (entry :: rest) store =
        writeBack rest (if entry.2.dirty then store.write entry.1 entry.2.records else store) := rfl
    rw [hback, ih]
    split <;> rfl

end Session

/-! ## Steps -/

namespace SharedStore

variable (shared : SharedStore) (place : Nat) (name : String)

/-- What a session sees when it looks at a collection. -/
def view? : Option Collection :=
  shared.sessions[place]?.bind fun session => session.view? shared.provider.store name

variable {shared place name}

theorem view?_of_copy? {collection : Collection} (h : shared.copy? place name = some collection) :
    shared.view? place name = some collection := by
  obtain ⟨session, hs, hc⟩ := Option.bind_eq_some_iff.1 h
  rw [view?, hs, Option.bind_some, Session.view?, hc, Option.some_or]

/-- A session without a copy sees the committed records. -/
theorem records_view? {collection : Collection} (hc : shared.copy? place name = none)
    (h : shared.view? place name = some collection) : collection.records = shared.table name := by
  obtain ⟨session, hs, hv⟩ := Option.bind_eq_some_iff.1 h
  rw [copy?, hs, Option.bind_some] at hc
  rw [Session.view?, hc, Option.none_or] at hv
  obtain ⟨schema, -, rfl⟩ := Option.map_eq_some_iff.1 hv
  rfl

/-! ### Acting on a collection -/

section Act

variable (shared place name) (op : Collection.Operation)

theorem step_act : shared.step (.act place name op) =
    match shared.sessions[place]? with
    | none => (none, shared)
    | some session =>
      (some (session.perform shared.provider.store name op).1,
        { shared with
          sessions :=
            shared.sessions.set place (session.perform shared.provider.store name op).2 }) :=
  rfl

/-- Acting on a collection changes no committed table. -/
@[simp] theorem provider_act : (shared.step (.act place name op)).2.provider = shared.provider := by
  rw [step_act]
  cases shared.sessions[place]? <;> rfl

/-- Acting on a collection leaves the session with what it saw, as the operation left it. -/
theorem copy?_act_self :
    (shared.step (.act place name op)).2.copy? place name =
      (shared.view? place name).map fun collection => collection.after op := by
  rw [step_act, view?]
  cases hs : shared.sessions[place]? with
  | none => simp [copy?, hs]
  | some session =>
    obtain ⟨hlt, -⟩ := List.getElem?_eq_some_iff.1 hs
    simp only [copy?, List.getElem?_set_self hlt, Option.bind_some, Session.perform_eq]
    cases hv : session.view? shared.provider.store name with
    | some collection => simp [Session.collection?_write]
    | none => exact (Option.or_eq_none_iff.1 hv).1

/-- Acting on a collection changes no other copy. -/
theorem copy?_act_of_ne {other : Nat} {name' : String} (h : other ≠ place ∨ name' ≠ name) :
    (shared.step (.act place name op)).2.copy? other name' = shared.copy? other name' := by
  rw [step_act]
  cases hs : shared.sessions[place]? with
  | none => rfl
  | some session =>
    by_cases hp : place = other
    · subst hp
      have hname : name ≠ name' := fun e => h.elim (fun hne => hne rfl) (fun hne => hne e.symm)
      obtain ⟨hlt, -⟩ := List.getElem?_eq_some_iff.1 hs
      simp only [copy?, List.getElem?_set_self hlt, Option.bind_some, Session.perform_eq, hs]
      cases session.view? shared.provider.store name with
      | some collection => simp [Session.collection?_write, hname]
      | none => rfl
    · simp [copy?, List.getElem?_set_ne hp]

end Act

/-- The answer to acting on a collection is that of the operation on what the session sees. -/
theorem answer_act {collection : Collection} (h : shared.view? place name = some collection)
    (op : Collection.Operation) :
    (shared.step (.act place name op)).1 = some (collection.perform op).1 := by
  obtain ⟨session, hs, hv⟩ := Option.bind_eq_some_iff.1 h
  simp [step_act, hs, Session.perform_eq, hv]

/-- Acting on a collection succeeds only as the operation on what the session sees. -/
theorem perform_of_answer_act {op : Collection.Operation} {answer : Collection.Answer}
    (h : (shared.step (.act place name op)).1 = some (.ok answer)) :
    ∃ collection left, shared.view? place name = some collection ∧
      collection.perform op = (.ok answer, left) := by
  cases hv : shared.view? place name with
  | none =>
    cases hs : shared.sessions[place]? with
    | none => simp [step_act, hs] at h
    | some session =>
      rw [view?, hs, Option.bind_some] at hv
      simp [step_act, hs, Session.perform_eq, hv] at h
  | some collection =>
    rw [answer_act hv, Option.some.injEq] at h
    exact ⟨collection, _, rfl, Prod.ext h rfl⟩

/-! ### Opening, seeding and committing -/

@[simp] theorem provider_opening : (shared.step .opening).2.provider = shared.provider := by
  simp only [step]
  split <;> rfl

/-- Opening a session takes no copy. -/
@[simp] theorem copy?_opening :
    (shared.step .opening).2.copy? place name = shared.copy? place name := by
  simp only [step, Provider.openSession]
  split
  · rfl
  · next session h =>
    split at h
    · cases h
    · cases h
      simp only [copy?, List.getElem?_append]
      split
      · rfl
      · next hlt =>
        rw [List.getElem?_eq_none (Nat.le_of_not_lt hlt)]
        cases place - shared.sessions.length <;> rfl

/-- Seeding changes no copy. -/
@[simp] theorem copy?_seed (collection : String) (records : List Record) :
    (shared.step (.seed collection records)).2.copy? place name = shared.copy? place name := by
  simp only [step, seed]
  split <;> rfl

/-- Seeding only ever appends to a committed table. -/
theorem table_seed (collection : String) (records : List Record) :
    ∃ more, (shared.step (.seed collection records)).2.table name = shared.table name ++ more := by
  simp only [step, seed]
  split
  · exact ⟨[], (List.append_nil _).symm⟩
  · next store h =>
    have hsnap := MemoryStore.snapshot_seed h name
    by_cases hc : collection = name
    · subst hc
      rw [if_pos rfl] at hsnap
      exact ⟨records, hsnap⟩
    · rw [if_neg hc] at hsnap
      exact ⟨[], by rw [List.append_nil]; exact hsnap⟩

/-- A commit either fails and changes nothing, or writes the session's changed copies back. -/
theorem commit_cases (shared : SharedStore) (place : Nat) :
    (shared.step (.commit place)).2 = shared ∧
        (∀ answer, (shared.step (.commit place)).1 ≠ some (.ok answer)) ∨
      ∃ session, shared.sessions[place]? = some session ∧
        shared.step (.commit place) =
          (some (.ok .done),
            ⟨{ shared.provider with
                store := Session.writeBack session.working shared.provider.store },
              shared.sessions.set place
                ⟨Keyed.mapValues (fun c => { c with dirty := false }) session.working⟩⟩) := by
  cases hs : shared.sessions[place]? with
  | none => exact .inl ⟨by simp [step, hs], by simp [step, hs]⟩
  | some session =>
    by_cases hf : shared.provider.fault = some .atCommit
    · have hset : shared.sessions.set place session = shared.sessions := by
        obtain ⟨hlt, rfl⟩ := List.getElem?_eq_some_iff.1 hs
        exact List.set_getElem_self hlt
      refine .inl ⟨?_, ?_⟩ <;> simp [step, hs, commit, Provider.commit, hf, hset, Except.map]
    · refine .inr ⟨session, rfl, ?_⟩
      simp [step, hs, commit, Provider.commit, hf, Session.commit, Keyed.mapValues, Except.map]

/-- A successful commit leaves the session's copies, now unchanged ones. -/
theorem copy?_commit_self {answer : Collection.Answer}
    (h : (shared.step (.commit place)).1 = some (.ok answer)) :
    (shared.step (.commit place)).2.copy? place name =
      (shared.copy? place name).map fun collection => { collection with dirty := false } := by
  obtain ⟨-, hne⟩ | ⟨session, hs, hstep⟩ := commit_cases shared place
  · exact absurd h (hne answer)
  · obtain ⟨hlt, -⟩ := List.getElem?_eq_some_iff.1 hs
    simp only [hstep, copy?, List.getElem?_set_self hlt, Option.bind_some, hs]
    exact Keyed.get?_mapValues (fun c : Collection => { c with dirty := false }) name
      session.working

/-- Committing changes no copy of another session. -/
theorem copy?_commit_of_ne {other : Nat} (h : other ≠ place) :
    (shared.step (.commit place)).2.copy? other name = shared.copy? other name := by
  obtain ⟨hsame, -⟩ | ⟨session, -, hstep⟩ := commit_cases shared place
  · rw [hsame]
  · rw [hstep]
    simp [copy?, List.getElem?_set_ne (Ne.symm h)]

/-! ### What all reachable shared stores have in common -/

/-- A session has one copy of a collection at most, and it has the schema of the collection. -/
structure Inv (shared : SharedStore) : Prop where
  distinct : ∀ session ∈ shared.sessions, (Keyed.keys session.working).Nodup
  schema : ∀ session ∈ shared.sessions, ∀ name collection,
    session.collection? name = some collection →
      Keyed.get? name shared.provider.store.schemas = some collection.schema

/-- A successful commit writes the session's changed copy over the committed table. -/
theorem table_commit (hinv : shared.Inv) {answer : Collection.Answer}
    (h : (shared.step (.commit place)).1 = some (.ok answer)) :
    (shared.step (.commit place)).2.table name =
      match shared.copy? place name with
      | some collection => if collection.dirty then collection.records else shared.table name
      | none => shared.table name := by
  obtain ⟨-, hne⟩ | ⟨session, hs, hstep⟩ := commit_cases shared place
  · exact absurd h (hne answer)
  · simp only [hstep, table, copy?, hs, Option.bind_some]
    exact Session.snapshot_writeBack (hinv.distinct session (List.mem_of_getElem? hs)) ..

theorem table_commit_of_dirty (hinv : shared.Inv) {answer : Collection.Answer}
    (h : (shared.step (.commit place)).1 = some (.ok answer)) {collection : Collection}
    (hcopy : shared.copy? place name = some collection) (hdirty : collection.dirty = true) :
    (shared.step (.commit place)).2.table name = collection.records := by
  rw [table_commit hinv h]
  simp only [hcopy, if_pos hdirty]

theorem table_commit_of_clean (hinv : shared.Inv) {answer : Collection.Answer}
    (h : (shared.step (.commit place)).1 = some (.ok answer))
    (hclean : ∀ collection, shared.copy? place name = some collection → ¬collection.dirty = true) :
    (shared.step (.commit place)).2.table name = shared.table name := by
  rw [table_commit hinv h]
  cases hcopy : shared.copy? place name with
  | none => rfl
  | some collection => exact if_neg (hclean collection hcopy)

/-- No step declares a collection. -/
theorem schemas_step (shared : SharedStore) (s : Step) :
    (shared.step s).2.provider.store.schemas = shared.provider.store.schemas := by
  cases s with
  | opening => rw [provider_opening]
  | seed collection records =>
    simp only [step, seed, MemoryStore.seed]
    split
    · rfl
    · next h =>
      split at h <;> cases h
      rfl
  | act place name op => rw [provider_act]
  | commit place =>
    obtain ⟨hsame, -⟩ | ⟨session, -, hstep⟩ := commit_cases shared place
    · rw [hsame]
    · rw [hstep]
      exact Session.schemas_writeBack ..

/-- What a session sees has the schema that the store declares. -/
theorem Inv.schema_view? (hinv : shared.Inv) {collection : Collection}
    (h : shared.view? place name = some collection) :
    Keyed.get? name shared.provider.store.schemas = some collection.schema := by
  obtain ⟨session, hs, hv⟩ := Option.bind_eq_some_iff.1 h
  obtain hc | ⟨-, hv⟩ := Option.or_eq_some_iff.1 hv
  · exact hinv.schema session (List.mem_of_getElem? hs) name collection hc
  · obtain ⟨schema, hschema, rfl⟩ := Option.map_eq_some_iff.1 hv
    exact hschema

/-- The conditions of `Inv` on one session. -/
theorem Inv.of_sessions {after : SharedStore}
    (hschemas : after.provider.store.schemas = shared.provider.store.schemas)
    (h : ∀ session ∈ after.sessions, session ∈ shared.sessions ∨
      (Keyed.keys session.working).Nodup ∧ ∀ name collection,
        session.collection? name = some collection →
          Keyed.get? name shared.provider.store.schemas = some collection.schema)
    (hinv : shared.Inv) : after.Inv where
  distinct session hs := (h session hs).elim (hinv.distinct session) And.left
  schema session hs := by
    rw [hschemas]
    exact (h session hs).elim (hinv.schema session) And.right

theorem Inv.step (hinv : shared.Inv) (s : Step) : (shared.step s).2.Inv := by
  refine Inv.of_sessions (schemas_step shared s) (fun session hs => ?_) hinv
  cases s with
  | opening =>
    simp only [SharedStore.step, Provider.openSession] at hs
    split at hs
    · exact .inl hs
    · next opened ho =>
      split at ho
      · cases ho
      · cases ho
        obtain hs | hs := List.mem_append.1 hs
        · exact .inl hs
        · rw [List.mem_singleton.1 hs]
          exact .inr ⟨List.nodup_nil, fun name collection h => by cases h⟩
  | seed collection records =>
    simp only [SharedStore.step, SharedStore.seed] at hs
    split at hs <;> exact .inl hs
  | act place name op =>
    rw [step_act] at hs
    cases hold : shared.sessions[place]? with
    | none => rw [hold] at hs; exact .inl hs
    | some old =>
      rw [hold] at hs
      obtain hs | rfl := List.mem_or_eq_of_mem_set hs
      · exact .inl hs
      · have hmem : old ∈ shared.sessions := List.mem_of_getElem? hold
        rw [Session.perform_eq]
        cases hv : old.view? shared.provider.store name with
        | none => exact .inl hmem
        | some collection =>
          refine .inr ⟨Keyed.nodup_keys_put (hinv.distinct old hmem) .., fun other copy hc => ?_⟩
          rw [Session.collection?_write] at hc
          split at hc
          · next hname =>
            have hview : shared.view? place name = some collection := by
              rw [view?, hold, Option.bind_some, hv]
            rw [← hname, ← Option.some.inj hc, Collection.schema_after]
            exact hinv.schema_view? hview
          · exact hinv.schema old hmem other copy hc
  | commit place =>
    obtain ⟨hsame, -⟩ | ⟨old, hold, hstep⟩ := commit_cases shared place
    · rw [hsame] at hs
      exact .inl hs
    · rw [hstep] at hs
      obtain hs | rfl := List.mem_or_eq_of_mem_set hs
      · exact .inl hs
      · have hmem : old ∈ shared.sessions := List.mem_of_getElem? hold
        refine .inr ⟨?_, fun name collection hc => ?_⟩
        · rw [Keyed.keys_mapValues]
          exact hinv.distinct old hmem
        · rw [Session.collection?, Keyed.get?_mapValues] at hc
          obtain ⟨copy, hcopy, rfl⟩ := Option.map_eq_some_iff.1 hc
          exact hinv.schema old hmem name copy hcopy

namespace Run

/-- Every shared store of a run is in order, whatever steps are taken. -/
theorem inv_state (run : Run) (t : Nat) : (run.state t).Inv := by
  induction t with
  | zero =>
    exact ⟨fun session h => absurd h List.not_mem_nil, fun session h => absurd h List.not_mem_nil⟩
  | succ t ih => exact ih.step (run.schedule t)

/-- The declared collections are the same throughout a run. -/
theorem schemas_state (run : Run) (t : Nat) :
    (run.state t).provider.store.schemas = run.provider.store.schemas := by
  induction t with
  | zero => rfl
  | succ t ih => rw [state, schemas_step, ih]

/-- Whether the step that is taken at a time succeeds. -/
def Succeeds (run : Run) (t : Nat) : Prop :=
  ∃ answer, run.answer t = some (.ok answer)

variable {run : Run} {name : String}

theorem state_succ_of_schedule {t : Nat} {s : Step} (h : run.schedule t = s) :
    run.state (t + 1) = ((run.state t).step s).2 := by
  rw [state, h]

theorem answer_of_schedule {t : Nat} {s : Step} (h : run.schedule t = s) :
    run.answer t = ((run.state t).step s).1 := by
  rw [answer, h]

/-- What a session sees has the declared schema. -/
theorem schema_view? {t session : Nat} {collection : Collection}
    (h : (run.state t).view? session name = some collection) :
    Keyed.get? name run.provider.store.schemas = some collection.schema := by
  rw [← run.schemas_state t]
  exact (run.inv_state t).schema_view? h

/-! ### A store of posts -/

/-- A store of posts that are told apart by their slugs. -/
def blog : MemoryStore where
  name := "Blog"
  schemas := [("Posts", ⟨"Post", "slug", [.plain "slug" .text]⟩)]

/-- A post. -/
def post (slug : String) : Record := [("slug", .text slug)]

end Run

end SharedStore

end Flowgraph

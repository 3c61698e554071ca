import Flowgraph.Action.Data
import Flowgraph.Proofs.Steps
import Flowgraph.Proofs.Store.Sharing
/-!
# What tasks on records change

The stores are seen through their committed tables (`table`). A task on records that changes
anything at all writes one table, that of its entity's collection (`rewrite`), and everything else
stays as it is (`rewritten_rewrite`).

For each task that can change records there is one lemma that says what it can come to:
`create_cases`, `update_cases` and `delete_cases`. What a failed task leaves behind, and which
tables a task leaves alone, follows from them. Tasks that only read leave the stores alone, also
when they fail (`after_read`, `after_readFirst`, `after_count`). The other way round, a task that
finds its record on a store without a fault has the outcome that its operation has
(`readFirst_of_find`, `delete_of_find`, `update_of_find`).
-/

namespace Flowgraph.Data

/-! ## Tables of several stores -/

/-- The committed records of a collection of the store at a place. -/
def table (stores : List Provider) (place : Nat) (name : String) : List Record :=
  (stores[place]?.map fun provider => provider.store.snapshot name).getD []

/-- The collection of an entity as it is committed. -/
def view (spec : EntitySpec) (stores : List Provider) : Collection :=
  { schema := spec.schema, records := table stores spec.provider.place spec.collection }

/-- Whether an entity has the schema that its store declares for its collection. -/
def Describes (spec : EntitySpec) (stores : List Provider) : Prop :=
  ∀ provider schema, stores[spec.provider.place]? = some provider →
    Keyed.get? spec.collection provider.store.schemas = some schema → spec.schema = schema

/-- The stores with other committed records in the collection of an entity. -/
def rewrite (spec : EntitySpec) (records : List Record) (stores : List Provider) :
    List Provider :=
  stores.modify spec.provider.place fun provider =>
    { provider with store := provider.store.write spec.collection records }

/-- Whether stores differ from earlier ones at most in the table of an entity's collection, which
holds some records now. -/
structure Rewritten (spec : EntitySpec) (stores : List Provider) (records : List Record)
    (after : List Provider) : Prop where
  own : table after spec.provider.place spec.collection = records
  others : ∀ place name, place ≠ spec.provider.place ∨ name ≠ spec.collection →
    table after place name = table stores place name

theorem rewritten_rewrite {spec : EntitySpec} {stores : List Provider}
    (h : spec.provider.place < stores.length) (records : List Record) :
    Rewritten spec stores records (rewrite spec records stores) where
  own := by
    simp [table, rewrite, List.getElem?_eq_getElem h, MemoryStore.snapshot_write]
  others place name hne := by
    unfold table rewrite
    rw [List.getElem?_modify]
    cases stores[place]? with
    | none => rfl
    | some provider =>
      by_cases hplace : spec.provider.place = place
      · have hname : spec.collection ≠ name := by
          rcases hne with hne | hne
          · exact absurd hplace.symm hne
          · exact hne.symm
        simp [hplace, MemoryStore.snapshot_write, hname]
      · simp [hplace]

/-- Writing records changes nothing else of a store. -/
theorem map_getElem?_rewrite {α : Type} {spec : EntitySpec} {records : List Record}
    {f : Provider → α}
    (hf : ∀ provider : Provider,
      f { provider with store := provider.store.write spec.collection records } = f provider)
    (stores : List Provider) (place : Nat) :
    (rewrite spec records stores)[place]?.map f = stores[place]?.map f := by
  rw [rewrite, List.getElem?_modify]
  cases stores[place]? with
  | none => rfl
  | some provider =>
    rw [Option.map_eq_map, Option.map_some, Option.map_some, Option.map_some]
    split
    · rw [hf]
    · rfl

/-- Writing records changes neither the faults of stores nor what they declare. -/
theorem declared_rewrite (spec : EntitySpec) (records : List Record) (stores : List Provider)
    (place : Nat) :
    (rewrite spec records stores)[place]?.map (fun provider =>
        (provider.fault, provider.store.schemas)) =
      stores[place]?.map fun provider => (provider.fault, provider.store.schemas) :=
  map_getElem?_rewrite (fun _ => rfl) stores place

theorem describes_rewrite {spec written : EntitySpec} {stores : List Provider}
    (h : Describes spec stores) (records : List Record) :
    Describes spec (rewrite written records stores) := by
  intro after schema hafter hschema
  have hdeclared := declared_rewrite written records stores spec.provider.place
  rw [hafter, Option.map_some, eq_comm, Option.map_eq_some_iff] at hdeclared
  obtain ⟨provider, hprovider, heq⟩ := hdeclared
  rw [Prod.mk.injEq] at heq
  exact h provider schema hprovider (by rw [heq.2]; exact hschema)

/-- Writing the records that are there already changes nothing. -/
theorem rewrite_table {spec : EntitySpec} {stores : List Provider}
    (h : table stores spec.provider.place spec.collection ≠ []) :
    rewrite spec (table stores spec.provider.place spec.collection) stores = stores := by
  refine List.ext_getElem? fun place => ?_
  rw [rewrite, List.getElem?_modify]
  cases hprovider : stores[place]? with
  | none => rfl
  | some provider =>
    rw [Option.map_eq_map, Option.map_some]
    split
    · next hplace =>
      have htable : table stores spec.provider.place spec.collection =
          provider.store.snapshot spec.collection := by
        rw [table, hplace, hprovider]
        rfl
      rw [htable] at h ⊢
      cases hget : Keyed.get? spec.collection provider.store.tables with
      | none =>
        rw [MemoryStore.snapshot, hget] at h
        exact absurd rfl h
      | some records =>
        have hput : Keyed.put spec.collection records provider.store.tables =
            provider.store.tables := Keyed.put_eq_self hget
        rw [MemoryStore.snapshot, hget, Option.getD_some, MemoryStore.write, hput]
    · rfl

/-! ## Opening and committing -/

section Work

variable {spec : EntitySpec} {stores : List Provider} {work : Work}

/-- A session that was opened has one copy, that of the entity's collection as it is committed. -/
theorem openCollection_eq_ok (h : openCollection spec stores = .ok work) :
    stores[spec.provider.place]? = some work.provider ∧
      Keyed.get? spec.collection work.provider.store.schemas = some work.collection.schema ∧
      work.collection =
        { schema := work.collection.schema,
          records := table stores spec.provider.place spec.collection } ∧
      work.session = ⟨[(spec.collection, work.collection)]⟩ := by
  unfold openCollection at h
  split at h
  · cases h
  · next provider hprovider =>
    obtain ⟨session, hsession, h⟩ := bind_eq_ok.1 h
    unfold Provider.openSession at hsession
    split at hsession
    · cases hsession
    · cases hsession
      simp only [Session.touch, Session.collection?, Keyed.get?_nil] at h
      cases hschema : Keyed.get? spec.collection provider.store.schemas with
      | none =>
        rw [hschema] at h
        cases h
      | some schema =>
        rw [hschema] at h
        cases h
        refine ⟨hprovider, hschema, ?_, rfl⟩
        rw [table, hprovider]
        rfl

/-- A session is opened only on a store that there is. -/
theorem place_lt (h : openCollection spec stores = .ok work) :
    spec.provider.place < stores.length := by
  obtain ⟨hprovider, -⟩ := openCollection_eq_ok h
  exact (List.getElem?_eq_some_iff.1 hprovider).1

/-- A session that was opened has the view of its entity, if the entity is described rightly. -/
theorem collection_eq_view (h : openCollection spec stores = .ok work)
    (hdescribes : Describes spec stores) : work.collection = view spec stores := by
  obtain ⟨hprovider, hschema, hcollection, -⟩ := openCollection_eq_ok h
  have hsame := hdescribes work.provider work.collection.schema hprovider hschema
  rw [hcollection, view, hsame]

/-- A store without a fault opens a session on every collection that it declares. -/
theorem openCollection_of_declared {provider : Provider}
    (hprovider : stores[spec.provider.place]? = some provider) (hfault : provider.fault = none)
    (hschema : Keyed.get? spec.collection provider.store.schemas = some spec.schema) :
    ∃ work, openCollection spec stores = .ok work ∧ work.provider = provider ∧
      work.collection = view spec stores := by
  have htable : table stores spec.provider.place spec.collection =
      provider.store.snapshot spec.collection := by
    rw [table, hprovider]
    rfl
  rw [view, htable]
  let collection : Collection :=
    { schema := spec.schema, records := provider.store.snapshot spec.collection }
  refine ⟨⟨provider, ⟨[(spec.collection, collection)]⟩, collection⟩, ?_, rfl, rfl⟩
  simp only [openCollection, hprovider, Provider.openSession, hfault, bind, Except.bind,
    Session.touch, Session.collection?, hschema]
  rfl

/-- Committing the changed copy of a session writes its records. A store that refuses to commit is
left as it was. -/
theorem run_commit (hopen : openCollection spec stores = .ok work) {collection : Collection}
    (hdirty : collection.dirty = true) :
    (commit spec work collection).run stores =
      if work.provider.fault = some .atCommit then
        .error (StoreError.backend "cannot commit").message stores
      else .ok () (rewrite spec collection.records stores) := by
  obtain ⟨hprovider, -, -, hsession⟩ := openCollection_eq_ok hopen
  have hwritten : work.session.write spec.collection collection =
      ⟨[(spec.collection, collection)]⟩ := by
    rw [hsession]
    simp [Session.write, Keyed.put]
  have hback : Session.writeBack [(spec.collection, collection)] work.provider.store =
      work.provider.store.write spec.collection collection.records := by
    simp [Session.writeBack, hdirty]
  have hkept : stores.set spec.provider.place work.provider = stores := by
    obtain ⟨hlt, hget⟩ := List.getElem?_eq_some_iff.1 hprovider
    rw [← hget]
    exact List.set_getElem_self hlt
  have hset : stores.set spec.provider.place
      { work.provider with store := work.provider.store.write spec.collection collection.records } =
        rewrite spec collection.records stores := by
    have : Inhabited Provider := ⟨work.provider⟩
    unfold rewrite
    rw [List.modify_eq_set, hprovider]
    rfl
  unfold commit Provider.commit
  rw [hwritten]
  by_cases hfault : work.provider.fault = some .atCommit
  · rw [if_pos hfault, if_pos hfault]
    exact congrArg (EStateM.Result.error _) hkept
  · rw [if_neg hfault, if_neg hfault]
    simp only [Session.commit, hback]
    exact congrArg (EStateM.Result.ok ()) hset

variable {made : Except StoreError Record × Collection} {record : Record} {collection : Collection}

/-- The end of a task whose operation has changed the collection. -/
theorem run_finish (hopen : openCollection spec stores = .ok work)
    (hmade : made = (.ok record, collection)) (hdirty : collection.dirty = true) :
    (finish spec work made).run stores =
      if work.provider.fault = some .atCommit then
        .error (StoreError.backend "cannot commit").message stores
      else .ok (.returning (.map record)) (rewrite spec collection.records stores) := by
  rw [finish, run_lift_bind]
  simp only [hmade, EStateM.run_bind, run_commit hopen hdirty]
  by_cases hfault : work.provider.fault = some .atCommit
  · rw [if_pos hfault, if_pos hfault]
  · rw [if_neg hfault, if_neg hfault]
    rfl

/-- What such a task can come to. -/
theorem finish_cases (hopen : openCollection spec stores = .ok work)
    (hmade : made = (.ok record, collection)) (hdirty : collection.dirty = true) :
    (∃ message, (finish spec work made).run stores = .error message stores) ∨
      (finish spec work made).run stores =
        .ok (.returning (.map record)) (rewrite spec collection.records stores) := by
  rw [run_finish hopen hmade hdirty]
  split
  · exact .inl ⟨_, rfl⟩
  · exact .inr rfl

end Work

/-! ## The tasks -/

section Tasks

variable (stores : List Provider)

/-- **What adding a record can come to.** -/
theorem create_cases (entity : Option EntityBinding) :
    (∃ message, (create entity).run stores = .error message stores) ∨
      entity = none ∧ (create entity).run stores = .ok noEntity stores ∨
      ∃ binding work stored collection, entity = some binding ∧
        openCollection binding.spec stores = .ok work ∧
        work.collection.add binding.entry = (.ok stored, collection) ∧
        (create entity).run stores =
          .ok (.returning (.map stored)) (rewrite binding.spec collection.records stores) := by
  cases entity with
  | none => exact .inr (.inl ⟨rfl, rfl⟩)
  | some binding =>
    rw [create, run_openCollection_bind]
    cases hopen : openCollection binding.spec stores with
    | error error => exact .inl ⟨_, rfl⟩
    | ok work =>
      obtain ⟨error, hadd⟩ | ⟨stored, key, -, -, hadd⟩ := work.collection.add_cases binding.entry
      · simp only [hadd]
        exact .inl ⟨_, rfl⟩
      · obtain hfailed | hdone := finish_cases hopen hadd rfl
        · exact .inl hfailed
        · exact .inr (.inr ⟨binding, work, stored, _, rfl, hopen, hadd, hdone⟩)

/-- **What writing over a record can come to.** -/
theorem update_cases (entity : Option EntityBinding) (lookup : RecordLookup) :
    (∃ message, (update entity lookup).run stores = .error message stores) ∨
      (∃ result, (update entity lookup).run stores = .ok result stores ∧
        result.success = false) ∨
      ∃ binding work record, entity = some binding ∧
        openCollection binding.spec stores = .ok work ∧
        find lookup work.collection = .ok (some record) ∧
        (binding.properties = [] ∧
            (update entity lookup).run stores = .ok (.returning (.map record)) stores ∨
          binding.properties ≠ [] ∧ ∃ stored collection,
            work.collection.update (overwrite binding.spec.schema record binding.entry) =
              (.ok stored, collection) ∧
            (update entity lookup).run stores =
              .ok (.returning (.map stored)) (rewrite binding.spec collection.records stores)) := by
  cases entity with
  | none => exact .inr (.inl ⟨noEntity, rfl, rfl⟩)
  | some binding =>
    rw [update, run_openCollection_bind]
    cases hopen : openCollection binding.spec stores with
    | error error => exact .inl ⟨_, rfl⟩
    | ok work =>
      simp only [run_ofExcept_bind]
      cases hfind : find lookup work.collection with
      | error message => exact .inl ⟨_, rfl⟩
      | ok found =>
        cases found with
        | none => exact .inr (.inl ⟨noRecord binding.spec, rfl, rfl⟩)
        | some record =>
          by_cases hempty : binding.properties = []
          · simp only [hempty, List.isEmpty_nil, if_true]
            exact .inr (.inr ⟨binding, work, record, rfl, hopen, hfind, .inl ⟨hempty, rfl⟩⟩)
          · simp only [List.isEmpty_eq_false_iff.2 hempty, Bool.false_eq_true, if_false]
            obtain ⟨error, hupdate⟩ | ⟨key, i, -, -, hupdate⟩ :=
              work.collection.update_cases (overwrite binding.spec.schema record binding.entry)
            · simp only [hupdate]
              exact .inl ⟨_, rfl⟩
            · obtain hfailed | hdone := finish_cases hopen hupdate rfl
              · exact .inl hfailed
              · exact .inr (.inr ⟨binding, work, record, rfl, hopen, hfind,
                  .inr ⟨hempty, _, _, hupdate, hdone⟩⟩)

/-- **What removing a record can come to.** -/
theorem delete_cases (entity : Option EntitySpec) (lookup : RecordLookup) :
    (∃ message, (delete entity lookup).run stores = .error message stores) ∨
      (∃ result, (delete entity lookup).run stores = .ok result stores ∧
        result.success = false) ∨
      ∃ spec work record key removed collection, entity = some spec ∧
        openCollection spec stores = .ok work ∧
        find lookup work.collection = .ok (some record) ∧
        spec.schema.keyOf? record = some key ∧
        work.collection.remove key = (.ok removed, collection) ∧
        (delete entity lookup).run stores =
          .ok (.returning (.map removed)) (rewrite spec collection.records stores) := by
  cases entity with
  | none => exact .inr (.inl ⟨noEntity, rfl, rfl⟩)
  | some spec =>
    rw [delete, run_openCollection_bind]
    cases hopen : openCollection spec stores with
    | error error => exact .inl ⟨_, rfl⟩
    | ok work =>
      simp only [run_ofExcept_bind]
      cases hfind : find lookup work.collection with
      | error message => exact .inl ⟨_, rfl⟩
      | ok found =>
        cases found with
        | none => exact .inr (.inl ⟨noRecord spec, rfl, rfl⟩)
        | some record =>
          cases hkey : spec.schema.keyOf? record with
          | none =>
            simp only [hkey]
            exact .inr (.inl ⟨_, rfl, rfl⟩)
          | some key =>
            simp only [hkey]
            obtain ⟨error, hremove⟩ | ⟨i, -, hremove⟩ := work.collection.remove_cases key
            · simp only [hremove]
              exact .inl ⟨_, rfl⟩
            · obtain hfailed | hdone := finish_cases hopen hremove rfl
              · exact .inl hfailed
              · exact .inr (.inr ⟨spec, work, record, key, _, _, rfl, hopen, hfind, hkey, hremove,
                  hdone⟩)

/-- Reading changes no store, also when it fails. -/
theorem after_read (entity : Option EntitySpec) (rules : Option RuleSet) :
    after stores (read entity rules) = stores := by
  cases entity with
  | none => rfl
  | some spec =>
    rw [after, read, run_openCollection_bind]
    cases openCollection spec stores <;> rfl

/-- Reading one record changes no store, also when it fails. -/
theorem after_readFirst (entity : Option EntitySpec) (lookup : RecordLookup) :
    after stores (readFirst entity lookup) = stores := by
  cases entity with
  | none => rfl
  | some spec =>
    rw [after, readFirst, run_openCollection_bind]
    cases openCollection spec stores with
    | error error => rfl
    | ok work =>
      simp only [run_ofExcept_bind]
      cases find lookup work.collection with
      | error message => rfl
      | ok found => cases found <;> rfl

/-- Counting changes no store, also when it fails. -/
theorem after_count (entity : Option EntitySpec) (filters : List FilterRule) :
    after stores (count entity filters) = stores := by
  cases entity with
  | none => rfl
  | some spec =>
    rw [after, count, run_openCollection_bind]
    cases openCollection spec stores <;> rfl

end Tasks

/-! ## Tasks that find their record -/

/-- A record as an update leaves it: the fields of the entity are written over it, if there are
any. -/
def updated (binding : EntityBinding) (record : Record) : Record :=
  if binding.properties.isEmpty then record
  else overwrite binding.spec.schema record binding.entry

/-- An update keeps the key. -/
theorem keyOf?_updated {binding : EntityBinding} {record : Record} {key : Value}
    (h : binding.spec.schema.keyOf? record = some key) :
    binding.spec.schema.keyOf? (updated binding record) = some key := by
  rw [updated]
  split
  · exact h
  · exact keyOf?_overwrite h binding.entry

section Finding

variable {spec : EntitySpec} {stores : List Provider} {work : Work} {lookup : RecordLookup}
  {record : Record}

theorem readFirst_of_find (hopen : openCollection spec stores = .ok work)
    (hfind : find lookup work.collection = .ok (some record)) :
    (readFirst (some spec) lookup).run stores = .ok (.returning (.map record)) stores := by
  rw [readFirst, run_openCollection_bind]
  simp only [hopen, run_ofExcept_bind, hfind]
  rfl

theorem delete_of_find (hopen : openCollection spec stores = .ok work)
    (hfind : find lookup work.collection = .ok (some record))
    (hcommits : work.provider.fault ≠ some .atCommit) {key : Value}
    (hkey : spec.schema.keyOf? record = some key) {removed : Record} {collection : Collection}
    (hremove : work.collection.remove key = (.ok removed, collection)) :
    (delete (some spec) lookup).run stores =
      .ok (.returning (.map removed)) (rewrite spec collection.records stores) := by
  obtain ⟨i, -, -, rfl⟩ := Collection.records_remove hremove
  rw [delete, run_openCollection_bind]
  simp only [hopen, run_ofExcept_bind, hfind, hkey]
  rw [run_finish hopen hremove rfl, if_neg hcommits]

theorem update_of_empty {binding : EntityBinding}
    (hopen : openCollection binding.spec stores = .ok work)
    (hfind : find lookup work.collection = .ok (some record)) (hempty : binding.properties = []) :
    (update (some binding) lookup).run stores = .ok (.returning (.map record)) stores := by
  rw [update, run_openCollection_bind]
  simp only [hopen, run_ofExcept_bind, hfind, hempty, List.isEmpty_nil, if_true]
  rfl

theorem update_of_find {binding : EntityBinding}
    (hopen : openCollection binding.spec stores = .ok work)
    (hfind : find lookup work.collection = .ok (some record))
    (hcommits : work.provider.fault ≠ some .atCommit) (hfilled : binding.properties ≠ [])
    {stored : Record} {collection : Collection}
    (hupdate : work.collection.update (overwrite binding.spec.schema record binding.entry) =
      (.ok stored, collection)) :
    (update (some binding) lookup).run stores =
      .ok (.returning (.map stored)) (rewrite binding.spec collection.records stores) := by
  obtain ⟨-, key, i, -, -, rfl⟩ := Collection.records_update hupdate
  rw [update, run_openCollection_bind]
  simp only [hopen, run_ofExcept_bind, hfind, List.isEmpty_eq_false_iff.2 hfilled,
    Bool.false_eq_true, if_false]
  rw [run_finish hopen hupdate rfl, if_neg hcommits]

end Finding

end Flowgraph.Data

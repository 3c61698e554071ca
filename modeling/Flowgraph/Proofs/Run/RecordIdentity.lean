import Flowgraph.Proofs.Action.Identity
import Flowgraph.Proofs.Registry.Standard
/-!
# Records keep their identity

A collection that starts empty and whose key is a declared integer or text is one in which every
record can be found again. Whatever nodes of the types of tasks on records are executed one after
another (`Reachable`), all records have keys, and no two keys have the same text. A node that looks
a record up by the text of its key then reads, updates or deletes exactly that record
(`identity_of_reachable`).

`Inv` is the invariant. One step keeps it (`inv_execute`): a key that is added was read as the kind
of the key or generated, and no task changes the key of a record that is there.
-/

namespace Flowgraph

open Data (table rewrite view Describes)

namespace Application

/-- The stores that nodes of the types of tasks on records can leave behind when they are executed
one after another, each in a model and a context of its own. -/
inductive Reachable (registry : Registry) (start : List Provider) : List Provider → Prop
  | start : Reachable registry start start
  | execute {app : Application} {runChain : ChainRunner} {id : NodeId} {node : Node}
      {context : Context} {stores : List Provider} {result : ActionResult} {after : World}
      (before : Reachable registry start stores) (hregistry : app.registry = registry)
      (hnode : app.model.action? id = some node) (htype : node.type ∈ recordTypes)
      (hrun : app.execute runChain id ⟨context, stores⟩ = some (result, after)) :
      Reachable registry start after.stores

/-- The invariant of a collection in which records can be told apart. -/
structure Inv (spec : EntitySpec) (kind : FieldKind) (stores : List Provider) : Prop where
  serves : ∃ provider, stores[spec.provider.place]? = some provider ∧ provider.fault = none ∧
    Keyed.get? spec.collection provider.store.schemas = some spec.schema
  identified : spec.schema.Identifies kind
    (table stores spec.provider.place spec.collection)

variable {spec : EntitySpec} {kind : FieldKind} {stores : List Provider}

namespace Inv

/-- Entities of one collection have one view of it. -/
theorem view_eq (h : Inv spec kind stores) {other : EntitySpec} (hother : Describes other stores)
    (hplace : other.provider.place = spec.provider.place)
    (hcollection : other.collection = spec.collection) : view other stores = view spec stores := by
  obtain ⟨provider, hprovider, -, hschema⟩ := h.serves
  rw [← hplace] at hprovider
  rw [← hcollection] at hschema
  rw [view, view, hother provider spec.schema hprovider hschema, hplace, hcollection]

/-- Writing the table of an entity keeps the invariant if the records that are written can be told
apart, where they are of the same collection. -/
theorem rewrite (h : Inv spec kind stores) {written : EntitySpec} {records : List Record}
    (hplace : written.provider.place < stores.length)
    (hrecords : written.provider.place = spec.provider.place →
      written.collection = spec.collection → spec.schema.Identifies kind records) :
    Inv spec kind (Data.rewrite written records stores) where
  serves := by
    obtain ⟨provider, hprovider, hfault, hschema⟩ := h.serves
    have hdeclared := Data.declared_rewrite written records stores spec.provider.place
    rw [hprovider, Option.map_some, Option.map_eq_some_iff] at hdeclared
    obtain ⟨after, hafter, heq⟩ := hdeclared
    rw [Prod.mk.injEq] at heq
    exact ⟨after, hafter, by rw [heq.1, hfault], by rw [heq.2, hschema]⟩
  identified := by
    obtain ⟨hown, hothers⟩ := Data.rewritten_rewrite hplace records
    by_cases hsame : spec.provider.place = written.provider.place ∧
        spec.collection = written.collection
    · rw [hsame.1, hsame.2, hown]
      exact hrecords hsame.1.symm hsame.2.symm
    · rw [hothers _ _ (Decidable.not_and_iff_not_or_not.1 hsame)]
      exact h.identified

end Inv

/-! ## One step -/

section Step

variable {app : Application} (hstandard : app.registry.Standard stores)
  (hkeyed : spec.schema.KeyedBy kind)

include hstandard hkeyed

/-- The entity of an action has the schema that its store declares, and the key that it brings along
is of the kind of a collection with this schema. -/
theorem parsed_of_bindingOf {info : TypeInfo} {node : Node} {binding : EntityBinding}
    (hbinding : ActionTypes.bindingOf ((app.registry.scope app.model).populateNode info node) =
      some binding) :
    Describes binding.spec stores ∧
      (binding.spec.schema = spec.schema → ∀ key,
        spec.schema.keyOf? binding.entry = some key → kind.Keys key) := by
  obtain ⟨source, hparse⟩ :=
    PopulateScope.entity_of_populateNode (hstandard.properties app.model) hbinding
  obtain ⟨name, -, hregistered, -⟩ := PopulateScope.parseEntity_eq_ok hparse
  refine ⟨hstandard.entities name binding.spec hregistered, fun hschema key hkey => ?_⟩
  rw [← hschema] at hkeyed hkey
  exact PopulateScope.keys_of_parseEntity hparse hkeyed hkey

end Step

/-- Adding a record keeps the invariant. -/
theorem inv_create (hkeyed : spec.schema.KeyedBy kind) (h : Inv spec kind stores)
    {binding : EntityBinding} (hdescribes : Describes binding.spec stores)
    (hkeys : binding.spec.schema = spec.schema → ∀ key,
      spec.schema.keyOf? binding.entry = some key → kind.Keys key) :
    Inv spec kind (Data.after stores (Data.create (some binding))) := by
  obtain ⟨message, hrun⟩ | ⟨-, hrun⟩ | ⟨_, work, stored, collection, heq, hopen, hadd, hrun⟩ :=
    Data.create_cases stores (some binding)
  · rw [Data.after_of_error hrun]
    exact h
  · rw [Data.after_of_ok hrun]
    exact h
  · rw [Data.after_of_ok hrun]
    cases heq
    refine h.rewrite (Data.place_lt hopen) fun hplace hcollection => ?_
    have hview := h.view_eq hdescribes hplace hcollection
    have hschema : binding.spec.schema = spec.schema := congrArg Collection.schema hview
    rw [Data.collection_eq_view hopen hdescribes, hview] at hadd
    exact RecordSchema.Identifies.add h.identified hkeyed (hkeys hschema) hadd

/-- Writing over a record keeps the invariant. -/
theorem inv_update (h : Inv spec kind stores) {binding : EntityBinding}
    (hdescribes : Describes binding.spec stores) (lookup : RecordLookup) :
    Inv spec kind (Data.after stores (Data.update (some binding) lookup)) := by
  obtain ⟨message, hrun⟩ | ⟨result, hrun, -⟩ | ⟨_, work, record, heq, hopen, hfind, hwrites⟩ :=
    Data.update_cases stores (some binding) lookup
  · rw [Data.after_of_error hrun]
    exact h
  · rw [Data.after_of_ok hrun]
    exact h
  · cases heq
    obtain ⟨-, hrun⟩ | ⟨-, stored, collection, hwritten, hrun⟩ := hwrites
    · rw [Data.after_of_ok hrun]
      exact h
    · rw [Data.after_of_ok hrun]
      refine h.rewrite (Data.place_lt hopen) fun hplace hcollection => ?_
      have hview := h.view_eq hdescribes hplace hcollection
      have hschema : binding.spec.schema = spec.schema := congrArg Collection.schema hview
      rw [Data.collection_eq_view hopen hdescribes, hview] at hfind hwritten
      rw [hschema] at hwritten
      exact RecordSchema.Identifies.update h.identified (Data.mem_of_find hfind) hwritten

/-- Removing a record keeps the invariant. -/
theorem inv_delete (h : Inv spec kind stores) (entity : Option EntitySpec)
    (lookup : RecordLookup) : Inv spec kind (Data.after stores (Data.delete entity lookup)) := by
  obtain ⟨message, hrun⟩ | ⟨result, hrun, -⟩ | ⟨other, work, record, key, removed, collection, -,
    hopen, -, -, hremove, hrun⟩ := Data.delete_cases stores entity lookup
  · rw [Data.after_of_error hrun]
    exact h
  · rw [Data.after_of_ok hrun]
    exact h
  · rw [Data.after_of_ok hrun]
    refine h.rewrite (Data.place_lt hopen) fun hplace hcollection => ?_
    obtain ⟨-, -, hrecords, -⟩ := Data.openCollection_eq_ok hopen
    obtain ⟨i, -, -, rfl⟩ := Collection.records_remove hremove
    rw [hrecords, hplace, hcollection]
    exact h.identified.eraseIdx

section Execute

variable {app : Application} (hstandard : app.registry.Standard stores)
  (hkeyed : spec.schema.KeyedBy kind) (h : Inv spec kind stores)

include hstandard hkeyed h

/-- A task on records keeps the invariant. -/
theorem inv_perform {info : TypeInfo} {node : Node} {type : String} {task : Task}
    (htask : RecordTask ((app.registry.scope app.model).populateNode info node) type task)
    (context : Context) : Inv spec kind (app.perform task ⟨context, stores⟩).2.stores := by
  cases htask with
  | create =>
    rw [perform, snd_onStores]
    cases hbinding : ActionTypes.bindingOf _ with
    | none => exact h
    | some binding =>
      obtain ⟨hdescribes, hkeys⟩ := parsed_of_bindingOf hstandard hkeyed hbinding
      exact inv_create hkeyed h hdescribes hkeys
  | update =>
    rw [perform, snd_onStores]
    cases hbinding : ActionTypes.bindingOf _ with
    | none => exact h
    | some binding =>
      obtain ⟨hdescribes, -⟩ := parsed_of_bindingOf hstandard hkeyed hbinding
      exact inv_update h hdescribes _
  | delete =>
    rw [perform, snd_onStores]
    exact inv_delete h _ _
  | read rules =>
    rw [perform, snd_onStores, Data.after_read]
    exact h
  | readFirst =>
    rw [perform, snd_onStores, Data.after_readFirst]
    exact h
  | count filters =>
    rw [perform, snd_onStores, Data.after_count]
    exact h

/-- **One step keeps records apart.** -/
theorem inv_execute {runChain : ChainRunner} {id : NodeId} {node : Node} {context : Context}
    {result : ActionResult} {after : World} (hnode : app.model.action? id = some node)
    (htype : node.type ∈ recordTypes)
    (hrun : app.execute runChain id ⟨context, stores⟩ = some (result, after)) :
    app.registry.Standard after.stores ∧ Inv spec kind after.stores := by
  simp only [execute, hnode] at hrun
  cases hmade : app.instantiate node context with
  | error error =>
    rw [hmade] at hrun
    cases hrun
    exact ⟨hstandard, h⟩
  | ok action =>
    obtain ⟨registration, task, rfl, htask⟩ :=
      recordTask_of_instantiate htype (hstandard.actions node.type htype) hmade
    simp only [hmade, Option.some.injEq] at hrun
    obtain ⟨answer, reached, hperform, hstores, -⟩ := performStack_eq hrun
    have hinv := inv_perform hstandard hkeyed h htask context
    rw [hperform] at hinv
    rw [hstores]
    refine ⟨?_, hinv⟩
    obtain rfl | ⟨-, written, records, v, -, -, -, rfl⟩ := perform_cases htask hperform
    · exact hstandard
    · exact hstandard.rewrite written records

end Execute

/-- **Any number of steps keeps records apart.** -/
theorem inv_of_reachable {registry : Registry} {start : List Provider}
    (hstandard : registry.Standard start) (hkeyed : spec.schema.KeyedBy kind)
    (hstart : Inv spec kind start) (h : Reachable registry start stores) :
    registry.Standard stores ∧ Inv spec kind stores := by
  induction h with
  | start => exact ⟨hstandard, hstart⟩
  | execute before hregistry hnode htype hrun ih =>
    subst hregistry
    exact inv_execute ih.1 hkeyed ih.2 hnode htype hrun

/-! ## Looking records up -/

/-- What is true of every record of a collection in which records can be found again by their
keys. -/
structure Found (spec : EntitySpec) (stores : List Provider) (i : Nat) (record : Record)
    (text : String) : Prop where
  /-- Reading by the key returns the record. -/
  read : ∀ (app : Application) runChain id node context slots lookup,
    app.model.action? id = some node →
    app.instantiate node context = .ok (.stack slots (.readFirst (some spec) lookup)) →
    lookup.idValue = some text →
    app.execute runChain id ⟨context, stores⟩ =
      some (World.settle ⟨context, stores⟩ slots (.returning (.map record)))
  /-- Deleting by the key removes the record and returns it. -/
  delete : ∀ (app : Application) runChain id node context slots lookup,
    app.model.action? id = some node →
    app.instantiate node context = .ok (.stack slots (.delete (some spec) lookup)) →
    lookup.idValue = some text →
    app.execute runChain id ⟨context, stores⟩ =
      some (World.settle
        ⟨context, rewrite spec
          ((table stores spec.provider.place spec.collection).eraseIdx i) stores⟩
        slots (.returning (.map record)))
  /-- Updating by the key writes the fields of the entity over this record alone, and keeps its
  key. -/
  update : ∀ (app : Application) runChain id node context slots lookup binding,
    app.model.action? id = some node →
    app.instantiate node context = .ok (.stack slots (.update (some binding) lookup)) →
    binding.spec = spec → lookup.idValue = some text →
    spec.schema.keyOf? (Data.updated binding record) = spec.schema.keyOf? record ∧
      app.execute runChain id ⟨context, stores⟩ =
        some (World.settle
          ⟨context, rewrite spec
            ((table stores spec.provider.place spec.collection).set i
              (Data.updated binding record)) stores⟩
          slots (.returning (.map (Data.updated binding record))))

/-- Executing a node whose task on records succeeds. -/
theorem execute_of_onStores {app : Application} {id : NodeId} {node : Node}
    (hnode : app.model.action? id = some node) {context : Context} {slots : StackSlots}
    {task : Task} (hmade : app.instantiate node context = .ok (.stack slots task))
    {data : Data.StoreM ActionResult}
    (htask : ∀ world, app.perform task world = onStores data world) {v : Value}
    {after : List Provider} (hdata : data.run stores = .ok (.returning v) after)
    (runChain : ChainRunner) :
    app.execute runChain id ⟨context, stores⟩ =
      some (World.settle ⟨context, after⟩ slots (.returning v)) := by
  simp only [execute, hnode, hmade, performStack, htask, onStores, hdata]

/-- A record that stands at the place of its key is updated there, also if there is nothing to write
over it. -/
theorem run_update_of_place {binding : EntityBinding} {lookup : RecordLookup} {work : Data.Work}
    {record : Record} {key : Value} {i : Nat}
    (hopen : Data.openCollection binding.spec stores = .ok work)
    (hview : work.collection = view binding.spec stores)
    (hcommits : work.provider.fault ≠ some .atCommit)
    (hfind : Data.find lookup work.collection = .ok (some record))
    (hr : (table stores binding.spec.provider.place binding.spec.collection)[i]? = some record)
    (hkey : binding.spec.schema.keyOf? record = some key)
    (hplace : (view binding.spec stores).position? key = some i) :
    (Data.update (some binding) lookup).run stores =
      .ok (.returning (.map (Data.updated binding record)))
        (rewrite binding.spec
          ((table stores binding.spec.provider.place binding.spec.collection).set i
            (Data.updated binding record)) stores) := by
  by_cases hempty : binding.properties = []
  · have hlist : (table stores binding.spec.provider.place binding.spec.collection).set i record =
        table stores binding.spec.provider.place binding.spec.collection := by
      obtain ⟨hlt, rfl⟩ := List.getElem?_eq_some_iff.1 hr
      exact List.set_getElem_self hlt
    rw [Data.updated, if_pos (List.isEmpty_iff.2 hempty), hlist,
      Data.rewrite_table (List.ne_nil_of_mem (List.mem_of_getElem? hr))]
    exact Data.update_of_empty hopen hfind hempty
  · have hown := Data.keyOf?_overwrite hkey binding.entry
    have hupdate : work.collection.update
        (Data.overwrite binding.spec.schema record binding.entry) =
          (.ok (Data.overwrite binding.spec.schema record binding.entry),
            { view binding.spec stores with
              records := (view binding.spec stores).records.set i
                (Data.overwrite binding.spec.schema record binding.entry), dirty := true }) := by
      rw [hview, Collection.update,
        show (view binding.spec stores).schema.keyOf? _ = some key from hown]
      simp only [hplace]
    rw [Data.updated, if_neg fun h => hempty (List.isEmpty_iff.1 h)]
    exact Data.update_of_find hopen hfind hcommits hempty hupdate

/-- A record of a collection that keeps the invariant is found by the text of its key. -/
theorem found_of_inv (hkeyed : spec.schema.KeyedBy kind) (h : Inv spec kind stores) {i : Nat}
    {record : Record}
    (hr : (table stores spec.provider.place spec.collection)[i]? = some record) {text : String}
    (htext : spec.schema.keyText? record = some text) : Found spec stores i record text := by
  obtain ⟨provider, hprovider, hfault, hschema⟩ := h.serves
  obtain ⟨work, hopen, rfl, hview⟩ := Data.openCollection_of_declared hprovider hfault hschema
  have hcommits : work.provider.fault ≠ some .atCommit := by
    rw [hfault]
    exact nofun
  have hmem := List.mem_of_getElem? hr
  obtain ⟨key, hkey, -⟩ := h.identified.keyed record hmem
  have hplace : (view spec stores).position? key = some i :=
    Collection.position?_of_nodup h.identified.distinct hr (RecordSchema.keyText?_of_keyOf? hkey)
  have hfind : ∀ lookup : RecordLookup, lookup.idValue = some text →
      Data.find lookup work.collection = .ok (some record) := by
    intro lookup hid
    rw [hview]
    exact Data.find_of_keyText? hkeyed h.identified hmem htext hid
  refine ⟨?_, ?_, ?_⟩
  · intro app runChain id node context slots lookup hnode hmade hid
    exact execute_of_onStores hnode hmade (fun _ => rfl)
      (Data.readFirst_of_find hopen (hfind lookup hid)) runChain
  · intro app runChain id node context slots lookup hnode hmade hid
    have hremove : work.collection.remove key = (.ok record, { view spec stores with
        records := (view spec stores).records.eraseIdx i, dirty := true }) := by
      have hget : (view spec stores).records[i]? = some record := hr
      simp only [hview, Collection.remove, hplace, hget]
      rfl
    exact execute_of_onStores hnode hmade (fun _ => rfl)
      (Data.delete_of_find hopen (hfind lookup hid) hcommits hkey hremove) runChain
  · rintro app runChain id node context slots lookup binding hnode hmade rfl hid
    exact ⟨(Data.keyOf?_updated hkey).trans hkey.symm,
      execute_of_onStores hnode hmade (fun _ => rfl)
        (run_update_of_place hopen hview hcommits (hfind lookup hid) hr hkey hplace) runChain⟩

/-- What holds of a collection in which records keep their identity. -/
structure Identity (spec : EntitySpec) (stores : List Provider) : Prop where
  keyed : ∀ record ∈ table stores spec.provider.place spec.collection,
    ∃ key, spec.schema.keyOf? record = some key ∧ key ≠ .null
  distinct : ((table stores spec.provider.place spec.collection).map spec.schema.keyText?).Nodup
  found : ∀ i record text,
    (table stores spec.provider.place spec.collection)[i]? = some record →
    spec.schema.keyText? record = some text → Found spec stores i record text

/-- **Records keep their identity.** Let a collection of a working store start empty, with a
declared key of kind integer or text and without a default. Whatever nodes with tasks on records are
executed one after another, then all records have keys, no two keys have the same text, and a record
is read, deleted and updated by the text of its key. -/
theorem identity_of_reachable {registry : Registry} {start : List Provider}
    (hstandard : registry.Standard start) (hkeyed : spec.schema.KeyedBy kind) {provider : Provider}
    (hprovider : start[spec.provider.place]? = some provider) (hfault : provider.fault = none)
    (hschema : Keyed.get? spec.collection provider.store.schemas = some spec.schema)
    (hempty : table start spec.provider.place spec.collection = [])
    (hreach : Reachable registry start stores) : Identity spec stores := by
  have hstart : Inv spec kind start := by
    refine ⟨⟨provider, hprovider, hfault, hschema⟩, ?_⟩
    rw [hempty]
    exact RecordSchema.identifies_nil spec.schema kind
  obtain ⟨-, hinv⟩ := inv_of_reachable hstandard hkeyed hstart hreach
  refine ⟨fun record hr => ?_, hinv.identified.distinct, fun i record text hr htext => ?_⟩
  · obtain ⟨key, hkey, -⟩ := hinv.identified.keyed record hr
    refine ⟨key, hkey, ?_⟩
    rintro rfl
    cases RecordSchema.isNull_of_keyOf? hkey
  · exact found_of_inv hkeyed hinv hr htext

/-! ### Articles that come and go -/

/-- The entity of articles, whose keys the store generates. -/
def articles : EntitySpec where
  name := "Archive.Articles"
  collection := "Articles"
  schema :=
    { name := "Article", primaryKey := "id", fields := [.plain "id" .long, .plain "title" .text] }
  provider := ⟨0, "Archive"⟩

theorem keyedBy_articles : articles.schema.KeyedBy .long where
  kind_mem := by decide
  named := by decide
  declared := ⟨_, List.mem_cons_self, rfl⟩
  plain := by
    intro field hfield hname
    rcases List.mem_cons.1 hfield with rfl | hfield
    · exact ⟨rfl, rfl⟩
    · rw [List.mem_singleton.1 hfield] at hname
      exact absurd hname (by decide)

/-- A node that writes over the first article. The number among its fields is not that of the
article. -/
def revise : Node where
  id := "revise"
  type := "Update"
  properties :=
    [("entity", .map [("_type", .text "Archive.Articles"), ("id", .int 7),
        ("title", .text "On identity")]),
      ("idValue", .text "1")]

/-- A node that removes the second article. -/
def withdraw : Node where
  id := "withdraw"
  type := "Delete"
  properties := [("entity", .text "Archive.Articles"), ("idValue", .text "2")]

/-- An application that adds, changes and removes articles. -/
def editorial : Application :=
  { newsroom with
    model := [publish, revise, withdraw].foldl (fun model node => model.insert .actions node)
      Model.empty }

/-- The stores after some nodes were executed one after another. -/
def edited (ids : List NodeId) (stores : List Provider) : Option (List Provider) :=
  ids.foldlM (fun stores id =>
    (editorial.execute (fun _ _ => none) id ⟨.empty, stores⟩).map fun made => made.2.stores) stores

theorem reachable_edited {ids : List NodeId}
    (hids : ∀ id ∈ ids, ∃ node, editorial.model.action? id = some node ∧ node.type ∈ recordTypes)
    {start stores after : List Provider} (before : Reachable editorial.registry start stores)
    (h : edited ids stores = some after) : Reachable editorial.registry start after := by
  induction ids generalizing stores with
  | nil =>
    cases h
    exact before
  | cons id rest ih =>
    obtain ⟨next, hnext, hrest⟩ := Option.bind_eq_some_iff.1 h
    obtain ⟨⟨result, reached⟩, hrun, rfl⟩ := Option.map_eq_some_iff.1 hnext
    obtain ⟨node, hnode, htype⟩ := hids id List.mem_cons_self
    exact ih (fun other hother => hids other (List.mem_cons_of_mem _ hother))
      (.execute before rfl hnode htype hrun) hrest

/-- Of two articles the first one is changed, but for its number, and the second one is removed. The
one that is left is found by its number. -/
theorem identity_of_reachable_newsroom :
    ∃ stores, Reachable editorial.registry [archive none] stores ∧
      edited ["publish", "publish", "revise", "withdraw"] [archive none] = some stores ∧
      (table stores 0 "Articles").map
          (fun record => record.map fun entry => (entry.1, entry.2.stringify)) =
        [[("id", "1"), ("title", "On identity")]] ∧
      Identity articles stores := by
  have hstandard : editorial.registry.Standard [archive none] := by
    refine Registry.standard_registerProviders fun provider hprovider => ?_
    rw [List.mem_singleton.1 hprovider]
    decide
  have htable : (edited ["publish", "publish", "revise", "withdraw"] [archive none]).map
      (fun stores => (table stores 0 "Articles").map
        fun record => record.map fun entry => (entry.1, entry.2.stringify)) =
          some [[("id", "1"), ("title", "On identity")]] := by decide +kernel
  obtain ⟨stores, hstores, htable⟩ := Option.map_eq_some_iff.1 htable
  have hnodes : ∀ id ∈ ["publish", "publish", "revise", "withdraw"], ∃ node,
      editorial.model.action? id = some node ∧ node.type ∈ recordTypes := by
    simp only [List.forall_mem_cons]
    exact ⟨⟨publish, rfl, by decide⟩, ⟨publish, rfl, by decide⟩, ⟨revise, rfl, by decide⟩,
      ⟨withdraw, rfl, by decide⟩, nofun⟩
  have hreach := reachable_edited hnodes .start hstores
  have hprovider : [archive none][articles.provider.place]? = some (archive none) := rfl
  exact ⟨stores, hreach, hstores, htable,
    identity_of_reachable hstandard keyedBy_articles hprovider rfl rfl rfl hreach⟩

end Application

end Flowgraph

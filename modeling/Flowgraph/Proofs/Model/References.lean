import Flowgraph.Proofs.Model.Grammar
import Flowgraph.Proofs.Model.Ids
/-!
# References that lead somewhere

A model keeps its nodes by id and refers to them by id: the sections list their members, and the
action slots name the nodes that they point at. A model is `Coherent` when each node stands under
its own id, once, and every member of a section is a node. The loader, `Model.insert` and the choice
of an environment lead from coherent models to coherent models (`Model.Built.coherent`), and none
of them takes an id away (`Model.Extends`).

A slot that names a node by its id may name one that does not exist. One that holds a node cannot:
the object in the slot is an object of the document like the one around it, so that it is stored,
and its id stays known whatever is inserted later (`Model.inline_target_resolves`).

Main definitions: `Model.Coherent`, `Model.Extends`, `Model.Built`, `NodeObject.child`.
Main statements: `Model.Built.coherent`, `Model.loader_contract`.
-/

namespace Flowgraph

namespace Model

/-- What holds a model together: every node stands under its own id, no id stands twice, and every
member of a section is a node. -/
structure Coherent (model : Model) : Prop where
  ids : ∀ entry ∈ model.nodes, entry.2.id = entry.1
  distinct : (Keyed.keys model.nodes).Nodup
  members : ∀ part, ∀ id ∈ model.sectionIds part, (model.node? id).isSome

/-- Whether every id that is known in one model is known in the other. -/
def Extends (before after : Model) : Prop :=
  ∀ id, (before.node? id).isSome → (after.node? id).isSome

theorem Extends.refl (model : Model) : Extends model model :=
  fun _ h => h

theorem Extends.trans {first second third : Model} (h : Extends first second)
    (h' : Extends second third) : Extends first third :=
  fun id hid => h' id (h id hid)

/-! ## Steps -/

theorem extends_store (model : Model) (node : Node) : Extends model (model.store node) := by
  intro id hid
  rw [node?_store]
  split
  · rfl
  · exact hid

theorem isSome_node?_store_self (model : Model) (node : Node) :
    ((model.store node).node? node.id).isSome := by
  rw [node?_store, if_pos rfl]
  rfl

theorem extends_insert (model : Model) (part : Section) (node : Node) :
    Extends model (model.insert part node) := by
  intro id hid
  rw [node?_insert]
  split
  · rfl
  · exact hid

theorem sectionIds_addMember (model : Model) (part other : Section) (id : NodeId) :
    (model.addMember part id).sectionIds other =
      if part = other then model.sectionIds part ++ [id] else model.sectionIds other := by
  have hkey : part.key = other.key ↔ part = other := by
    cases part <;> cases other <;> decide
  simp only [sectionIds, addMember, Keyed.get?_put, hkey]
  split <;> rfl

namespace Coherent

variable {model : Model}

theorem empty : Model.empty.Coherent where
  ids := fun _ h => absurd h List.not_mem_nil
  distinct := List.nodup_nil
  members := fun _ _ h => absurd h List.not_mem_nil

theorem store (h : model.Coherent) (node : Node) : (model.store node).Coherent where
  ids := fun entry hentry => by
    rcases Keyed.mem_put hentry with rfl | hentry
    · rfl
    · exact h.ids entry hentry
  distinct := Keyed.nodup_keys_put h.distinct node.id node
  members := fun part id hid => extends_store model node id (h.members part id hid)

theorem addMember (h : model.Coherent) (part : Section) {id : NodeId}
    (hid : (model.node? id).isSome) : (model.addMember part id).Coherent where
  ids := h.ids
  distinct := h.distinct
  members := fun other member hmember => by
    rw [sectionIds_addMember] at hmember
    split at hmember
    · rcases List.mem_append.1 hmember with hmember | hmember
      · exact h.members part member hmember
      · rw [List.mem_singleton.1 hmember]
        exact hid
    · exact h.members other member hmember

theorem insert (h : model.Coherent) (part : Section) (node : Node) :
    (model.insert part node).Coherent := by
  unfold Model.insert
  split
  · exact h.store node
  · exact (h.store node).addMember part (isSome_node?_store_self model node)

/-- The node under an id has that id. -/
theorem id_of_node? (h : model.Coherent) {id : NodeId} {node : Node}
    (hnode : model.node? id = some node) : node.id = id :=
  h.ids _ (Keyed.mem_of_get? hnode)

end Coherent

/-- Storing nodes one after another keeps a model coherent, and all of them are known afterwards. -/
theorem Coherent.foldl_store {model : Model} (h : model.Coherent) (nodes : List Node) :
    (nodes.foldl Model.store model).Coherent ∧ Extends model (nodes.foldl Model.store model) ∧
      ∀ node ∈ nodes, ((nodes.foldl Model.store model).node? node.id).isSome := by
  induction nodes generalizing model with
  | nil => exact ⟨h, .refl model, fun _ hnode => absurd hnode List.not_mem_nil⟩
  | cons node rest ih =>
    obtain ⟨hcoherent, hextends, hknown⟩ := ih (h.store node)
    refine ⟨hcoherent, (extends_store model node).trans hextends, ?_⟩
    rw [List.forall_mem_cons]
    exact ⟨hextends _ (isSome_node?_store_self model node), hknown⟩

/-- Inserting nodes one after another keeps a model coherent and takes no id away. -/
theorem Coherent.foldl_insert {model : Model} (h : model.Coherent)
    (insertions : List (Section × Node)) :
    (insertions.foldl (fun model next => model.insert next.1 next.2) model).Coherent ∧
      Extends model (insertions.foldl (fun model next => model.insert next.1 next.2) model) := by
  induction insertions generalizing model with
  | nil => exact ⟨h, .refl model⟩
  | cons next rest ih =>
    obtain ⟨hcoherent, hextends⟩ := ih (h.insert next.1 next.2)
    exact ⟨hcoherent, (extends_insert model next.1 next.2).trans hextends⟩

/-! ## Loading -/

/-- The member that an entry makes is the node that the entry puts out last. -/
theorem coherent_loadEntry {part : Section} {fallback : Option NodeId} {v : Value}
    {model model' : Model} (h : model.Coherent)
    (hload : loadEntry part model fallback v = .ok model') : model'.Coherent := by
  obtain ⟨⟨id, nodes⟩, hnode, hmodel⟩ := bind_eq_ok.1 hload
  obtain ⟨hcoherent, -, hknown⟩ := h.foldl_store nodes
  cases hmodel
  refine hcoherent.addMember part ?_
  cases v
  case map fields =>
    have hplace : ∀ given, fallback = some given → given = Naming.id ⟨fallback.getD "", []⟩ := by
      rintro given rfl
      rfl
    obtain ⟨rfl, hid⟩ := loadNode_ok _ _ _ _ _ _ hplace hnode
    rw [hid fields rfl]
    exact hknown (NodeObject.node ⟨fields, _⟩)
      (List.mem_map_of_mem (mem_objectsIn_map.2 (.inr rfl)))
  all_goals cases hnode

theorem coherent_loadSection {part : Section} {written : Option Value} {model model' : Model}
    (h : model.Coherent) (hload : loadSection model part written = .ok model') :
    model'.Coherent := by
  unfold loadSection at hload
  split at hload
  · exact Except.ok.inj hload ▸ h
  · exact Except.ok.inj hload ▸ h
  · exact foldlM_induction (fun _ _ _ => coherent_loadEntry) h hload
  · exact foldlM_induction (fun _ _ _ => coherent_loadEntry) h hload
  · cases hload

theorem coherent_loadEnvironments {written : Option Value} {model model' : Model}
    (h : model.Coherent) (hload : loadEnvironments model written = .ok model') :
    model'.Coherent := by
  unfold loadEnvironments at hload
  split at hload
  · exact Except.ok.inj hload ▸ h
  · exact Except.ok.inj hload ▸ h
  · split at hload
    · exact Except.ok.inj hload ▸ ⟨h.ids, h.distinct, h.members⟩
    · cases hload

theorem coherent_ofValue {document : Value} {model : Model} (h : ofValue document = .ok model) :
    model.Coherent := by
  cases document
  case map root =>
    obtain ⟨loaded, hsections, henvironments⟩ := bind_eq_ok.1 h
    refine coherent_loadEnvironments ?_ henvironments
    exact foldlM_induction (fun _ _ _ => coherent_loadSection) Coherent.empty hsections
  all_goals cases h

/-- The models that a program comes by. -/
inductive Built : Model → Prop
  | empty (name : String) : Built { Model.empty with activeEnvironment := name }
  | loaded {document : Value} {model : Model} (h : ofValue document = .ok model) : Built model
  | insert {model : Model} (h : Built model) (part : Section) (node : Node) :
    Built (model.insert part node)
  | environment {model model' : Model} {name : String} (h : Built model)
    (hname : model.setEnvironment? name = some model') : Built model'

/-- **The models that a program comes by are coherent.** -/
theorem Built.coherent {model : Model} (h : Built model) : model.Coherent := by
  induction h with
  | empty name => exact ⟨Coherent.empty.ids, Coherent.empty.distinct, Coherent.empty.members⟩
  | loaded h => exact coherent_ofValue h
  | insert _ part node ih => exact ih.insert part node
  | environment _ hname ih =>
    unfold setEnvironment? at hname
    split at hname
    · exact Option.some.inj hname ▸ ⟨ih.ids, ih.distinct, ih.members⟩
    · cases hname

end Model

/-! ## Objects in slots -/

namespace NodeObject

/-- The object that an action slot of an object holds. -/
def child (object : NodeObject) (slot : String) (fields : Value.Fields) : NodeObject :=
  ⟨fields, namingOf fields (object.naming.slot slot)⟩

/-- A slot that holds an object points at it. -/
theorem mem_actions_of_child {object : NodeObject} {slot : String} {fields : Value.Fields}
    (h : (slot, .map fields) ∈ slotsOf object.fields) :
    (slot, (object.child slot fields).naming.id) ∈ object.node.actions :=
  List.mem_filterMap.2 ⟨_, h, rfl⟩

end NodeObject

/-- What is held in a slot of an object in a node value is in the node value. -/
theorem child_mem_objectsIn {v : Value} {fallback : Naming} {object : NodeObject} {slot : String}
    {fields : Value.Fields} (hobject : object ∈ objectsIn v fallback)
    (hslot : (slot, .map fields) ∈ slotsOf object.fields) :
    object.child slot fields ∈ objectsIn v fallback := by
  induction v using slotInduction generalizing fallback with
  | other v hv =>
    rw [objectsIn_of_fields?_eq_none hv] at hobject
    cases hobject
  | object outer ih =>
    rcases mem_objectsIn_map.1 hobject with ⟨inner, hinner, hmem⟩ | rfl
    · exact objectsIn_slot_subset hinner fallback (ih inner hinner hmem)
    · exact objectsIn_slot_subset hslot fallback (mem_objectsIn_map.2 (.inr rfl))

theorem child_mem_documentObjects {document : Value} {object : NodeObject} {slot : String}
    {fields : Value.Fields} (hobject : object ∈ documentObjects document)
    (hslot : (slot, .map fields) ∈ slotsOf object.fields) :
    object.child slot fields ∈ documentObjects document := by
  obtain ⟨entry, hentry, hmem⟩ := List.mem_flatMap.1 hobject
  exact List.mem_flatMap.2 ⟨entry, hentry, child_mem_objectsIn hmem hslot⟩

namespace Model

/-- Every object of a document has its id known. -/
theorem isSome_node?_of_mem_documentObjects {document : Value} {model : Model}
    (h : ofValue document = .ok model) {object : NodeObject}
    (hobject : object ∈ documentObjects document) : (model.node? object.naming.id).isSome := by
  have hkey : object.naming.id ∈ Keyed.keys model.nodes := by
    rw [nodes_ofValue h, stored, Keyed.mem_keys_putAll]
    exact .inl (List.mem_map_of_mem (List.mem_map_of_mem hobject))
  exact (Keyed.has_iff_mem_keys _ _).2 hkey

/-- **What the loader takes and what it makes of it.** It takes the documents of the grammar. The
nodes of the model are those of objects of the document, and whatever is inserted later, the model
stays coherent and every slot that held an object points at a node. -/
theorem loader_contract (document : Value) :
    ((∃ model, ofValue document = .ok model) ↔ IsModelDocument document) ∧
      ∀ model, ofValue document = .ok model → ∀ insertions : List (Section × Node),
        let later := insertions.foldl (fun model next => model.insert next.1 next.2) model
        later.Coherent ∧
          (∀ entry ∈ model.nodes, ∃ object ∈ documentObjects document, entry = object.entry) ∧
          ∀ object ∈ documentObjects document, ∀ slot fields,
            (slot, .map fields) ∈ slotsOf object.fields →
              (slot, (object.child slot fields).naming.id) ∈ object.node.actions ∧
                (later.node? (object.child slot fields).naming.id).isSome := by
  refine ⟨exists_ofValue_eq_ok_iff, fun model hmodel insertions => ?_⟩
  obtain ⟨hcoherent, hextends⟩ := (coherent_ofValue hmodel).foldl_insert insertions
  refine ⟨hcoherent, fun entry hentry => ?_, fun object hobject slot fields hslot => ?_⟩
  · rw [nodes_ofValue hmodel] at hentry
    rcases Keyed.mem_putAll hentry with hentry | hentry
    · obtain ⟨object, hobject, rfl⟩ := List.mem_map.1 hentry
      exact ⟨object, hobject, rfl⟩
    · cases hentry
  · have hchild := child_mem_documentObjects hobject hslot
    exact ⟨NodeObject.mem_actions_of_child hslot,
      hextends _ (isSome_node?_of_mem_documentObjects hmodel hchild)⟩

theorem loader_contract_nested :
    IsModelDocument nested ∧ ∃ model, ofValue nested = .ok model ∧
      let later := model.insert .actions { id := "list/next", type := "Foreach" }
      later.Coherent ∧ ∃ object ∈ documentObjects nested,
        ("next", "list/next") ∈ object.node.actions ∧ (later.node? "list/next").isSome := by
  obtain ⟨hdocument, hmodel⟩ := loader_contract nested
  refine ⟨hdocument.1 ⟨_, rfl⟩, _, rfl, ?_⟩
  obtain ⟨hcoherent, -, hslots⟩ :=
    hmodel _ rfl [(.actions, { id := "list/next", type := "Foreach" })]
  have hlast : (documentObjects nested)[2] ∈ documentObjects nested := List.getElem_mem _
  exact ⟨hcoherent, _, hlast, hslots _ hlast "next" _ (.head _)⟩

end Model

end Flowgraph

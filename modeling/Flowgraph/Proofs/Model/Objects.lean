import Flowgraph.Model.Loader
import Flowgraph.Proofs.Keyed
import Flowgraph.Proofs.Steps
/-!
# The node objects of a document

A document holds node objects: the entries of its sections, and below each of them the objects in
its action slots, at any depth. `documentObjects` lists them, children before their parent, and says
of each how it comes to its id: it is written, in the object or as the key of its section, or it
is made of the id of the parent and the name of the slot. The node of an object is read off the
object and its naming alone.

The loader stores the nodes of these objects one after another, and nothing else
(`Model.nodes_ofValue`). Whether some of them share an id is another matter.

Main definitions: `Naming`, `NodeObject`, `NodeObject.node`, `objectsIn`, `documentObjects`.
Main statements: `Model.loadNode_ok`, `Model.nodes_ofValue`.
-/

namespace Flowgraph

/-- How a node object comes to its id: an id that is written in the document, and the action slots
on the way down from the object of that id. -/
@[ext]
structure Naming where
  written : NodeId
  path : List String := []

namespace Naming

/-- The id that a naming gives: the written one and the slots below it, with slashes between. -/
def id (naming : Naming) : NodeId :=
  naming.path.foldl (fun id slot => s!"{id}/{slot}") naming.written

/-- The naming of the object in an action slot, if it has no id of its own. -/
def slot (naming : Naming) (name : String) : Naming :=
  { naming with path := naming.path ++ [name] }

@[simp] theorem path_slot (naming : Naming) (name : String) :
    (naming.slot name).path = naming.path ++ [name] := rfl

theorem id_of_path_eq_nil {naming : Naming} (h : naming.path = []) :
    naming.id = naming.written := by
  rw [id, h, List.foldl_nil]

theorem id_slot (naming : Naming) (name : String) :
    (naming.slot name).id = s!"{naming.id}/{name}" := by
  rw [slot, id, List.foldl_append]
  rfl

end Naming

/-- The naming of an object: its own id, or what its place gives it. -/
def namingOf (fields : Value.Fields) (fallback : Naming) : Naming :=
  match (Model.aliased? fields "_id" "id").bind Value.text? with
  | some id => ⟨id, []⟩
  | none => fallback

/-- What is written in the action slots of an object. -/
def slotsOf (fields : Value.Fields) : Value.Fields :=
  match Keyed.get? "actions" fields with
  | some (.map slots) => slots
  | _ => []

/-- A node object of a document, with how it comes to its id. -/
structure NodeObject where
  fields : Value.Fields
  naming : Naming

namespace NodeObject

/-- Where an action slot points: at the node that it names, or at the one that it holds. -/
def target? (object : NodeObject) (slot : String) : Value → Option NodeId
  | .text id => some id
  | .map fields => some (namingOf fields (object.naming.slot slot)).id
  | _ => none

/-- The action slots of an object with the nodes that they point at. -/
def actions (object : NodeObject) : List (String × NodeId) :=
  (slotsOf object.fields).filterMap fun (slot, v) => (object.target? slot v).map (slot, ·)

/-- The node of an object. -/
def node (object : NodeObject) : Node where
  id := object.naming.id
  type := ((Model.aliased? object.fields "_type" "type").bind Value.text?).getD ""
  name := ((Keyed.get? "name" object.fields).bind Value.text?).getD ""
  folder := (Model.aliased? object.fields "_folder" "folder").bind Value.text?
  properties := ((Keyed.get? "properties" object.fields).bind Value.fields?).getD []
  actions := object.actions

/-- The entry of an object among the nodes of a model. -/
def entry (object : NodeObject) : NodeId × Node :=
  (object.naming.id, object.node)

end NodeObject

mutual

/-- The objects in a node value, children before their parent. The naming is the one of the place,
for an object that has no id of its own. -/
def objectsIn : Value → Naming → List NodeObject
  | .map fields, fallback =>
    objectsUnder fields (namingOf fields fallback) ++ [⟨fields, namingOf fields fallback⟩]
  | _, _ => []

/-- The objects below an object, which has the given naming. -/
def objectsUnder : List (String × Value) → Naming → List NodeObject
  | [], _ => []
  | (k, v) :: rest, naming =>
    if k = "actions" then objectsOfMap v naming else objectsUnder rest naming

/-- The objects in the value under `actions`. -/
def objectsOfMap : Value → Naming → List NodeObject
  | .map entries, naming => objectsOfEntries entries naming
  | _, _ => []

/-- The objects in the entries under `actions`. -/
def objectsOfEntries : List (String × Value) → Naming → List NodeObject
  | [], _ => []
  | (k, v) :: rest, naming => objectsIn v (naming.slot k) ++ objectsOfEntries rest naming

end

/-- The entries of a section with the ids that they stand under; those of a list have none. -/
def sectionEntries : Option Value → List (Option NodeId × Value)
  | some (.list entries) => entries.map fun v => (none, v)
  | some (.map entries) => entries.map fun (k, v) => (some k, v)
  | _ => []

/-- The objects in one entry of a section. -/
def entryObjects (entry : Option NodeId × Value) : List NodeObject :=
  objectsIn entry.2 ⟨entry.1.getD "", []⟩

/-- The entries of all sections of a document. -/
def documentEntries : Value → List (Option NodeId × Value)
  | .map root => Section.all.flatMap fun part => sectionEntries (Keyed.get? part.key root)
  | _ => []

/-- The node objects of a document in the order in which they are loaded. -/
def documentObjects (document : Value) : List NodeObject :=
  (documentEntries document).flatMap entryObjects

/-! ## Going down the slots -/

theorem objectsOfEntries_eq (slots : Value.Fields) (naming : Naming) :
    objectsOfEntries slots naming =
      slots.flatMap fun slot => objectsIn slot.2 (naming.slot slot.1) := by
  induction slots with
  | nil => rfl
  | cons slot rest ih => rw [objectsOfEntries, ih, List.flatMap_cons]

theorem objectsUnder_eq (fields : Value.Fields) (naming : Naming) :
    objectsUnder fields naming =
      (slotsOf fields).flatMap fun slot => objectsIn slot.2 (naming.slot slot.1) := by
  induction fields with
  | nil => rfl
  | cons field rest ih =>
    obtain ⟨k, v⟩ := field
    rw [objectsUnder, slotsOf, Keyed.get?_cons]
    split
    · cases v
      case map slots => exact objectsOfEntries_eq slots naming
      all_goals rfl
    · exact ih

/-- The objects in a node value are those in its slots and itself. -/
theorem objectsIn_map (fields : Value.Fields) (fallback : Naming) :
    objectsIn (.map fields) fallback =
      ((slotsOf fields).flatMap fun slot =>
        objectsIn slot.2 ((namingOf fields fallback).slot slot.1)) ++
      [⟨fields, namingOf fields fallback⟩] := by
  rw [objectsIn, objectsUnder_eq]

theorem mem_objectsIn_map {fields : Value.Fields} {fallback : Naming} {object : NodeObject} :
    object ∈ objectsIn (.map fields) fallback ↔
      (∃ slot ∈ slotsOf fields,
        object ∈ objectsIn slot.2 ((namingOf fields fallback).slot slot.1)) ∨
      object = ⟨fields, namingOf fields fallback⟩ := by
  rw [objectsIn_map, List.mem_append, List.mem_flatMap, List.mem_singleton]

theorem objectsIn_of_fields?_eq_none {v : Value} (h : v.fields? = none) (fallback : Naming) :
    objectsIn v fallback = [] := by
  cases v <;> first | rfl | cases h

theorem sizeOf_lt_of_mem_slotsOf {fields : Value.Fields} {slot : String × Value}
    (h : slot ∈ slotsOf fields) : sizeOf slot.2 < sizeOf (Value.map fields) := by
  rw [slotsOf] at h
  split at h
  · next slots hslots =>
    have hfield := List.sizeOf_lt_of_mem (Keyed.mem_of_get? hslots)
    have hslot := List.sizeOf_lt_of_mem h
    obtain ⟨k, v⟩ := slot
    simp only [Prod.mk.sizeOf_spec, Value.map.sizeOf_spec] at hfield hslot ⊢
    omega
  · cases h

/-- Induction down the slots of a node value. -/
theorem slotInduction {motive : Value → Prop}
    (object : ∀ fields, (∀ slot ∈ slotsOf fields, motive slot.2) → motive (.map fields))
    (other : ∀ v, v.fields? = none → motive v) (v : Value) : motive v := by
  cases v
  case map fields => exact object fields fun slot _ => slotInduction object other slot.2
  all_goals exact other _ rfl
termination_by sizeOf v
decreasing_by exact sizeOf_lt_of_mem_slotsOf ‹_›

/-! ## What the loader reads -/

namespace Model

theorem readId_ok {fields : Value.Fields} {fallback : Option NodeId} {part : String} {id : NodeId}
    {naming : Naming} (hplace : ∀ given, fallback = some given → given = naming.id)
    (h : readId fields fallback part = .ok id) : id = (namingOf fields naming).id := by
  unfold readId at h
  unfold namingOf
  cases hown : (aliased? fields "_id" "id").bind Value.text? with
  | some own =>
    rw [hown] at h
    exact (Except.ok.inj h).symm
  | none =>
    rw [hown] at h
    cases fallback with
    | some given => exact (Except.ok.inj h).symm.trans (hplace given rfl)
    | none => cases h

theorem readType_ok {fields : Value.Fields} {id : NodeId} {type : String}
    (h : readType fields id = .ok type) :
    type = ((aliased? fields "_type" "type").bind Value.text?).getD "" := by
  unfold readType at h
  split at h
  case h_4 => cases h
  all_goals
    next hfield =>
      rw [hfield]
      exact (Except.ok.inj h).symm

theorem readProperties_ok {fields : Value.Fields} {id : NodeId} {properties : Value.Fields}
    (h : readProperties fields id = .ok properties) :
    properties = ((Keyed.get? "properties" fields).bind Value.fields?).getD [] := by
  unfold readProperties at h
  split at h
  case h_4 => cases h
  all_goals
    next hfield =>
      rw [hfield]
      exact (Except.ok.inj h).symm

theorem slotsOfEntries_eq (slots : Value.Fields) :
    slotsOfEntries slots = slots.map fun slot => ⟨slot.1, slot.2, loadNode slot.2⟩ := by
  induction slots with
  | nil => rfl
  | cons slot rest ih => rw [slotsOfEntries, ih, List.map_cons]

theorem writtenSlots_eq (fields : Value.Fields) :
    writtenSlots fields = (slotsOf fields).map fun slot => ⟨slot.1, slot.2, loadNode slot.2⟩ := by
  induction fields with
  | nil => rfl
  | cons field rest ih =>
    obtain ⟨k, v⟩ := field
    rw [writtenSlots, slotsOf, Keyed.get?_cons]
    split
    · cases v
      case map slots => exact slotsOfEntries_eq slots
      all_goals rfl
    · exact ih

/-- Whether the loader, wherever the value stands, puts out the nodes of the objects in it. -/
def LoadsObjects (v : Value) : Prop :=
  ∀ (fallback : Option NodeId) (naming : Naming) (part : String) (id : NodeId) (nodes : List Node),
    (∀ given, fallback = some given → given = naming.id) →
    loadNode v fallback part = .ok (id, nodes) →
    nodes = (objectsIn v naming).map NodeObject.node ∧
      ∀ fields, v = .map fields → id = (namingOf fields naming).id

/-- A run over the slots of an object finds where each of them points, and the objects in them. -/
theorem loadSlots_ok (object : NodeObject) {part : String} {slots : Value.Fields}
    (hslots : ∀ slot ∈ slots, LoadsObjects slot.2) {actions : List (String × NodeId)}
    {nodes : List Node}
    (h : loadSlots object.naming.id part
      (slots.map fun slot => ⟨slot.1, slot.2, loadNode slot.2⟩) = .ok (actions, nodes)) :
    actions = slots.filterMap
        (fun slot => (object.target? slot.1 slot.2).map (slot.1, ·)) ∧
      nodes = (slots.flatMap fun slot =>
        objectsIn slot.2 (object.naming.slot slot.1)).map NodeObject.node := by
  induction slots generalizing actions nodes with
  | nil =>
    cases h
    exact ⟨rfl, rfl⟩
  | cons slot rest ih =>
    obtain ⟨name, v⟩ := slot
    have hrest : ∀ slot ∈ rest, LoadsObjects slot.2 :=
      fun slot hmem => hslots slot (List.mem_cons_of_mem _ hmem)
    rw [List.map_cons, loadSlots.eq_def] at h
    cases v
    case null => exact ih hrest h
    case text id =>
      obtain ⟨⟨later, inner⟩, hlater, h⟩ := bind_eq_ok.1 h
      obtain ⟨rfl, rfl⟩ := ih hrest hlater
      cases h
      exact ⟨rfl, rfl⟩
    case map fields =>
      obtain ⟨⟨child, inside⟩, hchild, h⟩ := bind_eq_ok.1 h
      obtain ⟨⟨later, inner⟩, hlater, h⟩ := bind_eq_ok.1 h
      obtain ⟨rfl, rfl⟩ := ih hrest hlater
      cases h
      obtain ⟨rfl, hid⟩ := hslots _ List.mem_cons_self _ (object.naming.slot name) _ _ _
        (fun given hgiven => by rw [Naming.id_slot]; exact (Option.some.inj hgiven).symm) hchild
      constructor
      · rw [List.filterMap_cons_some (b := (name, child))]
        rw [hid fields rfl]; rfl
      · rw [List.flatMap_cons, List.map_append]
    all_goals cases h

/-- What an object puts out: its own id, and the nodes of its slots before its own. -/
theorem loadObject_ok {fields : Value.Fields} {written : List WrittenSlot}
    {fallback : Option NodeId} {naming : Naming} {part : String} {id : NodeId} {nodes : List Node}
    (hplace : ∀ given, fallback = some given → given = naming.id)
    (h : loadObject fields written fallback part = .ok (id, nodes)) :
    id = (namingOf fields naming).id ∧
      ∃ actions inner, loadSlots (namingOf fields naming).id part written = .ok (actions, inner) ∧
        nodes = inner ++ [{ NodeObject.node ⟨fields, namingOf fields naming⟩ with actions }] := by
  obtain ⟨own, hown, h⟩ := bind_eq_ok.1 h
  obtain ⟨type, htype, h⟩ := bind_eq_ok.1 h
  obtain ⟨properties, hproperties, h⟩ := bind_eq_ok.1 h
  obtain rfl := readId_ok hplace hown
  obtain rfl := readType_ok htype
  obtain rfl := readProperties_ok hproperties
  dsimp only at h
  split at h
  case h_4 => cases h
  all_goals
    obtain ⟨⟨actions, inner⟩, hslots, h⟩ := bind_eq_ok.1 h
    cases h
    exact ⟨rfl, actions, inner, hslots, rfl⟩

/-- The loader puts out the nodes of the objects in a value, children before their parent. -/
theorem loadNode_ok (v : Value) : LoadsObjects v := by
  induction v using slotInduction with
  | other v hv =>
    intro fallback naming part id nodes _ h
    cases v <;> first | cases h | cases hv
  | object fields ih =>
    intro fallback naming part id nodes hplace h
    rw [loadNode, writtenSlots_eq] at h
    obtain ⟨rfl, actions, inner, hslots, rfl⟩ := loadObject_ok hplace h
    obtain ⟨rfl, rfl⟩ := loadSlots_ok ⟨fields, namingOf fields naming⟩ ih hslots
    refine ⟨?_, fun fields' h => by cases h; rfl⟩
    rw [objectsIn_map, List.map_append]
    rfl

/-! ## What the loader stores -/

/-- The nodes of a model after the objects are stored in order. -/
def stored (objects : List NodeObject) (nodes : List (NodeId × Node)) : List (NodeId × Node) :=
  Keyed.putAll (objects.map NodeObject.entry) nodes

theorem stored_append (objects later : List NodeObject) (nodes : List (NodeId × Node)) :
    stored (objects ++ later) nodes = stored later (stored objects nodes) := by
  simp only [stored, Keyed.putAll, List.map_append, List.foldl_append]

theorem nodes_foldl_store (objects : List NodeObject) (model : Model) :
    ((objects.map NodeObject.node).foldl store model).nodes = stored objects model.nodes := by
  induction objects generalizing model with
  | nil => rfl
  | cons object rest ih => exact ih (model.store object.node)

theorem nodes_loadEntry {part : Section} {model model' : Model} {entry : Option NodeId × Value}
    (h : loadEntry part model entry.1 entry.2 = .ok model') :
    model'.nodes = stored (entryObjects entry) model.nodes := by
  obtain ⟨⟨id, nodes⟩, hload, h⟩ := bind_eq_ok.1 h
  have hplace : ∀ given, entry.1 = some given →
      given = Naming.id ⟨entry.1.getD "", []⟩ := by
    intro given hgiven
    rw [hgiven]
    rfl
  obtain ⟨rfl, -⟩ := loadNode_ok _ _ _ _ _ _ hplace hload
  cases h
  exact nodes_foldl_store _ model

/-- Steps that each store their objects store all of them in order. -/
theorem nodes_foldlM {α : Type} {step : Model → α → Except ModelError Model}
    {inside : α → List NodeObject} {as : List α}
    (hstep : ∀ a model model', step model a = .ok model' →
      model'.nodes = stored (inside a) model.nodes)
    {model model' : Model} (h : as.foldlM step model = .ok model') :
    model'.nodes = stored (as.flatMap inside) model.nodes := by
  induction as generalizing model with
  | nil =>
    cases h
    rfl
  | cons a rest ih =>
    rw [List.foldlM_cons] at h
    obtain ⟨next, hnext, hrest⟩ := bind_eq_ok.1 h
    rw [ih hrest, hstep a model next hnext, List.flatMap_cons, stored_append]

theorem nodes_loadSection {part : Section} {written : Option Value} {model model' : Model}
    (h : loadSection model part written = .ok model') :
    model'.nodes = stored ((sectionEntries written).flatMap entryObjects) model.nodes := by
  have hentries : ∀ entries : List (Option NodeId × Value),
      entries.foldlM (fun model entry => loadEntry part model entry.1 entry.2) model =
          .ok model' →
        model'.nodes = stored (entries.flatMap entryObjects) model.nodes := by
    intro entries hload
    refine nodes_foldlM ?_ hload
    exact fun entry model model' h => nodes_loadEntry h
  unfold loadSection at h
  split at h
  · cases h
    rfl
  · cases h
    rfl
  · exact hentries _ (by rw [sectionEntries, List.foldlM_map]; exact h)
  · exact hentries _ (by rw [sectionEntries, List.foldlM_map]; exact h)
  · cases h

/-- Loading a document stores the nodes of its objects one after another, and nothing else. -/
theorem nodes_ofValue {document : Value} {model : Model} (h : ofValue document = .ok model) :
    model.nodes = stored (documentObjects document) [] := by
  cases document
  case map root =>
    obtain ⟨loaded, hsections, h⟩ := bind_eq_ok.1 h
    have hnodes : loaded.nodes = stored (documentObjects (.map root)) [] := by
      rw [documentObjects, documentEntries, List.flatMap_assoc]
      refine nodes_foldlM ?_ hsections
      exact fun part model model' h => nodes_loadSection h
    have hkept : model.nodes = loaded.nodes := by
      unfold loadEnvironments at h
      split at h
      all_goals first | (cases h; rfl) | skip
      split at h <;> cases h
      rfl
    rw [hkept, hnodes]
  all_goals cases h

end Model

end Flowgraph

import Flowgraph.Proofs.Model.Objects
import Flowgraph.Proofs.Text.Search
import Flowgraph.Proofs.Value.Names
import Mathlib.Data.List.Nodup
import Mathlib.Data.List.Permutation
/-!
# The ids of the nodes of a document

A model keeps one node for each id, so it keeps a node for each object of its document just when no
two of the objects have the same id (`Model.nodes_eq_iff`). The loader does not look for that: an
id that is made of the id of the parent and the name of the slot may be one that is written
elsewhere, and a slash in the name of a slot may make it one that is made elsewhere.

Where neither is the case, distinct written ids are enough (`Unambiguous.nodup_ids`). The objects
under one written id differ in the slots that lead down to them, so no two objects have the same
naming (`nodup_namings_documentObjects`); and the last slash of an id that is made is the one
before the name of the slot, so the naming is read back off the id from its end
(`Unambiguous.naming_eq`).

Main definitions: `writtenIds`, `ParentClosed`, `Unambiguous`.
Main statements: `Model.nodes_eq_iff`, `Unambiguous.nodup_ids`, `Model.arena_exact`.
-/

namespace Flowgraph

/-! ## Written ids -/

/-- The ids that a document writes for the objects. -/
def writtenIds (objects : List NodeObject) : List NodeId :=
  (objects.filter fun object => object.naming.path = []).map fun object => object.naming.written

theorem mem_writtenIds {id : NodeId} {objects : List NodeObject} :
    id ∈ writtenIds objects ↔
      ∃ object ∈ objects, object.naming.path = [] ∧ object.naming.written = id := by
  simp only [writtenIds, List.mem_map, List.mem_filter, decide_eq_true_eq, and_assoc]

theorem id_mem_writtenIds {object : NodeObject} {objects : List NodeObject}
    (hobject : object ∈ objects) (hpath : object.naming.path = []) :
    object.naming.id ∈ writtenIds objects :=
  mem_writtenIds.2 ⟨object, hobject, hpath, (Naming.id_of_path_eq_nil hpath).symm⟩

theorem writtenIds_subset {objects later : List NodeObject} (h : objects ⊆ later) :
    writtenIds objects ⊆ writtenIds later :=
  List.map_subset _ (List.filter_subset _ h)

theorem writtenIds_append (objects later : List NodeObject) :
    writtenIds (objects ++ later) = writtenIds objects ++ writtenIds later := by
  rw [writtenIds, List.filter_append, List.map_append]
  rfl

theorem writtenIds_flatMap {α : Type} (as : List α) (inside : α → List NodeObject) :
    writtenIds (as.flatMap inside) = as.flatMap fun a => writtenIds (inside a) := by
  rw [writtenIds, List.filter_flatMap, List.map_flatMap]
  rfl

theorem writtenIds_subset_flatMap {α : Type} {as : List α} {a : α} (ha : a ∈ as)
    (inside : α → List NodeObject) : writtenIds (inside a) ⊆ writtenIds (as.flatMap inside) :=
  writtenIds_subset fun _ hobject => List.mem_flatMap.2 ⟨a, ha, hobject⟩

theorem nodup_writtenIds_of_mem {α : Type} {as : List α} {inside : α → List NodeObject}
    (h : (writtenIds (as.flatMap inside)).Nodup) {a : α} (ha : a ∈ as) :
    (writtenIds (inside a)).Nodup := by
  rw [writtenIds_flatMap, List.nodup_flatMap] at h
  exact h.1 a ha

/-! ## The namings in a node value -/

/-- An object without an id of its own is named by its place. -/
theorem namingOf_eq (fields : Value.Fields) (fallback : Naming) :
    (namingOf fields fallback).path = [] ∨ namingOf fields fallback = fallback := by
  unfold namingOf
  split
  · exact .inl rfl
  · exact .inr rfl

/-- What names an object is written in its node value, or is its place below a written id. -/
theorem written_namingOf (fields : Value.Fields) (fallback : Naming) :
    (namingOf fields fallback).written ∈ writtenIds (objectsIn (.map fields) fallback) ∨
      fallback.path ≠ [] ∧ namingOf fields fallback = fallback := by
  by_cases hpath : (namingOf fields fallback).path = []
  · exact .inl (mem_writtenIds.2 ⟨_, mem_objectsIn_map.2 (.inr rfl), hpath, rfl⟩)
  · have hplace := (namingOf_eq fields fallback).resolve_left hpath
    exact .inr ⟨hplace ▸ hpath, hplace⟩

/-- The objects in a slot are among those in the node value. -/
theorem objectsIn_slot_subset {fields : Value.Fields} {slot : String × Value}
    (h : slot ∈ slotsOf fields) (fallback : Naming) :
    objectsIn slot.2 ((namingOf fields fallback).slot slot.1) ⊆
      objectsIn (.map fields) fallback :=
  fun _ hobject => mem_objectsIn_map.2 (.inl ⟨slot, h, hobject⟩)

/-- The naming of an object starts at an id that is written in its node value, or goes on from the
naming of the place. -/
theorem written_of_mem_objectsIn {v : Value} {fallback : Naming} {object : NodeObject}
    (h : object ∈ objectsIn v fallback) :
    object.naming.written ∈ writtenIds (objectsIn v fallback) ∨
      fallback.path ≠ [] ∧ object.naming.written = fallback.written ∧
        fallback.path <+: object.naming.path := by
  induction v using slotInduction generalizing fallback with
  | other v hv =>
    rw [objectsIn_of_fields?_eq_none hv] at h
    cases h
  | object fields ih =>
    -- the naming goes on from that of the object in any case, unless it starts below
    have hfrom : object.naming.written ∈ writtenIds (objectsIn (.map fields) fallback) ∨
        object.naming.written = (namingOf fields fallback).written ∧
          (namingOf fields fallback).path <+: object.naming.path := by
      rcases mem_objectsIn_map.1 h with ⟨slot, hslot, hmem⟩ | rfl
      · rcases ih slot hslot hmem with hbelow | ⟨-, hstart, hpath⟩
        · exact .inl (writtenIds_subset (objectsIn_slot_subset hslot fallback) hbelow)
        · exact .inr ⟨hstart, (List.prefix_append _ _).trans hpath⟩
      · exact .inr ⟨rfl, List.prefix_rfl⟩
    rcases hfrom with hbelow | ⟨hstart, hpath⟩
    · exact .inl hbelow
    · rw [hstart]
      refine (written_namingOf fields fallback).imp id fun ⟨hne, hplace⟩ => ?_
      rw [hplace] at hpath ⊢
      exact ⟨hne, rfl, hpath⟩

/-! ## Slots that are named once -/

/-- The slots of an object have distinct names where its maps have, and so have the maps in them. -/
theorem namesOnce_slotsOf {fields : Value.Fields} (h : (Value.map fields).namesOnce = true) :
    (Keyed.keys (slotsOf fields)).Nodup ∧ ∀ slot ∈ slotsOf fields, slot.2.namesOnce = true := by
  unfold slotsOf
  split
  · next slots hslots =>
    exact (Value.namesOnce_map_iff slots).1
      (((Value.namesOnce_map_iff fields).1 h).2 _ (Keyed.mem_of_get? hslots))
  · exact ⟨List.nodup_nil, fun _ hslot => absurd hslot List.not_mem_nil⟩

theorem namesOnce_of_mem_documentEntries {document : Value} (h : document.namesOnce = true)
    {entry : Option NodeId × Value} (hentry : entry ∈ documentEntries document) :
    entry.2.namesOnce = true := by
  cases document
  case map root =>
    obtain ⟨part, -, hentry⟩ := List.mem_flatMap.1 hentry
    have hpart : ∀ v, Keyed.get? part.key root = some v → v.namesOnce = true :=
      fun v hv => ((Value.namesOnce_map_iff root).1 h).2 _ (Keyed.mem_of_get? hv)
    unfold sectionEntries at hentry
    split at hentry
    · next entries hentries =>
      obtain ⟨v, hv, rfl⟩ := List.mem_map.1 hentry
      exact (Value.namesOnce_list_iff entries).1 (hpart _ hentries) v hv
    · next entries hentries =>
      obtain ⟨⟨k, v⟩, hv, rfl⟩ := List.mem_map.1 hentry
      exact ((Value.namesOnce_map_iff entries).1 (hpart _ hentries)).2 _ hv
    · exact absurd hentry List.not_mem_nil
  all_goals exact absurd hentry List.not_mem_nil

/-! ## No two namings agree -/

/-- Node values in different places hold differently named objects: where both namings start at
written ids, these are distinct, and where both go on from their places, no path does so from
both. -/
theorem nodup_namings_flatMap {α : Type} {as : List α} {value : α → Value} {place : α → Naming}
    (hinside : ∀ a ∈ as, ((objectsIn (value a) (place a)).map NodeObject.naming).Nodup)
    (hwritten : (writtenIds (as.flatMap fun a => objectsIn (value a) (place a))).Nodup)
    (hplace : ∀ a ∈ as, (place a).path ≠ [] →
      (place a).written ∉ writtenIds (as.flatMap fun a => objectsIn (value a) (place a)))
    (hapart : as.Pairwise fun a b =>
      ∀ path, (place a).path <+: path → (place b).path <+: path → (place a).path = []) :
    ((as.flatMap fun a => objectsIn (value a) (place a)).map NodeObject.naming).Nodup := by
  have hsubset : ∀ a ∈ as, writtenIds (objectsIn (value a) (place a)) ⊆
      writtenIds (as.flatMap fun a => objectsIn (value a) (place a)) :=
    fun a ha => writtenIds_subset_flatMap ha fun a => objectsIn (value a) (place a)
  rw [writtenIds_flatMap, List.nodup_flatMap] at hwritten
  rw [List.map_flatMap, List.nodup_flatMap]
  refine ⟨hinside, List.Pairwise.imp_of_mem ?_ (hapart.and hwritten.2)⟩
  rintro a b ha hb ⟨hpaths, hdisjoint⟩ naming hmem hmem'
  obtain ⟨object, hobject, rfl⟩ := List.mem_map.1 hmem
  obtain ⟨object', hobject', heq⟩ := List.mem_map.1 hmem'
  have hobject' := written_of_mem_objectsIn hobject'
  rw [heq] at hobject'
  rcases written_of_mem_objectsIn hobject with h | ⟨hne, hstart, hpath⟩
  · rcases hobject' with h' | ⟨hne', hstart', -⟩
    · exact hdisjoint h h'
    · exact hplace b hb hne' (hstart' ▸ hsubset a ha h)
  · rcases hobject' with h' | ⟨-, -, hpath'⟩
    · exact hplace a ha hne (hstart ▸ hsubset b hb h')
    · exact hne (hpaths _ hpath hpath')

/-- No path goes on from two slots of one object. -/
theorem slot_inj_of_common_path {naming : Naming} {name name' : String} {path : List String}
    (h : (naming.slot name).path <+: path) (h' : (naming.slot name').path <+: path) :
    name = name' := by
  have hlength : (naming.slot name).path.length = (naming.slot name').path.length := by simp
  have hbegins := List.prefix_of_prefix_length_le h h' (Nat.le_of_eq hlength)
  exact List.singleton_inj.1 (List.append_cancel_left (hbegins.eq_of_length hlength))

/-- A written id that names the objects below an object is not written once more below it. -/
theorem written_namingOf_not_mem {fields : Value.Fields} {fallback : Naming}
    (hwritten : (writtenIds (objectsIn (.map fields) fallback)).Nodup)
    (hplace : fallback.path ≠ [] →
      fallback.written ∉ writtenIds (objectsIn (.map fields) fallback)) :
    (namingOf fields fallback).written ∉ writtenIds ((slotsOf fields).flatMap fun slot =>
      objectsIn slot.2 ((namingOf fields fallback).slot slot.1)) := by
  intro hmem
  rw [objectsIn_map, writtenIds_append] at hwritten hplace
  by_cases hpath : (namingOf fields fallback).path = []
  · have hself : (namingOf fields fallback).written ∈
        writtenIds [⟨fields, namingOf fields fallback⟩] :=
      mem_writtenIds.2 ⟨_, List.mem_singleton_self _, hpath, rfl⟩
    exact (List.nodup_append.1 hwritten).2.2 _ hmem _ hself rfl
  · have hself := (namingOf_eq fields fallback).resolve_left hpath
    rw [hself] at hpath hmem
    exact hplace hpath (List.mem_append_left _ (hself.symm ▸ hmem))

/-- The objects in a node value have distinct namings if the ids that are written in it are
distinct, and none of them is the one that its place goes on from. -/
theorem nodup_namings_objectsIn {v : Value} {fallback : Naming} (hnames : v.namesOnce = true)
    (hwritten : (writtenIds (objectsIn v fallback)).Nodup)
    (hplace : fallback.path ≠ [] → fallback.written ∉ writtenIds (objectsIn v fallback)) :
    ((objectsIn v fallback).map NodeObject.naming).Nodup := by
  induction v using slotInduction generalizing fallback with
  | other v hv =>
    rw [objectsIn_of_fields?_eq_none hv]
    exact List.nodup_nil
  | object fields ih =>
    have hbelow := written_namingOf_not_mem hwritten hplace
    rw [objectsIn_map, writtenIds_append] at hwritten
    have hwritten := (List.nodup_append.1 hwritten).1
    rw [objectsIn_map, List.map_append, List.nodup_append]
    refine ⟨nodup_namings_flatMap ?_ hwritten (fun _ _ _ => hbelow) ?_, List.nodup_singleton _, ?_⟩
    · intro slot hslot
      refine ih slot hslot ((namesOnce_slotsOf hnames).2 slot hslot)
        (nodup_writtenIds_of_mem hwritten hslot) ?_
      exact fun _ hmem => hbelow (writtenIds_subset_flatMap hslot _ hmem)
    · refine (List.pairwise_map.1 (namesOnce_slotsOf hnames).1).imp
        fun {slot slot'} hne path hpath hpath' => ?_
      exact absurd (slot_inj_of_common_path hpath hpath') hne
    · rintro naming hmem _ hself rfl
      obtain ⟨object, hobject, hnaming⟩ := List.mem_map.1 hmem
      obtain ⟨slot, hslot, hobject⟩ := List.mem_flatMap.1 hobject
      rw [List.map_singleton, List.mem_singleton] at hself
      have hfrom := written_of_mem_objectsIn hobject
      rw [hnaming, hself] at hfrom
      rcases hfrom with hstart | ⟨-, -, hpath⟩
      · exact hbelow (writtenIds_subset_flatMap hslot _ hstart)
      · exact absurd hpath.length_le (by simp)

/-- The objects of a document have distinct namings where its written ids are distinct. -/
theorem nodup_namings_documentObjects {document : Value} (hnames : document.namesOnce = true)
    (hwritten : (writtenIds (documentObjects document)).Nodup) :
    ((documentObjects document).map NodeObject.naming).Nodup := by
  refine nodup_namings_flatMap ?_ hwritten (fun _ _ hne => absurd rfl hne) ?_
  · intro entry hentry
    exact nodup_namings_objectsIn (namesOnce_of_mem_documentEntries hnames hentry)
      (nodup_writtenIds_of_mem hwritten hentry) fun hne => absurd rfl hne
  · exact List.pairwise_of_forall fun _ _ _ _ _ => rfl

/-! ## Ids read back -/

/-- Whether the parent of every object with a generated id is among the objects. -/
def ParentClosed (objects : List NodeObject) : Prop :=
  ∀ object ∈ objects, object.naming.path = [] ∨
    ∃ parent ∈ objects, ∃ name, object.naming = parent.naming.slot name

/-- The naming of an object is written, or that of the place, or that of its parent with a slot. -/
theorem parent_of_mem_objectsIn {v : Value} {fallback : Naming} {object : NodeObject}
    (h : object ∈ objectsIn v fallback) :
    object.naming.path = [] ∨ object.naming = fallback ∨
      ∃ parent ∈ objectsIn v fallback, ∃ name, object.naming = parent.naming.slot name := by
  induction v using slotInduction generalizing fallback with
  | other v hv =>
    rw [objectsIn_of_fields?_eq_none hv] at h
    cases h
  | object fields ih =>
    rcases mem_objectsIn_map.1 h with ⟨slot, hslot, hmem⟩ | rfl
    · rcases ih slot hslot hmem with hpath | hplace | ⟨parent, hparent, hname⟩
      · exact .inl hpath
      · exact .inr (.inr ⟨_, mem_objectsIn_map.2 (.inr rfl), slot.1, hplace⟩)
      · exact .inr (.inr ⟨parent, objectsIn_slot_subset hslot fallback hparent, hname⟩)
    · exact (namingOf_eq fields fallback).imp id .inl

theorem parentClosed_documentObjects (document : Value) :
    ParentClosed (documentObjects document) := by
  intro object hobject
  obtain ⟨entry, hentry, hmem⟩ := List.mem_flatMap.1 hobject
  rcases parent_of_mem_objectsIn hmem with hpath | hplace | ⟨parent, hparent, hname⟩
  · exact .inl hpath
  · exact .inl (congrArg Naming.path hplace)
  · exact .inr ⟨parent, List.mem_flatMap.2 ⟨entry, hentry, hparent⟩, hname⟩

/-- The text before the last slash and the one behind it are read back off both together. -/
theorem slash_inj {id other name label : String} (hname : '/' ∉ name.toList)
    (hlabel : '/' ∉ label.toList) (h : s!"{id}/{name}" = s!"{other}/{label}") :
    id = other ∧ name = label := by
  have htext : id.toList ++ '/' :: name.toList = other.toList ++ '/' :: label.toList := by
    simpa [toString] using congrArg String.toList h
  obtain ⟨hid, hlast⟩ := Text.append_cons_inj_of_notMem_right hname hlabel htext
  exact ⟨String.toList_inj.1 hid, String.toList_inj.1 hlast⟩

/-- What keeps the ids of objects apart: their written ids are distinct, no id that is made is
written as well, and no slot on the way down from a written id has a slash in its name. -/
structure Unambiguous (objects : List NodeObject) : Prop where
  written : (writtenIds objects).Nodup
  made : ∀ object ∈ objects, object.naming.path ≠ [] → object.naming.id ∉ writtenIds objects
  slashless : ∀ object ∈ objects, ∀ name ∈ object.naming.path, '/' ∉ name.toList

namespace Unambiguous

variable {objects : List NodeObject}

/-- The naming of an object is read back off its id. -/
theorem naming_eq (h : Unambiguous objects) (hclosed : ParentClosed objects)
    {object object' : NodeObject} (hobject : object ∈ objects) (hobject' : object' ∈ objects)
    (hid : object.naming.id = object'.naming.id) : object.naming = object'.naming := by
  rcases hclosed object hobject with hpath | ⟨parent, hparent, name, hname⟩
  · by_cases hpath' : object'.naming.path = []
    · rw [Naming.id_of_path_eq_nil hpath, Naming.id_of_path_eq_nil hpath'] at hid
      exact Naming.ext hid (hpath.trans hpath'.symm)
    · exact absurd (hid ▸ id_mem_writtenIds hobject hpath) (h.made object' hobject' hpath')
  · rcases hclosed object' hobject' with hpath' | ⟨parent', hparent', name', hname'⟩
    · refine absurd (hid ▸ id_mem_writtenIds hobject' hpath') (h.made object hobject ?_)
      rw [hname]
      exact List.append_ne_nil_of_right_ne_nil _ (List.cons_ne_nil _ _)
    · have hslash := h.slashless object hobject
      have hslash' := h.slashless object' hobject'
      rw [hname] at hslash
      rw [hname'] at hslash'
      rw [hname, hname', Naming.id_slot, Naming.id_slot] at hid
      obtain ⟨hparents, rfl⟩ := slash_inj (hslash name (by simp))
        (hslash' name' (by simp)) hid
      rw [hname, hname', naming_eq h hclosed hparent hparent' hparents]
termination_by object.naming.path.length
decreasing_by
  rw [hname]
  simp

/-- Objects with distinct namings that keep their ids apart have distinct ids. -/
theorem nodup_ids {document : Value} (h : Unambiguous (documentObjects document))
    (hnames : document.namesOnce = true) :
    ((documentObjects document).map fun object => object.naming.id).Nodup := by
  have hids : (documentObjects document).map (fun object => object.naming.id) =
      ((documentObjects document).map NodeObject.naming).map Naming.id := by
    rw [List.map_map]
    rfl
  rw [hids]
  refine List.Nodup.map_on ?_ (nodup_namings_documentObjects hnames h.written)
  intro naming hmem naming' hmem' hid
  obtain ⟨object, hobject, rfl⟩ := List.mem_map.1 hmem
  obtain ⟨object', hobject', rfl⟩ := List.mem_map.1 hmem'
  exact h.naming_eq (parentClosed_documentObjects document) hobject hobject' hid

end Unambiguous

/-! ## The arena -/

namespace Model

/-- A model has the node of every object of its document, each in its place, just when the objects
have distinct ids. -/
theorem nodes_eq_iff {document : Value} {model : Model} (h : ofValue document = .ok model) :
    model.nodes = (documentObjects document).map NodeObject.entry ↔
      ((documentObjects document).map fun object => object.naming.id).Nodup := by
  rw [nodes_ofValue h, stored, Keyed.putAll_nil_eq_self_iff, Keyed.keys, List.map_map]
  rfl

/-- Loading keeps every node object of a document as a node of its own, with the type, properties
and slots of that object, just when no two of them have the same id. They have not where the
written ids are distinct and no id that is made runs into another one. -/
theorem arena_exact {document : Value} {model : Model} (h : ofValue document = .ok model) :
    (model.nodes = (documentObjects document).map NodeObject.entry ↔
        ((documentObjects document).map fun object => object.naming.id).Nodup) ∧
      (document.namesOnce = true → Unambiguous (documentObjects document) →
        ((documentObjects document).map fun object => object.naming.id).Nodup ∧
          model.nodes = (documentObjects document).map NodeObject.entry) := by
  refine ⟨nodes_eq_iff h, fun hnames hunambiguous => ?_⟩
  have hids := hunambiguous.nodup_ids hnames
  exact ⟨hids, (nodes_eq_iff h).2 hids⟩

/-- An action that holds another one, which holds a third one under an id of its own. -/
def nested : Value :=
  .map [("actions", .map [("list", .map [("_type", .text "JsonAction"), ("actions", .map [
    ("next", .map [("_type", .text "If"), ("actions", .map [
      ("then", .map [("_id", .text "done"), ("_type", .text "JsonAction")])])]),
    ("other", .text "list")])])])]

/-- The same as a text. -/
def nestedText : String :=
  "\x7b\"actions\": \x7b\"list\": \x7b\"_type\": \"JsonAction\", \"actions\": \x7b" ++
  "\"next\": \x7b\"_type\": \"If\", \"actions\": \x7b" ++
    "\"then\": \x7b\"_id\": \"done\", \"_type\": \"JsonAction\"\x7d\x7d\x7d, " ++
  "\"other\": \"list\"\x7d\x7d\x7d\x7d"

theorem read?_nestedText : Value.read? nestedText = some nested := by cbv

theorem unambiguous_nested : Unambiguous (documentObjects nested) where
  written := by decide
  made := by decide
  slashless := by decide

/-- The nodes of a document that is read from a text, whose maps name each entry once. -/
theorem arena_exact_nested : ∃ model, Value.read? nestedText = some nested ∧
    ofValue nested = .ok model ∧ Unambiguous (documentObjects nested) ∧
    Keyed.keys model.nodes = ["done", "list/next", "list"] := by
  have hnames : nested.namesOnce = true := Value.namesOnce_of_read? read?_nestedText
  refine ⟨_, read?_nestedText, rfl, unambiguous_nested, ?_⟩
  rw [((arena_exact rfl).2 hnames unambiguous_nested).2]
  decide

/-- A node whose id is the one that is made for a node inside another. -/
def shadowing : Value :=
  .map [("actions", .list [
    .map [("_id", .text "a"), ("_type", .text "JsonAction"), ("actions", .map [
      ("x", .map [("_type", .text "If")])])],
    .map [("_id", .text "a/x"), ("_type", .text "Foreach")]])]

/-- Two nodes in different slots, one of which has a slash in its name. -/
def slashed : Value :=
  .map [("actions", .list [
    .map [("_id", .text "a"), ("_type", .text "JsonAction"), ("actions", .map [
      ("b", .map [("_type", .text "If"), ("actions", .map [
        ("c", .map [("_type", .text "Foreach")])])]),
      ("b/c", .map [("_type", .text "SwitchCase")])])]])]

/-- Distinct written ids are not enough: of two node objects with the same id one is lost. -/
theorem made_ids_collide :
    ((writtenIds (documentObjects shadowing)).Nodup ∧ ∃ model, ofValue shadowing = .ok model ∧
        model.nodes.length + 1 = (documentObjects shadowing).length) ∧
      (writtenIds (documentObjects slashed)).Nodup ∧ ∃ model, ofValue slashed = .ok model ∧
        model.nodes.length + 1 = (documentObjects slashed).length :=
  ⟨⟨by decide, _, rfl, rfl⟩, by decide, _, rfl, rfl⟩

end Model

end Flowgraph

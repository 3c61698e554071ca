import Flowgraph.Proofs.Model.Objects
/-!
# The grammar of model documents

Which documents the loader takes, said without the loader. A node is an object with a type, with
properties and with action slots, each of which may be left out or null; a slot holds nothing, the
id of a node, or a node again (`IsNode`, `IsTarget`). A section is a list of nodes with ids of their
own, or a map of nodes (`IsSection`). A document is a map of sections with a table of environments
(`IsModelDocument`).

The loader reads one field after another and gives up at the first one that it cannot read. Whether
it gets to the end does not depend on what it read before, so each reader succeeds exactly on the
shape of its own field, and a run over a list exactly where each item is taken
(`exists_foldlM_eq_ok_iff`). From the shapes of its fields follows what an object needs, by
induction down the slots what a node value needs (`Model.exists_loadNode_eq_ok_iff`), and from that
the statement on documents (`Model.exists_ofValue_eq_ok_iff`).
-/

namespace Flowgraph

/-! ## Shapes -/

namespace Value

/-- Whether a value is a text. -/
def IsText (v : Value) : Prop :=
  ∃ s, v = .text s

/-- Whether a value is a map. -/
def IsMap (v : Value) : Prop :=
  ∃ fields, v = .map fields

/-- Whether a value is a list. -/
def IsList (v : Value) : Prop :=
  ∃ items, v = .list items

/-- Whether a value is a list whose items all have a shape. -/
def IsListOf (shape : Value → Prop) (v : Value) : Prop :=
  ∃ items, v = .list items ∧ ∀ item ∈ items, shape item

end Value

open Value (IsText IsMap IsList IsListOf)

/-- Whether a field is left out or null, or has a shape. -/
def Omittable (shape : Value → Prop) (written : Option Value) : Prop :=
  ∀ v, written = some v → v = .null ∨ shape v

section Omittable

variable {shape : Value → Prop}

theorem omittable_none : Omittable shape none :=
  fun _ h => nomatch h

theorem omittable_null : Omittable shape (some .null) :=
  fun _ h => .inl (Option.some.inj h).symm

theorem omittable_some_iff {v : Value} (h : v ≠ .null) :
    Omittable shape (some v) ↔ shape v := by
  constructor
  · exact fun hv => (hv v rfl).resolve_left h
  · rintro hv _ ⟨⟩
    exact .inr hv

theorem not_omittable_some {v : Value} (hnull : v ≠ .null) (hshape : ¬shape v) :
    ¬Omittable shape (some v) :=
  fun h => hshape ((omittable_some_iff hnull).1 h)

end Omittable

/-! ## The grammar -/

/-- Whether an object has an id of its own. -/
def HasOwnId (v : Value) : Prop :=
  ∃ fields id, v = .map fields ∧ Model.aliased? fields "_id" "id" = some (.text id)

mutual

/-- The nodes of a document. -/
inductive IsNode : Value → Prop
  | object {fields : Value.Fields}
    (type : Omittable IsText (Model.aliased? fields "_type" "type"))
    (properties : Omittable IsMap (Keyed.get? "properties" fields))
    (actions : Omittable IsMap (Keyed.get? "actions" fields))
    (slots : ∀ slot ∈ slotsOf fields, IsTarget slot.2) : IsNode (.map fields)

/-- What may stand in an action slot. -/
inductive IsTarget : Value → Prop
  | null : IsTarget .null
  | id (id : NodeId) : IsTarget (.text id)
  | inline {v : Value} (node : IsNode v) : IsTarget v

end

/-- The sections of a document; only the nodes of a list need ids of their own. -/
inductive IsSection : Option Value → Prop
  | absent : IsSection none
  | null : IsSection (some .null)
  | list {entries : List Value} (nodes : ∀ v ∈ entries, IsNode v ∧ HasOwnId v) :
    IsSection (some (.list entries))
  | map {entries : Value.Fields} (nodes : ∀ entry ∈ entries, IsNode entry.2) :
    IsSection (some (.map entries))

/-- The tables of environments. -/
inductive IsEnvironmentTable : Value → Prop
  | table {fields : Value.Fields}
    (environments : Omittable (IsListOf IsText) (Keyed.get? "environments" fields))
    (keys : Omittable (IsListOf IsText) (Keyed.get? "keys" fields))
    (rows : Omittable (IsListOf IsList) (Keyed.get? "values" fields)) :
    IsEnvironmentTable (.map fields)

/-- The documents of models. -/
inductive IsModelDocument : Value → Prop
  | document {root : Value.Fields}
    (sections : ∀ part : Section, IsSection (Keyed.get? part.key root))
    (environments : Omittable IsEnvironmentTable (Keyed.get? "environmentData" root)) :
    IsModelDocument (.map root)

/-- The nodes among the maps. -/
theorem isNode_map_iff {fields : Value.Fields} :
    IsNode (.map fields) ↔
      Omittable IsText (Model.aliased? fields "_type" "type") ∧
        Omittable IsMap (Keyed.get? "properties" fields) ∧
        Omittable IsMap (Keyed.get? "actions" fields) ∧
        ∀ slot ∈ slotsOf fields, IsTarget slot.2 := by
  constructor
  · rintro ⟨type, properties, actions, slots⟩
    exact ⟨type, properties, actions, slots⟩
  · rintro ⟨type, properties, actions, slots⟩
    exact .object type properties actions slots

/-- A map in a slot is a node. -/
theorem isTarget_map_iff {fields : Value.Fields} :
    IsTarget (.map fields) ↔ IsNode (.map fields) := by
  constructor
  · intro h
    cases h with
    | inline node => exact node
  · exact .inline

/-! ## Tables of environments -/

namespace EnvironmentTable

theorem exists_readTexts_eq_ok_iff {field : String} {written : Option Value} :
    (∃ texts, readTexts field written = .ok texts) ↔ Omittable (IsListOf IsText) written := by
  unfold readTexts
  split
  · exact iff_of_true ⟨[], rfl⟩ omittable_none
  · exact iff_of_true ⟨[], rfl⟩ omittable_null
  · next items =>
    rw [exists_mapM_eq_ok_iff, omittable_some_iff (by simp)]
    constructor
    · intro h
      refine ⟨items, rfl, fun item hitem => ?_⟩
      obtain ⟨s, hs⟩ := h item hitem
      split at hs
      · exact ⟨_, rfl⟩
      · cases hs
    · rintro ⟨_, ⟨⟩, h⟩ item hitem
      obtain ⟨s, rfl⟩ := h item hitem
      exact ⟨s, rfl⟩
  · next v hnull hlist =>
    exact iff_of_false (fun ⟨_, h⟩ => nomatch h)
      (not_omittable_some hnull fun ⟨items, hitems, _⟩ => hlist items hitems)

theorem exists_readRows_eq_ok_iff {written : Option Value} :
    (∃ rows, readRows written = .ok rows) ↔ Omittable (IsListOf IsList) written := by
  unfold readRows
  split
  · exact iff_of_true ⟨[], rfl⟩ omittable_none
  · exact iff_of_true ⟨[], rfl⟩ omittable_null
  · next rows =>
    rw [exists_mapM_eq_ok_iff, omittable_some_iff (by simp)]
    constructor
    · intro h
      refine ⟨rows, rfl, fun row hrow => ?_⟩
      obtain ⟨cells, hcells⟩ := h row hrow
      split at hcells
      · exact ⟨_, rfl⟩
      · cases hcells
    · rintro ⟨_, ⟨⟩, h⟩ row hrow
      obtain ⟨cells, rfl⟩ := h row hrow
      exact ⟨cells, rfl⟩
  · next v hnull hlist =>
    exact iff_of_false (fun ⟨_, h⟩ => nomatch h)
      (not_omittable_some hnull fun ⟨items, hitems, _⟩ => hlist items hitems)

theorem exists_ofValue_eq_ok_iff {v : Value} :
    (∃ table, ofValue v = .ok table) ↔ IsEnvironmentTable v := by
  cases v
  case map fields =>
    have hfields : IsEnvironmentTable (.map fields) ↔
        Omittable (IsListOf IsText) (Keyed.get? "environments" fields) ∧
          Omittable (IsListOf IsText) (Keyed.get? "keys" fields) ∧
          Omittable (IsListOf IsList) (Keyed.get? "values" fields) :=
      ⟨fun ⟨environments, keys, rows⟩ => ⟨environments, keys, rows⟩,
        fun ⟨environments, keys, rows⟩ => .table environments keys rows⟩
    rw [hfields]
    refine exists_bind_eq_ok_iff_and exists_readTexts_eq_ok_iff fun _ _ => ?_
    refine exists_bind_eq_ok_iff_and exists_readTexts_eq_ok_iff fun _ _ => ?_
    exact exists_bind_pure_eq_ok_iff.trans exists_readRows_eq_ok_iff
  all_goals exact iff_of_false (fun ⟨_, h⟩ => nomatch h) fun h => nomatch h

end EnvironmentTable

/-! ## Nodes -/

namespace Model

/-- An id is found when the place gives one or the object has its own. -/
theorem exists_readId_eq_ok_iff {fields : Value.Fields} {fallback : Option NodeId}
    {part : String} :
    (∃ id, readId fields fallback part = .ok id) ↔ (fallback = none → HasOwnId (.map fields)) := by
  have hown : HasOwnId (.map fields) ↔
      ∃ id, (aliased? fields "_id" "id").bind Value.text? = some id := by
    constructor
    · rintro ⟨_, id, ⟨⟩, h⟩
      exact ⟨id, by rw [h]; rfl⟩
    · rintro ⟨id, h⟩
      obtain ⟨v, hv, htext⟩ := Option.bind_eq_some_iff.1 h
      cases v <;> cases htext
      exact ⟨fields, id, rfl, hv⟩
  rw [hown]
  unfold readId
  cases (aliased? fields "_id" "id").bind Value.text? with
  | some id => exact iff_of_true ⟨id, rfl⟩ fun _ => ⟨id, rfl⟩
  | none =>
    cases fallback with
    | some given => exact iff_of_true ⟨given, rfl⟩ fun h => nomatch h
    | none => exact iff_of_false (fun ⟨_, h⟩ => nomatch h) fun h => nomatch h rfl

theorem exists_readType_eq_ok_iff {fields : Value.Fields} {id : NodeId} :
    (∃ type, readType fields id = .ok type) ↔
      Omittable IsText (aliased? fields "_type" "type") := by
  unfold readType
  split
  · next type h =>
    rw [h]
    exact iff_of_true ⟨type, rfl⟩ ((omittable_some_iff (by simp)).2 ⟨type, rfl⟩)
  · next h => exact iff_of_true ⟨"", rfl⟩ (h ▸ omittable_none)
  · next h => exact iff_of_true ⟨"", rfl⟩ (h ▸ omittable_null)
  · next v htext hnull h =>
    rw [h]
    exact iff_of_false (fun ⟨_, h⟩ => nomatch h)
      (not_omittable_some hnull fun ⟨s, hs⟩ => htext s hs)

theorem exists_readProperties_eq_ok_iff {fields : Value.Fields} {id : NodeId} :
    (∃ properties, readProperties fields id = .ok properties) ↔
      Omittable IsMap (Keyed.get? "properties" fields) := by
  unfold readProperties
  split
  · next properties h =>
    rw [h]
    exact iff_of_true ⟨properties, rfl⟩ ((omittable_some_iff (by simp)).2 ⟨properties, rfl⟩)
  · next h => exact iff_of_true ⟨[], rfl⟩ (h ▸ omittable_none)
  · next h => exact iff_of_true ⟨[], rfl⟩ (h ▸ omittable_null)
  · next v hmap hnull h =>
    rw [h]
    exact iff_of_false (fun ⟨_, h⟩ => nomatch h)
      (not_omittable_some hnull fun ⟨properties, hproperties⟩ => hmap properties hproperties)

/-- Whether the loader takes a value, wherever it stands, exactly if it is a node that has an id. -/
def LoadsNodes (v : Value) : Prop :=
  ∀ (fallback : Option NodeId) (part : String),
    (∃ loaded, loadNode v fallback part = .ok loaded) ↔
      IsNode v ∧ (fallback = none → HasOwnId v)

/-- The slots of an object are loaded when each of them holds what it may. -/
theorem exists_loadSlots_eq_ok_iff {id : NodeId} {part : String} {slots : Value.Fields}
    (hslots : ∀ slot ∈ slots, LoadsNodes slot.2) :
    (∃ loaded, loadSlots id part (slots.map fun slot => ⟨slot.1, slot.2, loadNode slot.2⟩) =
        .ok loaded) ↔ ∀ slot ∈ slots, IsTarget slot.2 := by
  induction slots with
  | nil => exact iff_of_true ⟨_, rfl⟩ fun _ hslot => absurd hslot List.not_mem_nil
  | cons slot rest ih =>
    obtain ⟨name, v⟩ := slot
    have hrest := ih fun slot hmem => hslots slot (List.mem_cons_of_mem _ hmem)
    rw [List.map_cons, List.forall_mem_cons, loadSlots.eq_def]
    cases v
    case null => exact hrest.trans (and_iff_right .null).symm
    case text target =>
      exact (exists_bind_pure_eq_ok_iff.trans hrest).trans (and_iff_right (.id target)).symm
    case map fields =>
      -- An inline node has the id that the slot gives it, so it needs none of its own.
      have hinline : (∃ loaded, loadNode (.map fields) (some s!"{id}/{name}") part = .ok loaded) ↔
          IsTarget (.map fields) := by
        rw [hslots _ List.mem_cons_self, isTarget_map_iff]
        refine and_iff_left fun hnone => ?_
        cases hnone
      exact exists_bind_eq_ok_iff_and hinline fun _ _ => exists_bind_pure_eq_ok_iff.trans hrest
    all_goals
      refine iff_of_false ?_ fun h => ?_
      · rintro ⟨loaded, h⟩
        cases h
      · cases h.1 with
        | inline node => cases node

/-- An object is loaded when its fields can be read and it has an id. -/
theorem exists_loadObject_eq_ok_iff {fields : Value.Fields}
    (hslots : ∀ slot ∈ slotsOf fields, LoadsNodes slot.2) {fallback : Option NodeId}
    {part : String} :
    (∃ loaded, loadObject fields (writtenSlots fields) fallback part = .ok loaded) ↔
      IsNode (.map fields) ∧ (fallback = none → HasOwnId (.map fields)) := by
  rw [and_comm, isNode_map_iff]
  refine exists_bind_eq_ok_iff_and exists_readId_eq_ok_iff fun id _ => ?_
  refine exists_bind_eq_ok_iff_and exists_readType_eq_ok_iff fun type _ => ?_
  refine exists_bind_eq_ok_iff_and exists_readProperties_eq_ok_iff fun properties _ => ?_
  have hloaded : (∃ loaded, loadSlots id part (writtenSlots fields) = .ok loaded) ↔
      ∀ slot ∈ slotsOf fields, IsTarget slot.2 := by
    rw [writtenSlots_eq]
    exact exists_loadSlots_eq_ok_iff hslots
  dsimp only
  split
  · next h =>
    rw [h, and_iff_right omittable_none]
    exact exists_bind_pure_eq_ok_iff.trans hloaded
  · next h =>
    rw [h, and_iff_right omittable_null]
    exact exists_bind_pure_eq_ok_iff.trans hloaded
  · next slots h =>
    rw [h, and_iff_right ((omittable_some_iff (by simp)).2 ⟨slots, rfl⟩)]
    exact exists_bind_pure_eq_ok_iff.trans hloaded
  · next v hnull hmap h =>
    have hactions : ¬Omittable IsMap (some v) :=
      not_omittable_some hnull fun ⟨slots, hslots⟩ => hmap slots hslots
    rw [h]
    exact iff_of_false (fun ⟨_, h⟩ => nomatch h) fun hshape => hactions hshape.1

/-- **The loader takes the nodes that have an id**, of their own or from their place. -/
theorem exists_loadNode_eq_ok_iff (v : Value) : LoadsNodes v := by
  induction v using slotInduction with
  | object fields ih => exact fun fallback part => exists_loadObject_eq_ok_iff ih
  | other v hv =>
    intro fallback part
    refine iff_of_false (fun ⟨_, h⟩ => ?_) fun ⟨h, _⟩ => ?_
    · cases v <;> first | cases h | cases hv
    · cases h
      cases hv

/-! ## Documents -/

theorem exists_loadEntry_eq_ok_iff {part : Section} {model : Model} {fallback : Option NodeId}
    {v : Value} :
    (∃ loaded, loadEntry part model fallback v = .ok loaded) ↔
      IsNode v ∧ (fallback = none → HasOwnId v) :=
  exists_bind_pure_eq_ok_iff.trans (exists_loadNode_eq_ok_iff v fallback part.key)

theorem exists_loadSection_eq_ok_iff {part : Section} {written : Option Value} {model : Model} :
    (∃ loaded, loadSection model part written = .ok loaded) ↔ IsSection written := by
  unfold loadSection
  split
  · exact iff_of_true ⟨model, rfl⟩ .absent
  · exact iff_of_true ⟨model, rfl⟩ .null
  · next entries =>
    rw [exists_foldlM_eq_ok_iff (p := fun v => IsNode v ∧ HasOwnId v)]
    · exact ⟨.list, fun h => by cases h with | list nodes => exact nodes⟩
    · intro model v
      exact exists_loadEntry_eq_ok_iff.trans (and_congr_right' (forall_prop_of_true rfl))
  · next entries =>
    rw [exists_foldlM_eq_ok_iff (p := fun entry => IsNode entry.2)]
    · exact ⟨.map, fun h => by cases h with | map nodes => exact nodes⟩
    · exact fun model entry => exists_loadEntry_eq_ok_iff.trans (and_iff_left fun h => nomatch h)
  · next v hnull hlist hmap =>
    refine iff_of_false (fun ⟨_, h⟩ => nomatch h) fun h => ?_
    cases h with
    | null => exact hnull rfl
    | list nodes => exact hlist _ rfl
    | map nodes => exact hmap _ rfl

theorem exists_loadEnvironments_eq_ok_iff {written : Option Value} {model : Model} :
    (∃ loaded, loadEnvironments model written = .ok loaded) ↔
      Omittable IsEnvironmentTable written := by
  unfold loadEnvironments
  split
  · exact iff_of_true ⟨model, rfl⟩ omittable_none
  · exact iff_of_true ⟨model, rfl⟩ omittable_null
  · next v hnull =>
    rw [omittable_some_iff hnull, ← EnvironmentTable.exists_ofValue_eq_ok_iff]
    cases EnvironmentTable.ofValue v with
    | ok table => exact iff_of_true ⟨_, rfl⟩ ⟨table, rfl⟩
    | error reason => exact iff_of_false (fun ⟨_, h⟩ => nomatch h) fun ⟨_, h⟩ => nomatch h

/-- **The loader takes the documents of the grammar.** -/
theorem exists_ofValue_eq_ok_iff {document : Value} :
    (∃ model, ofValue document = .ok model) ↔ IsModelDocument document := by
  cases document
  case map root =>
    have hparts : IsModelDocument (.map root) ↔
        (∀ part ∈ Section.all, IsSection (Keyed.get? part.key root)) ∧
          Omittable IsEnvironmentTable (Keyed.get? "environmentData" root) := by
      constructor
      · rintro ⟨sections, environments⟩
        exact ⟨fun part _ => sections part, environments⟩
      · rintro ⟨sections, environments⟩
        refine .document (fun part => sections part ?_) environments
        cases part <;> decide
    rw [hparts]
    refine exists_bind_eq_ok_iff_and ?_ fun _ _ => exists_loadEnvironments_eq_ok_iff
    have hsection : ∀ (model : Model) (part : Section),
        (∃ loaded, loadSection model part (Keyed.get? part.key root) = .ok loaded) ↔
          IsSection (Keyed.get? part.key root) :=
      fun _ _ => exists_loadSection_eq_ok_iff
    exact exists_foldlM_eq_ok_iff hsection
  all_goals exact iff_of_false (fun ⟨_, h⟩ => nomatch h) fun h => nomatch h

end Model

end Flowgraph

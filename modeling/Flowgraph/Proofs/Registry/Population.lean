import Flowgraph.Proofs.Keyed
import Flowgraph.Registry.Populate
/-!
# What population makes of each field

Population goes through the declared fields one after another, and no field depends on another one.
This module says what each field comes to on its own (`settle`), and that population comes to that
(`get?_populateFrom`, `get?_populateFrom_of_not_mem`, `get?_populateFrom_congr`). A field that is no
action slot comes to the entry of its name read as its kind, its default standing in for a value of
another shape (`get?_populateFrom_entryReaders`).

The second half says what the getters find: any scalar (`scalar?_populateFrom`), among them truth
values, texts, integers and variants, documents as they are, a property of a registered type, such
as a condition (`ReadsCondition`), and the properties in a list.
-/

namespace Flowgraph

namespace PopulateScope

/-- A result is wrapped when there is one. -/
theorem map_eq_ok {ε α β : Type} {f : α → β} {made : Except ε α} {b : β} :
    made.map f = .ok b ↔ ∃ a, made = .ok a ∧ f a = b := by
  cases made <;> simp [Except.map]

/-! ## One field -/

/-- What reading a field's entry comes to: its value, or its default if only the shape is wrong. -/
def readOrDefault (field : FieldDescriptor) : Except PopulateError FieldValue → Option FieldValue
  | .ok v => some v
  | .error (.coercion ..) => field.default.map .scalar
  | .error _ => none

/-- What one declared field comes to. -/
def settle (entries : List (String × Reader)) (slots : Option (List (String × NodeId)))
    (field : FieldDescriptor) : Option FieldValue :=
  match field.kind with
  | .childAction => (slots.bind (Keyed.get? field.name)).map .action
  | .actionMap => some (.actions (slots.getD []))
  | kind => (Keyed.get? field.name entries).bind fun read => readOrDefault field (read kind)

/-- A bag with a field set, or left alone. -/
def setField (bag : FieldBag) (name : String) : Option FieldValue → FieldBag
  | some v => bag.insert name v
  | none => bag

theorem get?_setField_self {bag : FieldBag} {name : String} (h : bag.get? name = none)
    (v : Option FieldValue) : (setField bag name v).get? name = v := by
  cases v with
  | none => exact h
  | some v => rw [setField, FieldBag.get?_insert, if_pos rfl]

theorem settle_of_not_isActionSlot {field : FieldDescriptor}
    (h : field.kind.isActionSlot = false) (entries : List (String × Reader))
    (slots : Option (List (String × NodeId))) :
    settle entries slots field =
      (Keyed.get? field.name entries).bind fun read => readOrDefault field (read field.kind) := by
  unfold settle
  split
  · next hkind => rw [hkind] at h; cases h
  · next hkind => rw [hkind] at h; cases h
  · rfl

theorem populateField_eq (entries : List (String × Reader))
    (slots : Option (List (String × NodeId))) (bag : FieldBag) (field : FieldDescriptor) :
    populateField entries slots bag field =
      setField bag field.name (settle entries slots field) := by
  unfold populateField
  split
  · next hkind =>
    simp only [settle, hkind]
    cases slots.bind (Keyed.get? field.name) <;> rfl
  · next hkind =>
    simp only [settle, hkind]
    rfl
  · next hchild hmap =>
    have hslot : field.kind.isActionSlot = false := by
      unfold FieldKind.isActionSlot
      split
      · next hkind => exact absurd hkind hchild
      · next hkind => exact absurd hkind hmap
      · rfl
    rw [settle_of_not_isActionSlot hslot]
    cases Keyed.get? field.name entries with
    | none => rfl
    | some read =>
      rw [Option.bind_some]
      cases hread : read field.kind with
      | ok v => simp only [hread]; rfl
      | error error =>
        cases error <;> cases hdefault : field.default <;>
          simp only [hread, hdefault, readOrDefault] <;> rfl

/-! ## All fields -/

section Fields

variable {fields : List FieldDescriptor} {entries : List (String × Reader)}
  {slots : Option (List (String × NodeId))}

theorem get?_foldl_populateField_of_not_mem {name : String}
    (h : name ∉ fields.map FieldDescriptor.name) (bag : FieldBag) :
    (fields.foldl (populateField entries slots) bag).get? name = bag.get? name := by
  induction fields generalizing bag with
  | nil => rfl
  | cons field rest ih =>
    rw [List.map_cons, List.mem_cons, not_or] at h
    rw [List.foldl_cons, ih h.2, get?_populateField_of_ne (Ne.symm h.1)]

/-- A field that is not declared is not populated. -/
theorem get?_populateFrom_of_not_mem {name : String} (h : name ∉ fields.map FieldDescriptor.name)
    (owner : String) : (populateFrom fields owner entries slots).get? name = none :=
  get?_foldl_populateField_of_not_mem h ⟨owner, []⟩

/-- **Every declared field comes to what it comes to on its own.** -/
theorem get?_populateFrom {field : FieldDescriptor} (hmem : field ∈ fields)
    (hnodup : (fields.map FieldDescriptor.name).Nodup) (owner : String) :
    (populateFrom fields owner entries slots).get? field.name = settle entries slots field := by
  suffices h : ∀ bag : FieldBag, bag.get? field.name = none →
      (fields.foldl (populateField entries slots) bag).get? field.name =
        settle entries slots field from h ⟨owner, []⟩ rfl
  induction fields with
  | nil => exact absurd hmem List.not_mem_nil
  | cons first rest ih =>
    intro bag hbag
    obtain ⟨hfirst, hrest⟩ := List.nodup_cons.1 hnodup
    rw [List.foldl_cons]
    obtain rfl | hmem := List.mem_cons.1 hmem
    · rw [get?_foldl_populateField_of_not_mem hfirst, populateField_eq]
      exact get?_setField_self hbag _
    · have hne : first.name ≠ field.name := fun e => hfirst (e ▸ List.mem_map_of_mem hmem)
      exact ih hmem hrest _ (by rw [get?_populateField_of_ne hne, hbag])

/-- A field depends on the entry of its own name only. -/
theorem get?_populateFrom_congr (hnodup : (fields.map FieldDescriptor.name).Nodup)
    {entries' : List (String × Reader)} {name : String}
    (h : Keyed.get? name entries = Keyed.get? name entries') (owner : String) :
    (populateFrom fields owner entries slots).get? name =
      (populateFrom fields owner entries' slots).get? name := by
  by_cases hname : name ∈ fields.map FieldDescriptor.name
  · obtain ⟨field, hmem, rfl⟩ := List.mem_map.1 hname
    rw [get?_populateFrom hmem hnodup, get?_populateFrom hmem hnodup]
    simp only [settle, h]
  · rw [get?_populateFrom_of_not_mem hname, get?_populateFrom_of_not_mem hname]

end Fields

/-! ## Readers -/

section Readers

variable (scope : PopulateScope)

theorem entryReaders_eq (entries : Value.Fields) :
    scope.entryReaders entries = Keyed.mapValues scope.reader entries := by
  induction entries with
  | nil => rfl
  | cons entry rest ih =>
    change (entry.1, scope.reader entry.2) :: scope.entryReaders rest = _
    rw [ih]
    rfl

/-- **A declared field that is no action slot** comes to the entry of its name. -/
theorem get?_populateFrom_entryReaders {fields : List FieldDescriptor} {field : FieldDescriptor}
    (hmem : field ∈ fields) (hnodup : (fields.map FieldDescriptor.name).Nodup)
    (hslot : field.kind.isActionSlot = false) (owner : String) (entries : Value.Fields)
    (slots : Option (List (String × NodeId))) :
    (populateFrom fields owner (scope.entryReaders entries) slots).get? field.name =
      (Keyed.get? field.name entries).bind fun v =>
        readOrDefault field (scope.coerce field.kind v) := by
  rw [get?_populateFrom hmem hnodup, settle_of_not_isActionSlot hslot, entryReaders_eq,
    Keyed.get?_mapValues, Option.bind_map]
  rfl

/-- What a value comes to as a scalar. -/
theorem coerce_of_isScalar {kind : FieldKind} (h : kind.isScalar = true) (v : Value) :
    scope.coerce kind v =
      if v.isNull then .ok (.scalar .null)
      else
        match readScalar? kind v with
        | some w => .ok (.scalar w)
        | none => .error (mismatch kind.label v) := by
  cases kind with
  | json => cases h
  | map => cases h
  | capability base => cases h
  | childAction => cases h
  | actionMap => cases h
  | list inner => cases h
  | _ => cases v <;> rfl

/-- What a value comes to as a truth value. -/
theorem coerce_bool (v : Value) :
    scope.coerce .bool v =
      if v.isNull then .ok (.scalar .null)
      else
        match v.toBool? with
        | some flag => .ok (.scalar (.bool flag))
        | none => .error (mismatch FieldKind.bool.label v) := by
  cases v <;> rfl

/-- What a value comes to as it is. -/
theorem coerce_json (v : Value) : scope.coerce .json v = .ok (.scalar v) := by
  cases v <;> rfl

theorem itemReaders_eq (items : List Value) : scope.itemReaders items = items.map scope.reader := by
  induction items with
  | nil => rfl
  | cons v rest ih =>
    change scope.reader v :: scope.itemReaders rest = _
    rw [ih]
    rfl

/-- What a list comes to as a list of a kind: what those items come to that can be read. -/
theorem coerce_list (kind : FieldKind) (items : List Value) :
    scope.coerce (.list kind) (.list items) =
      .ok (.list (successes (items.map (scope.coerce kind)))) := by
  have hread : (scope.itemReaders items).map (fun read => read kind) =
      items.map (scope.coerce kind) := by
    rw [itemReaders_eq, List.map_map]
    rfl
  rw [← hread]
  rfl

/-- What a value comes to as a property of a registered type. -/
theorem coerce_capability (base : String) (v : Value) :
    scope.coerce (.capability base) v =
      if v.isNull then .error (mismatch base v)
      else (scope.parseProperty base v).map .property := by
  cases v <;> rfl

end Readers

/-! ## The getters of populated entries -/

/-- The entry that a field is read from, unless it is null. -/
def given? (entries : Value.Fields) (name : String) : Option Value :=
  (Keyed.get? name entries).filter fun v => !v.isNull

/-- A value that is not null is given. -/
theorem filter_of_not_isNull {v : Value} (h : ¬v.isNull = true) :
    (some v).filter (fun v => !v.isNull) = some v := by
  rw [Option.filter_some, Bool.eq_false_iff.2 h]
  rfl

section Getters

variable (scope : PopulateScope) {fields : List FieldDescriptor} {field : FieldDescriptor}
  (hmem : field ∈ fields) (hnodup : (fields.map FieldDescriptor.name).Nodup) (owner : String)
  (entries : Value.Fields) (slots : Option (List (String × NodeId)))

include hmem hnodup

/-- A scalar is the entry read as its kind, else the default. -/
theorem scalar?_populateFrom (hscalar : field.kind.isScalar = true) :
    (populateFrom fields owner (scope.entryReaders entries) slots).scalar? field.name =
      (given? entries field.name).bind fun v =>
        ((readScalar? field.kind v).or field.default).filter fun w => !w.isNull := by
  rw [FieldBag.scalar?, scope.get?_populateFrom_entryReaders hmem hnodup
    (FieldKind.isActionSlot_of_isScalar hscalar), given?]
  cases Keyed.get? field.name entries with
  | none => rfl
  | some v =>
    rw [Option.bind_some, scope.coerce_of_isScalar hscalar]
    by_cases hnull : v.isNull = true
    · rw [if_pos hnull, Option.filter_some, hnull]
      rfl
    · rw [if_neg hnull, filter_of_not_isNull hnull, Option.bind_some]
      cases readScalar? field.kind v with
      | none =>
        cases hdefault : field.default with
        | none => simp only [mismatch, readOrDefault, hdefault]; rfl
        | some w => simp only [mismatch, readOrDefault, hdefault]; cases w <;> rfl
      | some w => cases w <;> rfl

theorem bool?_populateFrom (hkind : field.kind = .bool) :
    (populateFrom fields owner (scope.entryReaders entries) slots).bool? field.name =
      (given? entries field.name).bind Value.toBool? := by
  have hslot : field.kind.isActionSlot = false := by rw [hkind]; rfl
  rw [FieldBag.bool?, FieldBag.scalar?,
    scope.get?_populateFrom_entryReaders hmem hnodup hslot, hkind, given?]
  cases Keyed.get? field.name entries with
  | none => rfl
  | some v =>
    rw [Option.bind_some, coerce_bool]
    cases v <;> rfl

theorem text?_populateFrom (hkind : field.kind = .text) :
    (populateFrom fields owner (scope.entryReaders entries) slots).text? field.name =
      (given? entries field.name).map Value.stringify := by
  have hscalar : field.kind.isScalar = true := by rw [hkind]; rfl
  rw [FieldBag.text?, scope.scalar?_populateFrom hmem hnodup owner entries slots hscalar, hkind,
    Option.map_bind, Option.map_eq_bind]
  rfl

theorem json?_populateFrom (hkind : field.kind = .json) :
    (populateFrom fields owner (scope.entryReaders entries) slots).json? field.name =
      given? entries field.name := by
  have hslot : field.kind.isActionSlot = false := by rw [hkind]; rfl
  rw [FieldBag.json?, scope.get?_populateFrom_entryReaders hmem hnodup hslot, hkind, given?]
  cases Keyed.get? field.name entries with
  | none => rfl
  | some v =>
    rw [Option.bind_some, coerce_json]
    rfl

/-- A property of the wanted shape needs an entry that can be parsed. -/
theorem property?_populateFrom {α : Type} (pick : PropertyValue → Option α) {base : String}
    (hkind : field.kind = .capability base) (hdefault : field.default = none) :
    (populateFrom fields owner (scope.entryReaders entries) slots).property? pick field.name =
      (given? entries field.name).bind fun v =>
        (scope.parseProperty base v).toOption.bind pick := by
  have hslot : field.kind.isActionSlot = false := by rw [hkind]; rfl
  rw [FieldBag.property?, scope.get?_populateFrom_entryReaders hmem hnodup hslot, hkind, given?]
  cases Keyed.get? field.name entries with
  | none => rfl
  | some v =>
    rw [Option.bind_some, coerce_capability]
    by_cases hnull : v.isNull = true
    · rw [if_pos hnull, Option.filter_some, hnull]
      simp only [mismatch, readOrDefault, hdefault]
      rfl
    · rw [if_neg hnull, filter_of_not_isNull hnull, Option.bind_some]
      cases hparse : scope.parseProperty base v with
      | ok made => rfl
      | error error =>
        cases error <;> simp only [Except.map, readOrDefault, hdefault] <;> rfl

/-- An integer that is found fits 32 bits. -/
theorem int?_populateFrom (hkind : field.kind = .int) (hdefault : field.default = none) :
    (populateFrom fields owner (scope.entryReaders entries) slots).int? field.name =
      (given? entries field.name).bind Value.toSigned32? := by
  have hscalar : field.kind.isScalar = true := by rw [hkind]; rfl
  rw [FieldBag.int?, scope.scalar?_populateFrom hmem hnodup owner entries slots hscalar, hkind,
    hdefault, Option.bind_assoc]
  refine congrArg _ (funext fun v => ?_)
  rw [Option.or_none]
  cases hread : v.toSigned32? with
  | none => rw [readScalar?, hread]; rfl
  | some n =>
    obtain ⟨m, hm, hwithin⟩ := Option.bind_eq_some_iff.1 hread
    obtain ⟨-, rfl⟩ := Number.within?_eq_some.1 hwithin
    rw [readScalar?, hread]
    exact Number.within?_eq_some.2 ⟨Value.isSigned64_of_toSigned64? hm, rfl⟩

/-- A variant that is found is the one that the entry names, else the default. -/
theorem variantName?_populateFrom {variants : List String}
    (hkind : field.kind = .enumeration variants) :
    (populateFrom fields owner (scope.entryReaders entries) slots).variantName? field.name =
      (given? entries field.name).bind fun v =>
        (readVariant? variants v).or (field.default.bind Value.text?) := by
  have hscalar : field.kind.isScalar = true := by rw [hkind]; rfl
  rw [FieldBag.variantName?, scope.scalar?_populateFrom hmem hnodup owner entries slots hscalar,
    hkind, Option.bind_assoc]
  refine congrArg _ (funext fun v => ?_)
  rw [readScalar?]
  cases readVariant? variants v with
  | some name => rfl
  | none =>
    cases field.default with
    | none => rfl
    | some w => cases w <;> rfl

/-- The properties in a list are those of the items that can be parsed. -/
theorem properties_populateFrom {α : Type} (pick : PropertyValue → Option α) {base : String}
    (hkind : field.kind = .list (.capability base)) {items : List Value}
    (hlist : Keyed.get? field.name entries = some (.list items)) :
    (populateFrom fields owner (scope.entryReaders entries) slots).properties pick field.name =
      items.filterMap fun v =>
        ((scope.coerce (.capability base) v).toOption.bind FieldValue.property?).bind pick := by
  have hslot : field.kind.isActionSlot = false := by rw [hkind]; rfl
  rw [FieldBag.properties, scope.get?_populateFrom_entryReaders hmem hnodup hslot, hkind, hlist,
    Option.bind_some, coerce_list]
  simp only [readOrDefault, successes, List.filterMap_map, List.filterMap_filterMap,
    Function.comp_apply, Option.bind_assoc]

end Getters

/-! ## Conditions among the entries -/

/-- Whether an entry can be parsed as a condition. -/
def ReadsCondition (scope : PopulateScope) (entries : Value.Fields) (name : String)
    (condition : Condition) : Prop :=
  ∃ v, given? entries name = some v ∧
    scope.parseProperty "Condition" v = .ok (.condition condition)

/-- The condition that an entry is parsed as. -/
def conditionAt? (scope : PopulateScope) (entries : Value.Fields) (name : String) :
    Option Condition :=
  (given? entries name).bind fun v =>
    (scope.parseProperty "Condition" v).toOption.bind PropertyValue.condition?

theorem conditionAt?_eq_some_iff {scope : PopulateScope} {entries : Value.Fields} {name : String}
    {condition : Condition} :
    scope.conditionAt? entries name = some condition ↔
      scope.ReadsCondition entries name condition := by
  unfold conditionAt? ReadsCondition
  rw [Option.bind_eq_some_iff]
  refine exists_congr fun v => and_congr_right fun _ => ?_
  cases scope.parseProperty "Condition" v with
  | error error => simp [Except.toOption]
  | ok made => cases made <;> simp [Except.toOption, PropertyValue.condition?]

/-- The conditions that an optional link allows for. -/
theorem all_conditionAt?_iff {scope : PopulateScope} {entries : Value.Fields} {name : String} :
    (scope.conditionAt? entries name).all Condition.holds = true ↔
      ∀ condition, scope.ReadsCondition entries name condition → condition.holds = true := by
  simp only [← conditionAt?_eq_some_iff]
  cases scope.conditionAt? entries name <;> simp

end PopulateScope

end Flowgraph

import Flowgraph.Proofs.Query.ByKey
import Flowgraph.Proofs.Registry.Population
import Flowgraph.Registry.Basic
/-!
# Parsed entities and their keys

An entity with a record is made of a property that names a registered entity, and its record of the
other entries of the property, each read as the kind of its declared field. So the key that the
record brings along, if it is not null, is a key of the declared kind (`keys_of_parseEntity`).

An action gets its entity from one of its populated properties, and every populated property was
parsed as a registered type (`parsed_of_populateNode`); the built-in types are the only ones that
make entities unless the host has some of its own (`OwnEntities`).
-/

namespace Flowgraph

namespace PopulateScope

/-! ## Where populated fields come from -/

section Fields

variable {fields : List FieldDescriptor} {entries : List (String × Reader)}
  {slots : Option (List (String × NodeId))} {name : String} {v : FieldValue}

theorem mem_foldl_populateField {bag : FieldBag}
    (h : (name, v) ∈ (fields.foldl (populateField entries slots) bag).values) :
    (name, v) ∈ bag.values ∨
      ∃ field ∈ fields, field.name = name ∧ settle entries slots field = some v := by
  induction fields generalizing bag with
  | nil => exact .inl h
  | cons first rest ih =>
    rcases ih h with hbag | ⟨field, hfield, hname, hsettle⟩
    · rw [populateField_eq] at hbag
      cases hfirst : settle entries slots first with
      | none =>
        rw [hfirst] at hbag
        exact .inl hbag
      | some made =>
        rw [hfirst] at hbag
        rcases Keyed.mem_put hbag with heq | hbag
        · cases heq
          exact .inr ⟨first, List.mem_cons_self, rfl, hfirst⟩
        · exact .inl hbag
    · exact .inr ⟨field, List.mem_cons_of_mem _ hfield, hname, hsettle⟩

/-- Every populated field is what a declared field of its name comes to. -/
theorem settle_of_mem_populateFrom {owner : String}
    (h : (name, v) ∈ (populateFrom fields owner entries slots).values) :
    ∃ field ∈ fields, field.name = name ∧ settle entries slots field = some v := by
  rcases mem_foldl_populateField h with h | h
  · exact absurd h List.not_mem_nil
  · exact h

end Fields

section Readers

variable {scope : PopulateScope} {kind : FieldKind} {v : Value} {made : FieldValue}

/-- A value is read with the readers of its own entries. -/
theorem exists_coerce_eq (scope : PopulateScope) (kind : FieldKind) (v : Value) :
    ∃ items, scope.coerce kind v = scope.readWith v items (scope.readersOf v) kind := by
  cases v with
  | list items => exact ⟨scope.itemReaders items, rfl⟩
  | _ => exact ⟨[], rfl⟩

/-- A value is read as a property only by parsing it as one. -/
theorem parsed_of_coerce {property : PropertyValue}
    (h : scope.coerce kind v = .ok (.property property)) :
    ∃ base, scope.parseProperty base v = .ok property := by
  obtain ⟨items, hread⟩ := exists_coerce_eq scope kind v
  rw [hread, readWith.eq_def] at h
  split at h
  · next base =>
    split at h
    · cases h
    · refine ⟨base, ?_⟩
      rw [parseProperty]
      cases hparse : scope.parseAs base v (scope.readersOf v) with
      | error error =>
        rw [hparse] at h
        cases h
      | ok parsed =>
        rw [hparse] at h
        cases h
        rfl
  · repeat' split at h
    all_goals cases h

/-- A scalar that is read as a key kind is a key of that kind. -/
theorem keys_of_readScalar? (hkind : kind ∈ FieldKind.keyKinds) {key : Value}
    (h : readScalar? kind v = some key) : kind.Keys key := by
  simp only [FieldKind.keyKinds, List.mem_cons, List.not_mem_nil, or_false] at hkind
  rcases hkind with rfl | rfl | rfl
  · obtain ⟨n, hread, rfl⟩ := Option.map_eq_some_iff.1 h
    obtain ⟨m, -, hwithin⟩ := Option.bind_eq_some_iff.1 hread
    obtain ⟨hrange, rfl⟩ := Number.within?_eq_some.1 hwithin
    refine .int ?_
    simp only [Number.isSigned32, Number.isSigned64, Bool.and_eq_true, decide_eq_true_eq]
      at hrange ⊢
    omega
  · obtain ⟨n, hread, rfl⟩ := Option.map_eq_some_iff.1 h
    exact .long (Value.isSigned64_of_toSigned64? hread)
  · cases h
    exact .text _

/-- A value is read as a key of its kind, or as null. -/
theorem keys_of_coerce (hkind : kind ∈ FieldKind.keyKinds) (h : scope.coerce kind v = .ok made) :
    made = .scalar .null ∨ ∃ key, made = .scalar key ∧ kind.Keys key := by
  have hscalar : kind.isScalar = true := by
    simp only [FieldKind.keyKinds, List.mem_cons, List.not_mem_nil, or_false] at hkind
    rcases hkind with rfl | rfl | rfl <;> rfl
  rw [scope.coerce_of_isScalar hscalar] at h
  split at h
  · cases h
    exact .inl rfl
  · split at h
    · next key hread =>
      cases h
      exact .inr ⟨key, rfl, keys_of_readScalar? hkind hread⟩
    · cases h

/-- What a field that is no action slot comes to was read as its kind, or is its default. -/
theorem coerced_of_settle {field : FieldDescriptor} (hslot : field.kind.isActionSlot = false)
    {written : Value.Fields} {slots : Option (List (String × NodeId))}
    (h : settle (scope.entryReaders written) slots field = some made) :
    (∃ v, scope.coerce field.kind v = .ok made) ∨
      ∃ v, field.default = some v ∧ made = .scalar v := by
  rw [settle_of_not_isActionSlot hslot, entryReaders_eq, Keyed.get?_mapValues] at h
  obtain ⟨read, hread, hsettled⟩ := Option.bind_eq_some_iff.1 h
  obtain ⟨v, -, rfl⟩ := Option.map_eq_some_iff.1 hread
  unfold readOrDefault at hsettled
  split at hsettled
  · next hcoerce =>
    cases hsettled
    exact .inl ⟨v, hcoerce⟩
  · obtain ⟨fallback, hdefault, rfl⟩ := Option.map_eq_some_iff.1 hsettled
    exact .inr ⟨fallback, hdefault, rfl⟩
  · cases hsettled

/-- Every populated property was parsed as one. -/
theorem parsed_of_settle {field : FieldDescriptor} {written : Value.Fields}
    {slots : Option (List (String × NodeId))} {property : PropertyValue}
    (h : settle (scope.entryReaders written) slots field = some (.property property)) :
    ∃ base v, scope.parseProperty base v = .ok property := by
  cases hslot : field.kind.isActionSlot with
  | true =>
    unfold settle at h
    split at h
    · obtain ⟨id, -, heq⟩ := Option.map_eq_some_iff.1 h
      cases heq
    · cases h
    · next hchild hmap =>
      unfold FieldKind.isActionSlot at hslot
      split at hslot
      · next hkind => exact absurd hkind hchild
      · next hkind => exact absurd hkind hmap
      · cases hslot
  | false =>
    rcases coerced_of_settle hslot h with ⟨v, hcoerce⟩ | ⟨v, -, heq⟩
    · obtain ⟨base, hparse⟩ := parsed_of_coerce hcoerce
      exact ⟨base, v, hparse⟩
    · cases heq

/-- The property that an action has in a field was parsed as one. -/
theorem parsed_of_populateNode {info : TypeInfo} {node : Node} {α : Type}
    {pick : PropertyValue → Option α} {name : String} {a : α}
    (h : (scope.populateNode info node).property? pick name = some a) :
    ∃ base v property, scope.parseProperty base v = .ok property ∧ pick property = some a := by
  unfold FieldBag.property? at h
  split at h
  · next property hget =>
    obtain ⟨field, -, -, hsettle⟩ := settle_of_mem_populateFrom (Keyed.mem_of_get? hget)
    obtain ⟨base, v, hparse⟩ := parsed_of_settle hsettle
    exact ⟨base, v, property, hparse, h⟩
  · cases h

end Readers

/-! ## Entities -/

section Entities

variable {scope : PopulateScope} {v : Value} {binding : EntityBinding}

/-- The type that a value is parsed as is a registered one. -/
theorem registered_chooseType {base : String} {registration : Registration PropertyParser}
    (h : scope.properties.get? base = some registration) (v : Value) :
    ∃ type, scope.properties.get? type = some (scope.chooseType registration v) := by
  unfold chooseType
  cases hnamed : ((typeName? v).bind scope.properties.get?).filter
      fun named => named.info.isA registration.info with
  | none => exact ⟨base, h⟩
  | some named =>
    obtain ⟨type, -, hget⟩ := Option.bind_eq_some_iff.1 (Option.filter_eq_some_iff.1 hnamed).1
    exact ⟨type, hget⟩

/-- Whether the parsers of the host make no entities but such as the built-in parser makes. -/
def OwnEntities (scope : PopulateScope) : Prop :=
  ∀ type registration parse, scope.properties.get? type = some registration →
    registration.factory = some (.host parse) → ∀ info v bag binding,
      parse info v bag = .ok (.entity binding) →
        ∃ source, scope.parseEntity source (scope.readersOf source) = .ok binding

/-- An entity that a property is parsed as is one that the built-in parser makes. -/
theorem entity_of_parseProperty (hown : scope.OwnEntities) {base : String}
    (h : scope.parseProperty base v = .ok (.entity binding)) :
    ∃ source, scope.parseEntity source (scope.readersOf source) = .ok binding := by
  unfold parseProperty parseAs at h
  cases hbase : scope.properties.get? base with
  | none => simp [hbase] at h
  | some registration =>
    obtain ⟨type, hchosen⟩ := registered_chooseType hbase v
    simp only [hbase] at h
    cases hparser : (scope.chooseType registration v).factory with
    | none => simp [hparser] at h
    | some parser =>
      simp only [hparser] at h
      cases parser with
      | entity =>
        obtain ⟨made, hparse, heq⟩ := map_eq_ok.1 h
        cases heq
        exact ⟨v, hparse⟩
      | host parse => exact hown type _ parse hchosen hparser _ _ _ _ h
      | _ =>
        obtain ⟨made, -, heq⟩ := map_eq_ok.1 h
        cases heq

/-- The entity with a record that an action has in a field is one that the built-in parser makes. -/
theorem entity_of_populateNode (hown : scope.OwnEntities) {info : TypeInfo} {node : Node}
    {name : String}
    (h : (scope.populateNode info node).property? PropertyValue.entity? name = some binding) :
    ∃ source, scope.parseEntity source (scope.readersOf source) = .ok binding := by
  obtain ⟨base, v, property, hparse, hpick⟩ := parsed_of_populateNode h
  cases property with
  | entity made =>
    cases hpick
    exact entity_of_parseProperty hown hparse
  | _ => cases hpick

/-- A parsed entity is a registered one, with the record that its other entries make. -/
theorem parseEntity_eq_ok (h : scope.parseEntity v (scope.readersOf v) = .ok binding) :
    ∃ name written, Keyed.get? name scope.entities = some binding.spec ∧
      binding.entry =
        (scope.populateMap binding.spec.schema.fields binding.spec.name written).toRecord := by
  unfold parseEntity at h
  split at h
  · next fields =>
    split at h
    · next name hname =>
      simp only [bind, Except.bind] at h
      split at h
      · cases h
      · next spec hspec =>
        unfold PopulateScope.entity? at hspec
        split at hspec
        · next hget =>
          cases hspec
          cases h
          refine ⟨name, Keyed.erase typeKey fields, hget, ?_⟩
          rw [populateMap, entryReaders_eq, ← Keyed.erase_mapValues, ← entryReaders_eq]
          rfl
        · cases hspec
    · cases h
  · cases h

/-- **The key of a parsed entity is one of its declared kind.** -/
theorem keys_of_parseEntity {kind : FieldKind}
    (h : scope.parseEntity v (scope.readersOf v) = .ok binding)
    (hkeyed : binding.spec.schema.KeyedBy kind) {key : Value}
    (hkey : binding.spec.schema.keyOf? binding.entry = some key) : kind.Keys key := by
  obtain ⟨-, written, -, hentry⟩ := parseEntity_eq_ok h
  have hnull := RecordSchema.isNull_of_keyOf? hkey
  have hget := (Option.filter_eq_some_iff.1 hkey).1
  rw [hentry, FieldBag.toRecord] at hget
  obtain ⟨⟨name, made⟩, hmem, hvalue⟩ := List.mem_filterMap.1 (Keyed.mem_of_get?_sorted hget)
  obtain ⟨w, hw, heq⟩ := Option.map_eq_some_iff.1 hvalue
  cases heq
  obtain ⟨field, hfield, hname, hsettle⟩ := settle_of_mem_populateFrom hmem
  obtain ⟨hkind, hdefault⟩ := hkeyed.plain field hfield hname
  have hslot : field.kind.isActionSlot = false := by
    have hmem := hkeyed.kind_mem
    rw [← hkind] at hmem
    simp only [FieldKind.keyKinds, List.mem_cons, List.not_mem_nil, or_false] at hmem
    rcases hmem with h | h | h <;> rw [h] <;> rfl
  rcases coerced_of_settle hslot hsettle with ⟨source, hcoerce⟩ | ⟨fallback, hsome, -⟩
  · rw [hkind] at hcoerce
    rcases keys_of_coerce hkeyed.kind_mem hcoerce with rfl | ⟨found, rfl, hfound⟩
    · cases hw
      cases hnull
    · cases hw
      exact hfound
  · rw [hdefault] at hsome
    cases hsome

end Entities

end PopulateScope

end Flowgraph

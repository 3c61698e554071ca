import Mathlib.Data.List.Induction
import Flowgraph.Proofs.Query.Coercion
import Flowgraph.Proofs.Registry.RuleDocuments
/-!
# Populating a record again

What population makes of the entries of a map can be written down as a record, and the record be
populated against the same fields. Every kind of plain data is read back from the form in which it
is stored, in lists of any depth too (`stored?_stored?_iff`), but for dates of a year that is
written with a sign. So a record of fields without defaults is what its own population makes of it,
exactly when all dates that were read have a year of four digits (`populateMap_toRecord_iff`);
a far date is dropped (`not_keepsRecords`).
-/

namespace Flowgraph

/-! ## Plain data -/

namespace FieldKind

/-- Whether the fields of a kind hold plain data, which records keep. -/
def isData : FieldKind → Bool
  | capability _ | childAction | actionMap => false
  | list inner => inner.isData
  | _ => true

/-- Whether the dates that are read from a value as a kind all have a year of four digits. -/
def HasNearDates : FieldKind → Value → Prop
  | date, v => ∀ t, v.toInstant? = some t → 0 ≤ t.date.year ∧ t.date.year ≤ 9999
  | list inner, .list items => ∀ item ∈ items, inner.HasNearDates item
  | _, _ => True

theorem hasNearDates_null (kind : FieldKind) : kind.HasNearDates .null := by
  cases kind with
  | date =>
    intro t h
    cases h
  | _ => trivial

theorem hasNearDates_date_iff {v : Value} {t : Instant} (h : v.toInstant? = some t) :
    date.HasNearDates v ↔ 0 ≤ t.date.year ∧ t.date.year ≤ 9999 :=
  readsAlike_date_iff h

theorem isActionSlot_of_isData {kind : FieldKind} (h : kind.isData = true) :
    kind.isActionSlot = false := by
  cases kind with
  | childAction => cases h
  | actionMap => cases h
  | _ => rfl

end FieldKind

theorem FieldValue.valuesOf_eq (items : List FieldValue) :
    valuesOf items = items.filterMap toValue? := by
  induction items with
  | nil => rfl
  | cons item rest ih =>
    rw [valuesOf, List.filterMap_cons, ih]
    cases item.toValue? <;> rfl

namespace Value

/-- An integer is read back from itself. -/
theorem toSigned64?_int {v : Value} {n : Int} (h : v.toSigned64? = some n) :
    (Value.int n).toSigned64? = some n :=
  Number.within?_eq_some.2 ⟨isSigned64_of_toSigned64? h, rfl⟩

/-- A point in time is read back from its written form if its year has four digits. -/
theorem toInstant?_ofInstant {v : Value} {t : Instant} (h : v.toInstant? = some t) :
    (ofInstant t).toInstant? =
      if 0 ≤ t.date.year ∧ t.date.year ≤ 9999 then some t else none :=
  Instant.read?_render (isProper_of_toInstant? h)

end Value

namespace PopulateScope

/-! ## What is stored of a value -/

section Stored

variable (scope : PopulateScope)

/-- What a record keeps of a value that is read as a kind. -/
def stored? (kind : FieldKind) (v : Value) : Option Value :=
  (scope.coerce kind v).toOption.bind FieldValue.toValue?

theorem stored?_null {kind : FieldKind} (h : kind.isData = true) :
    scope.stored? kind .null = some .null := by
  rw [stored?, coerce_null]
  · rfl
  · rintro base rfl
    cases h

theorem stored?_of_isScalar {kind : FieldKind} (h : kind.isScalar = true) {v : Value}
    (hnull : v.isNull = false) : scope.stored? kind v = readScalar? kind v := by
  rw [stored?, scope.coerce_of_isScalar h, hnull]
  cases readScalar? kind v <;> rfl

/-- A list is stored as the list of those items that are stored. -/
theorem stored?_list (inner : FieldKind) (items : List Value) :
    scope.stored? (.list inner) (.list items) =
      some (.list (items.filterMap (scope.stored? inner))) := by
  rw [stored?, coerce_list]
  change some (Value.list (FieldValue.valuesOf _)) = _
  rw [FieldValue.valuesOf_eq, successes, List.filterMap_map, List.filterMap_filterMap]
  rfl

end Stored

/-! ## Reading what is stored -/

/-- A variant is one of those that were declared. -/
theorem mem_of_readVariant? {variants : List String} {v : Value} {variant : String}
    (h : readVariant? variants v = some variant) : variant ∈ variants := by
  unfold readVariant? at h
  split at h
  · split at h
    · next hmem =>
      rw [← Option.some.inj h]
      exact List.contains_iff_mem.1 hmem
    · obtain ⟨ordinal, -, hget⟩ := Option.bind_eq_some_iff.1 h
      exact List.mem_of_getElem? hget
  · obtain ⟨ordinal, -, hget⟩ := Option.bind_eq_some_iff.1 h
    exact List.mem_of_getElem? hget

/-- A scalar is read back from what it was read as, unless it is a far date. -/
theorem readScalar?_readScalar?_iff {kind : FieldKind} (hscalar : kind.isScalar = true)
    {v w : Value} (h : readScalar? kind v = some w) :
    w.isNull = false ∧ (readScalar? kind w = some w ↔ kind.HasNearDates v) := by
  cases kind with
  | text =>
    cases h
    exact ⟨rfl, iff_of_true rfl trivial⟩
  | bool =>
    obtain ⟨flag, -, rfl⟩ := Option.map_eq_some_iff.1 h
    exact ⟨rfl, iff_of_true rfl trivial⟩
  | int =>
    obtain ⟨n, hn, rfl⟩ := Option.map_eq_some_iff.1 h
    obtain ⟨m, hm, hwithin⟩ := Option.bind_eq_some_iff.1 hn
    obtain ⟨-, rfl⟩ := Number.within?_eq_some.1 hwithin
    refine ⟨rfl, iff_of_true ?_ trivial⟩
    rw [readScalar?, Value.toSigned32?, Value.toSigned64?_int hm, Option.bind_some, hwithin]
    rfl
  | long =>
    obtain ⟨n, hn, rfl⟩ := Option.map_eq_some_iff.1 h
    refine ⟨rfl, iff_of_true ?_ trivial⟩
    rw [readScalar?, Value.toSigned64?_int hn]
    rfl
  | decimal =>
    obtain ⟨x, -, rfl⟩ := Option.map_eq_some_iff.1 h
    exact ⟨rfl, iff_of_true rfl trivial⟩
  | date =>
    obtain ⟨t, ht, rfl⟩ := Option.map_eq_some_iff.1 h
    refine ⟨rfl, ?_⟩
    rw [FieldKind.hasNearDates_date_iff ht, readScalar?, Value.toInstant?_ofInstant ht]
    split
    · next hyear => exact iff_of_true rfl hyear
    · next hsigned => exact iff_of_false (Option.some_ne_none _).symm hsigned
  | enumeration variants =>
    obtain ⟨variant, hvariant, rfl⟩ := Option.map_eq_some_iff.1 h
    refine ⟨rfl, iff_of_true ?_ trivial⟩
    rw [readScalar?, readVariant?_of_mem (mem_of_readVariant? hvariant), Option.map_some]
  | json => cases hscalar
  | map => cases hscalar
  | capability base => cases hscalar
  | childAction => cases hscalar
  | actionMap => cases hscalar
  | list inner => cases hscalar

section Again

variable {scope : PopulateScope} {kind : FieldKind} {v w : Value}

/-- A scalar is stored again as it is, unless it is a far date. -/
theorem stored?_stored?_iff_of_isScalar (hscalar : kind.isScalar = true)
    (h : scope.stored? kind v = some w) :
    scope.stored? kind w = some w ↔ kind.HasNearDates v := by
  have hdata : kind.isData = true := by
    cases kind <;> first | rfl | cases hscalar
  cases hnull : v.isNull with
  | true =>
    obtain rfl := (Value.isNull_iff v).1 hnull
    rw [stored?_null scope hdata] at h
    cases h
    exact iff_of_true (stored?_null scope hdata) kind.hasNearDates_null
  | false =>
    rw [stored?_of_isScalar scope hscalar hnull] at h
    obtain ⟨hfilled, hagain⟩ := readScalar?_readScalar?_iff hscalar h
    rw [stored?_of_isScalar scope hscalar hfilled, hagain]

/-- No date is read from a value that is not stored. -/
theorem hasNearDates_of_stored?_eq_none (h : scope.stored? kind v = none) :
    kind.HasNearDates v := by
  cases kind with
  | date =>
    intro t ht
    have hnull : v.isNull = false := by
      cases v <;> first | rfl | cases ht
    rw [stored?_of_isScalar scope rfl hnull, readScalar?, ht] at h
    cases h
  | list inner =>
    cases v with
    | list items =>
      rw [stored?_list] at h
      cases h
    | _ => trivial
  | _ => trivial

/-- The items of a list are stored again as they are if each of them is. -/
theorem filterMap_stored?_iff
    (hitem : ∀ {item w}, scope.stored? kind item = some w →
      (scope.stored? kind w = some w ↔ kind.HasNearDates item)) (items : List Value) :
    (items.filterMap (scope.stored? kind)).filterMap (scope.stored? kind) =
        items.filterMap (scope.stored? kind) ↔
      ∀ item ∈ items, kind.HasNearDates item := by
  have hself (ws : List Value) :
      ws.filterMap (scope.stored? kind) = ws ↔ ∀ w ∈ ws, scope.stored? kind w = some w := by
    have h := @List.filterMap_eq_map_iff_forall_eq_some _ _ (scope.stored? kind) id ws
    rwa [List.map_id] at h
  rw [hself]
  constructor
  · intro h item hmem
    cases hstored : scope.stored? kind item with
    | none => exact hasNearDates_of_stored?_eq_none hstored
    | some w => exact (hitem hstored).1 (h w (List.mem_filterMap.2 ⟨item, hmem, hstored⟩))
  · intro h w hw
    obtain ⟨item, hmem, hstored⟩ := List.mem_filterMap.1 hw
    exact (hitem hstored).2 (h item hmem)

/-- **What is stored of a value is stored again as it is**, unless it has a far date in it. -/
theorem stored?_stored?_iff (hdata : kind.isData = true) (h : scope.stored? kind v = some w) :
    scope.stored? kind w = some w ↔ kind.HasNearDates v := by
  -- By induction on the kind: only lists have parts, which are stored one by one.
  induction kind generalizing v w with
  | list inner ih =>
    cases v with
    | null =>
      cases h
      exact iff_of_true rfl trivial
    | list items =>
      rw [stored?_list] at h
      cases h
      rw [stored?_list, Option.some.injEq, Value.list.injEq]
      exact filterMap_stored?_iff (ih hdata) items
    | _ => cases h
  | json =>
    rw [stored?, coerce_json] at h
    cases h
    rw [stored?, coerce_json]
    exact iff_of_true rfl trivial
  | map =>
    cases v with
    | null =>
      cases h
      exact iff_of_true rfl trivial
    | map entries =>
      cases h
      exact iff_of_true rfl trivial
    | _ => cases h
  | capability base => cases hdata
  | childAction => cases hdata
  | actionMap => cases hdata
  | _ => exact stored?_stored?_iff_of_isScalar rfl h

end Again

/-! ## Records of populated fields -/

section Records

variable {fields : List FieldDescriptor}

/-- What is made of each field, under the names of the fields. -/
def named {α : Type} (fields : List FieldDescriptor) (make : FieldDescriptor → Option α) :
    List (String × α) :=
  fields.filterMap fun field => (make field).map fun a => (field.name, a)

theorem keys_named_sublist {α : Type} (fields : List FieldDescriptor)
    (make : FieldDescriptor → Option α) :
    (Keyed.keys (named fields make)).Sublist (fields.map FieldDescriptor.name) := by
  induction fields with
  | nil => exact .slnil
  | cons field rest ih =>
    rw [named, List.filterMap_cons]
    cases make field with
    | none => exact ih.cons _
    | some a => exact ih.cons_cons _

theorem named_congr {α : Type} {make make' : FieldDescriptor → Option α}
    (h : ∀ field ∈ fields, make field = make' field) : named fields make = named fields make' :=
  List.filterMap_congr fun field hmem => by rw [h field hmem]

theorem get?_named {α : Type} {make : FieldDescriptor → Option α}
    (hnodup : (fields.map FieldDescriptor.name).Nodup) {field : FieldDescriptor}
    (hmem : field ∈ fields) : Keyed.get? field.name (named fields make) = make field := by
  induction fields with
  | nil => exact absurd hmem List.not_mem_nil
  | cons first rest ih =>
    obtain ⟨hfirst, hrest⟩ := List.nodup_cons.1 hnodup
    rw [named, List.filterMap_cons]
    obtain rfl | hmem := List.mem_cons.1 hmem
    · cases hmake : make field with
      | none =>
        exact Keyed.get?_eq_none_of_not_mem_keys fun h => hfirst ((keys_named_sublist ..).subset h)
      | some a => rw [Option.map_some, Keyed.get?_cons, if_pos rfl]
    · have hne : first.name ≠ field.name := fun e => hfirst (e ▸ List.mem_map_of_mem hmem)
      cases make first with
      | none => exact ih hrest hmem
      | some a =>
        rw [Option.map_some, Keyed.get?_cons, if_neg hne]
        exact ih hrest hmem

/-- Sorting what is made of the fields leaves it under their names. -/
theorem get?_sorted_named {α : Type} {make : FieldDescriptor → Option α}
    (hnodup : (fields.map FieldDescriptor.name).Nodup) {field : FieldDescriptor}
    (hmem : field ∈ fields) :
    Keyed.get? field.name (Keyed.sorted (named fields make)) = make field := by
  rw [Keyed.get?_sorted ((keys_named_sublist ..).nodup hnodup), get?_named hnodup hmem]

/-- The populated fields are what each declared field comes to, in the order of declaration. -/
theorem values_populateFrom (hnodup : (fields.map FieldDescriptor.name).Nodup) (owner : String)
    (entries : List (String × Reader)) (slots : Option (List (String × NodeId))) :
    (populateFrom fields owner entries slots).values = named fields (settle entries slots) := by
  induction fields using List.reverseRecOn with
  | nil => rfl
  | append_singleton fields last ih =>
    rw [List.map_append, List.map_singleton, List.nodup_append] at hnodup
    obtain ⟨hnodup, -, hnew⟩ := hnodup
    have hlast : last.name ∉ Keyed.keys (populateFrom fields owner entries slots).values := by
      rw [ih hnodup]
      exact fun h => hnew _ ((keys_named_sublist ..).subset h) _ (List.mem_singleton_self _) rfl
    have hstep : populateFrom (fields ++ [last]) owner entries slots =
        populateField entries slots (populateFrom fields owner entries slots) last :=
      List.foldl_append
    rw [hstep, populateField_eq, named, List.filterMap_append, ← named, ← ih hnodup,
      List.filterMap_cons]
    cases settle entries slots last with
    | none => exact (List.append_nil _).symm
    | some v => exact Keyed.put_of_not_mem_keys hlast v

/-- What a field without a default comes to is stored as its entry is. -/
theorem bind_toValue?_settle (scope : PopulateScope) {field : FieldDescriptor}
    (hdata : field.kind.isData = true) (hdefault : field.default = none) (entries : Value.Fields)
    (slots : Option (List (String × NodeId))) :
    (settle (scope.entryReaders entries) slots field).bind FieldValue.toValue? =
      (Keyed.get? field.name entries).bind (scope.stored? field.kind) := by
  have hread (v : Value) : readOrDefault field (scope.coerce field.kind v) =
      (scope.coerce field.kind v).toOption := by
    cases scope.coerce field.kind v with
    | ok made => rfl
    | error error => cases error <;> simp only [readOrDefault, hdefault] <;> rfl
  rw [settle_of_not_isActionSlot (FieldKind.isActionSlot_of_isData hdata), entryReaders_eq,
    Keyed.get?_mapValues, Option.bind_map, Option.bind_assoc]
  refine congrArg _ (funext fun v => ?_)
  rw [stored?, ← hread]
  rfl

/-- A record of data without defaults holds what is stored of the entry of each field. -/
theorem toRecord_populateMap (scope : PopulateScope)
    (hnodup : (fields.map FieldDescriptor.name).Nodup)
    (hdata : ∀ field ∈ fields, field.kind.isData = true)
    (hdefault : ∀ field ∈ fields, field.default = none) (owner : String) (entries : Value.Fields) :
    (scope.populateMap fields owner entries).toRecord = Keyed.sorted (named fields fun field =>
      (Keyed.get? field.name entries).bind (scope.stored? field.kind)) := by
  have hrecord (bag : FieldBag) : bag.toRecord = Keyed.sorted (bag.values.filterMap fun entry =>
      entry.2.toValue?.map fun v => (entry.1, v)) := rfl
  have hstored : (named fields (settle (scope.entryReaders entries) none)).filterMap
      (fun entry => entry.2.toValue?.map fun v => (entry.1, v)) = named fields fun field =>
        (settle (scope.entryReaders entries) none field).bind FieldValue.toValue? := by
    rw [named, List.filterMap_filterMap]
    refine List.filterMap_congr fun field _ => ?_
    rw [Option.bind_map, Option.map_bind]
    rfl
  rw [hrecord, populateMap, values_populateFrom hnodup, hstored]
  exact congrArg Keyed.sorted (named_congr fun field hmem =>
    scope.bind_toValue?_settle (hdata field hmem) (hdefault field hmem) entries none)

/-- An entry is stored again as it is exactly when it has no far dates. -/
theorem bind_stored?_eq_self_iff (scope : PopulateScope) {kind : FieldKind}
    (hdata : kind.isData = true) (entry : Option Value) :
    (entry.bind (scope.stored? kind)).bind (scope.stored? kind) =
        entry.bind (scope.stored? kind) ↔
      ∀ v, entry = some v → kind.HasNearDates v := by
  cases entry with
  | none => exact iff_of_true rfl nofun
  | some v =>
    have hentry : (∀ v', some v = some v' → kind.HasNearDates v') ↔ kind.HasNearDates v :=
      ⟨fun h => h v rfl, fun h v' heq => Option.some.inj heq ▸ h⟩
    rw [hentry, Option.bind_some]
    cases hstored : scope.stored? kind v with
    | none => exact iff_of_true rfl (hasNearDates_of_stored?_eq_none hstored)
    | some w => exact stored?_stored?_iff hdata hstored

/-- **A record is populated as it is exactly when no date in it is far.** A date that was written
down is read back as the instant that it was written for exactly when it is near. -/
theorem populateMap_toRecord_iff (scope : PopulateScope)
    (hnodup : (fields.map FieldDescriptor.name).Nodup)
    (hdata : ∀ field ∈ fields, field.kind.isData = true)
    (hdefault : ∀ field ∈ fields, field.default = none) (owner owner' : String)
    (entries : Value.Fields) :
    let record := (scope.populateMap fields owner entries).toRecord
    ((scope.populateMap fields owner' record).toRecord = record ↔
      ∀ field ∈ fields, ∀ v, Keyed.get? field.name entries = some v →
        field.kind.HasNearDates v) ∧
    ∀ (v : Value) (t : Instant), v.toInstant? = some t →
      ((Value.ofInstant t).toInstant? = some t ↔ 0 ≤ t.date.year ∧ t.date.year ≤ 9999) := by
  intro record
  have hrecord : record = Keyed.sorted (named fields fun field =>
      (Keyed.get? field.name entries).bind (scope.stored? field.kind)) :=
    scope.toRecord_populateMap hnodup hdata hdefault owner entries
  have hagain : (scope.populateMap fields owner' record).toRecord =
      Keyed.sorted (named fields fun field =>
        ((Keyed.get? field.name entries).bind (scope.stored? field.kind)).bind
          (scope.stored? field.kind)) := by
    rw [scope.toRecord_populateMap hnodup hdata hdefault, hrecord]
    exact congrArg Keyed.sorted (named_congr fun field hmem => by
      rw [get?_sorted_named hnodup hmem])
  constructor
  · rw [hagain, hrecord]
    constructor
    · intro hsame field hmem
      refine (scope.bind_stored?_eq_self_iff (hdata field hmem) _).1 ?_
      have hlooked := congrArg (Keyed.get? field.name) hsame
      rwa [get?_sorted_named hnodup hmem, get?_sorted_named hnodup hmem] at hlooked
    · intro hnear
      exact congrArg Keyed.sorted (named_congr fun field hmem =>
        (scope.bind_stored?_eq_self_iff (hdata field hmem) _).2 (hnear field hmem))
  · intro v t ht
    rw [Value.toInstant?_ofInstant ht]
    split
    · next hnear => exact iff_of_true rfl hnear
    · next hfar => exact iff_of_false (Option.some_ne_none t).symm hfar

end Records

/-! ### Visits -/

open FilterRule (bareScope)

/-- Visits with their time, and the days on which they were moved. -/
def visitFields : List FieldDescriptor :=
  [.plain "time" .date, .plain "moved" (.list .date)]

/-- A visit in a leap second, moved to the last second that has a year of four digits. -/
def leapVisit : Value.Fields :=
  [("time", .text "2016-12-31T23:59:60.5Z"), ("moved", .list [.int 253402300799, .text "soon"])]

/-- The record of a visit in a leap second is populated as it is. -/
theorem populateMap_leapVisit :
    let record := (bareScope.populateMap visitFields "Visit" leapVisit).toRecord
    (visitFields.map FieldDescriptor.name).Nodup ∧
      (∀ field ∈ visitFields, field.kind.isData = true) ∧
      (∀ field ∈ visitFields, field.default = none) ∧
      record = [("moved", .list [.text "9999-12-31T23:59:59+00:00"]),
        ("time", .text "2016-12-31T23:59:60.500+00:00")] ∧
      (bareScope.populateMap visitFields "Visit" record).toRecord = record := by
  have hnodup : (visitFields.map FieldDescriptor.name).Nodup := by decide
  have hdata : ∀ field ∈ visitFields, field.kind.isData = true := by decide
  have hdefault : ∀ field ∈ visitFields, field.default = none := by
    simp [visitFields, FieldDescriptor.plain]
  have hleap : (Value.text "2016-12-31T23:59:60.5Z").toInstant? =
      some ⟨⟨2016, 12, 31, by decide⟩, 86399, 1500000000⟩ := by decide +kernel
  have hlast : (Value.int 253402300799).toInstant? =
      some ⟨⟨9999, 12, 31, by decide⟩, 86399, 0⟩ := by rfl
  have hsoon : (Value.text "soon").toInstant? = none := by rfl
  have htime : bareScope.stored? .date (.text "2016-12-31T23:59:60.5Z") =
      some (.text "2016-12-31T23:59:60.500+00:00") := by
    rw [stored?_of_isScalar _ rfl rfl, readScalar?, hleap]
    rfl
  have hmoved : bareScope.stored? (.list .date) (.list [.int 253402300799, .text "soon"]) =
      some (.list [.text "9999-12-31T23:59:59+00:00"]) := by rfl
  refine ⟨hnodup, hdata, hdefault, ?_, ?_⟩
  · rw [bareScope.toRecord_populateMap hnodup hdata hdefault]
    simp only [named, visitFields, leapVisit, FieldDescriptor.plain, List.filterMap_cons,
      Keyed.get?_cons, String.reduceEq, if_true, if_false, Option.bind_some, htime, hmoved]
    rfl
  · refine (bareScope.populateMap_toRecord_iff hnodup hdata hdefault _ _ _).1.2 ?_
    refine List.forall_mem_cons.2 ⟨fun v hv => ?_, List.forall_mem_singleton.2 fun v hv => ?_⟩
    · cases hv
      exact (FieldKind.hasNearDates_date_iff hleap).2 (by decide)
    · cases hv
      refine List.forall_mem_cons.2 ⟨?_, List.forall_mem_singleton.2 fun t ht => ?_⟩
      · exact (FieldKind.hasNearDates_date_iff hlast).2 (by decide)
      · cases hsoon.symm.trans ht

/-- Whether every record of plain data without defaults is populated as it is. -/
def KeepsRecords : Prop :=
  ∀ (scope : PopulateScope) (fields : List FieldDescriptor) (owner : String)
    (entries : Value.Fields),
    (fields.map FieldDescriptor.name).Nodup → (∀ field ∈ fields, field.kind.isData = true) →
    (∀ field ∈ fields, field.default = none) →
    (scope.populateMap fields owner
        (scope.populateMap fields owner entries).toRecord).toRecord =
      (scope.populateMap fields owner entries).toRecord

/-- **A far date is dropped.** A visit in the first second of the year 10000 is stored with a time,
and the time is gone when the record is populated. -/
theorem not_keepsRecords : ¬KeepsRecords := by
  intro h
  have hkept := h bareScope [.plain "time" .date] "Visit" [("time", .int 253402300800)]
    (by decide) (by decide) (by simp [FieldDescriptor.plain])
  have hstored : (bareScope.populateMap [.plain "time" .date] "Visit"
      [("time", .int 253402300800)]).toRecord =
        [("time", .text "+10000-01-01T00:00:00+00:00")] := by rfl
  have hdropped : (bareScope.populateMap [.plain "time" .date] "Visit"
      [("time", .text "+10000-01-01T00:00:00+00:00")]).toRecord = [] := by rfl
  rw [hstored, hdropped] at hkept
  cases hkept

end PopulateScope

end Flowgraph

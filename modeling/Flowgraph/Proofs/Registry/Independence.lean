import Flowgraph.Proofs.Registry.Entities
import Flowgraph.Proofs.Registry.Subtypes
/-!
# Fields are populated independently

Each declared field is read from the property of its own name, or from the action slots, and from
nothing else. So two nodes that agree on what a field is read from have the same field
(`AgreeOn`), and a property that cannot be read costs its own field alone. A map inside a property
is populated as a node without slots is, and a list keeps every item that can be read; so what
cannot be read inside a property, at any depth, makes no difference to the rest of it
(`coerce_eq_of_pruned`). `populatesIndependently` puts all of this together.
-/

namespace Flowgraph

/-- Whether the values of a parser are made of populated fields alone. -/
def PropertyParser.ReadsFields : PropertyParser → Prop
  | entity | entitySelect | requestSpec => False
  | host parse => ∀ info v v' bag, parse info v bag = parse info v' bag
  | _ => True

namespace PopulateScope

/-! ## All fields at once -/

section Fields

variable {fields : List FieldDescriptor} {entries entries' : List (String × Reader)}
  {slots slots' : Option (List (String × NodeId))}

/-- Populated fields are the same where each declared field comes to the same. -/
theorem populateFrom_congr
    (h : ∀ field ∈ fields, settle entries slots field = settle entries' slots' field)
    (owner : String) :
    populateFrom fields owner entries slots = populateFrom fields owner entries' slots' := by
  unfold populateFrom
  refine List.foldl_ext _ _ _ fun bag field hmem => ?_
  rw [populateField_eq, populateField_eq, h field hmem]

/-- Only declared fields are populated. -/
theorem keys_populateFrom_subset (fields : List FieldDescriptor) (owner : String)
    (entries : List (String × Reader)) (slots : Option (List (String × NodeId))) :
    Keyed.keys (populateFrom fields owner entries slots).values ⊆
      fields.map FieldDescriptor.name := by
  intro name hname
  obtain ⟨⟨name, v⟩, hmem, rfl⟩ := List.mem_map.1 hname
  obtain ⟨field, hfield, rfl, -⟩ := settle_of_mem_populateFrom hmem
  exact List.mem_map_of_mem hfield

/-- No slots are as good as none. -/
theorem settle_no_slots (entries : List (String × Reader)) (field : FieldDescriptor) :
    settle entries (some []) field = settle entries none field := by
  unfold settle
  split <;> rfl

end Fields

variable {scope : PopulateScope}

/-- What a field that is no action slot comes to among some entries. -/
def readAmong (scope : PopulateScope) (entries : Value.Fields) (field : FieldDescriptor) :
    Option FieldValue :=
  (Keyed.get? field.name entries).bind fun v => readOrDefault field (scope.coerce field.kind v)

theorem readAmong_congr {field : FieldDescriptor} {entries entries' : Value.Fields}
    (h : Keyed.get? field.name entries = Keyed.get? field.name entries') :
    scope.readAmong entries field = scope.readAmong entries' field := by
  rw [readAmong, readAmong, h]

/-- What a field comes to depends on what is read for it alone. -/
theorem settle_entryReaders_congr {field : FieldDescriptor} {entries entries' : Value.Fields}
    (h : scope.readAmong entries field = scope.readAmong entries' field)
    (slots : Option (List (String × NodeId))) :
    settle (scope.entryReaders entries) slots field =
      settle (scope.entryReaders entries') slots field := by
  cases hslot : field.kind.isActionSlot with
  | true =>
    unfold FieldKind.isActionSlot at hslot
    split at hslot
    · next hkind => simp only [settle, hkind]
    · next hkind => simp only [settle, hkind]
    · cases hslot
  | false =>
    rw [settle_of_not_isActionSlot hslot, settle_of_not_isActionSlot hslot, entryReaders_eq,
      entryReaders_eq, Keyed.get?_mapValues, Keyed.get?_mapValues, Option.bind_map,
      Option.bind_map]
    exact h

/-! ## Properties that are made of fields -/

/-- Whether a value is parsed, as a property of the type `base`, from the fields of a type alone. -/
structure MadeOf (scope : PopulateScope) (base : String) (v : Value) (info : TypeInfo) : Prop where
  parsed : ∃ registration parser, scope.properties.get? base = some registration ∧
    scope.chooseType registration v = ⟨info, some parser⟩ ∧ parser.ReadsFields
  nodup : (info.fields.map FieldDescriptor.name).Nodup

theorem parseWith_congr {parser : PropertyParser} (hparser : parser.ReadsFields) {info : TypeInfo}
    {v v' : Value} {entries entries' : List (String × Reader)}
    (h : populateEntries info v entries = populateEntries info v' entries') :
    scope.parseWith parser info v entries = scope.parseWith parser info v' entries' := by
  cases parser with
  | entity => exact hparser.elim
  | entitySelect => exact hparser.elim
  | requestSpec => exact hparser.elim
  | host parse => exact (hparser info v v' _).trans (congrArg (parse info v') h)
  | _ => simp only [parseWith, h]

theorem chooseType_congr {v v' : Value} (h : typeName? v = typeName? v')
    (registration : Registration PropertyParser) :
    scope.chooseType registration v = scope.chooseType registration v' := by
  simp only [chooseType, h]

section MadeOf

variable {base : String} {entries entries' : Value.Fields} {info : TypeInfo}
  (hmade : scope.MadeOf base (.map entries) info)

include hmade

/-- A property that is made of fields is the same where the same is read for each of the fields. -/
theorem coerce_capability_congr
    (htype : Keyed.get? typeKey entries = Keyed.get? typeKey entries')
    (hread : ∀ field ∈ info.fields,
      scope.readAmong entries field = scope.readAmong entries' field) :
    scope.coerce (.capability base) (.map entries) =
      scope.coerce (.capability base) (.map entries') := by
  obtain ⟨registration, parser, hbase, hchosen, hparser⟩ := hmade.parsed
  have htypeName : typeName? (.map entries) = typeName? (.map entries') :=
    congrArg (Option.bind · Value.text?) htype
  have hchosen' := (chooseType_congr htypeName registration).symm.trans hchosen
  have hfields : populateEntries info (.map entries) (scope.readersOf (.map entries)) =
      populateEntries info (.map entries') (scope.readersOf (.map entries')) :=
    congrArg Except.ok (populateFrom_congr
      (fun field hfield => settle_entryReaders_congr (hread field hfield) none) info.name)
  have hparsed : scope.parseProperty base (.map entries) =
      scope.parseProperty base (.map entries') := by
    rw [parseProperty_eq hbase, parseProperty_eq hbase, hchosen, hchosen']
    exact parseWith_congr hparser hfields
  rw [coerce_capability, coerce_capability, hparsed]
  rfl

/-- An entry for which nothing is read makes no difference. -/
theorem coerce_erase {name : String} (htype : name ≠ typeKey)
    (hnone : ∀ field ∈ info.fields, field.name = name → scope.readAmong entries field = none) :
    scope.coerce (.capability base) (.map entries) =
      scope.coerce (.capability base) (.map (Keyed.erase name entries)) := by
  refine coerce_capability_congr hmade ?_ fun field hfield => ?_
  · rw [Keyed.get?_erase, if_neg htype]
  · by_cases hname : field.name = name
    · rw [hnone field hfield hname, readAmong, hname, Keyed.get?_erase, if_pos rfl]
      rfl
    · exact readAmong_congr (by rw [Keyed.get?_erase, if_neg (Ne.symm hname)])

/-- An entry may be replaced by one for which the same is read. -/
theorem coerce_put {field : FieldDescriptor} {v : Value} (htype : field.name ≠ typeKey)
    (hfield : field ∈ info.fields)
    (hsame : scope.readAmong entries field = readOrDefault field (scope.coerce field.kind v)) :
    scope.coerce (.capability base) (.map entries) =
      scope.coerce (.capability base) (.map (Keyed.put field.name v entries)) := by
  refine coerce_capability_congr hmade ?_ fun other hother => ?_
  · rw [Keyed.get?_put, if_neg htype]
  · by_cases hname : field.name = other.name
    -- No other field has this name, so the entry is read as this kind alone.
    · obtain rfl := List.inj_on_of_nodup_map hmade.nodup hfield hother hname
      rw [hsame, readAmong, Keyed.get?_put, if_pos rfl]
      rfl
    · exact readAmong_congr (by rw [Keyed.get?_put, if_neg hname])

end MadeOf

/-! ## What cannot be read inside a value -/

/-- One value is another one without one part that cannot be read as part of a kind: an item of a
list, or an entry of a property that is made of fields, at any depth. -/
inductive Pruned (scope : PopulateScope) : FieldKind → Value → Value → Prop where
  /-- An item that cannot be read is gone. -/
  | unreadItem {inner : FieldKind} {item : Value} {error : PopulateError}
      (before after : List Value) (h : scope.coerce inner item = .error error) :
      Pruned scope (.list inner) (.list (before ++ item :: after)) (.list (before ++ after))
  /-- An entry is gone that no field is declared for. -/
  | undeclared {base name : String} {info : TypeInfo} {entries : Value.Fields}
      (hmade : scope.MadeOf base (.map entries) info) (htype : name ≠ typeKey)
      (hname : name ∉ info.fields.map FieldDescriptor.name) :
      Pruned scope (.capability base) (.map entries) (.map (Keyed.erase name entries))
  /-- An entry is gone that cannot be read as its field, and nothing stands in for it. -/
  | unreadEntry {base : String} {info : TypeInfo} {entries : Value.Fields} {v : Value}
      {field : FieldDescriptor} {error : PopulateError}
      (hmade : scope.MadeOf base (.map entries) info) (htype : field.name ≠ typeKey)
      (hfield : field ∈ info.fields) (hget : Keyed.get? field.name entries = some v)
      (h : scope.coerce field.kind v = .error error)
      (hnone : readOrDefault field (.error error) = none) :
      Pruned scope (.capability base) (.map entries) (.map (Keyed.erase field.name entries))
  /-- An entry that has the wrong shape is gone, and the default stands in its place. -/
  | defaulted {base expected text : String} {info : TypeInfo} {entries : Value.Fields}
      {v fallback : Value} {field : FieldDescriptor}
      (hmade : scope.MadeOf base (.map entries) info) (htype : field.name ≠ typeKey)
      (hfield : field ∈ info.fields) (hget : Keyed.get? field.name entries = some v)
      (h : scope.coerce field.kind v = .error (.coercion expected text))
      (hdefault : field.default = some fallback)
      (hread : scope.coerce field.kind fallback = .ok (.scalar fallback)) :
      Pruned scope (.capability base) (.map entries)
        (.map (Keyed.put field.name fallback entries))
  /-- A part of an item is gone. -/
  | item {inner : FieldKind} {v v' : Value} (before after : List Value)
      (h : Pruned scope inner v v') :
      Pruned scope (.list inner) (.list (before ++ v :: after)) (.list (before ++ v' :: after))
  /-- A part of an entry is gone. -/
  | entry {base : String} {info : TypeInfo} {entries : Value.Fields} {v v' : Value}
      {field : FieldDescriptor} (hmade : scope.MadeOf base (.map entries) info)
      (htype : field.name ≠ typeKey) (hfield : field ∈ info.fields)
      (hget : Keyed.get? field.name entries = some v) (h : Pruned scope field.kind v v') :
      Pruned scope (.capability base) (.map entries) (.map (Keyed.put field.name v' entries))

/-- **What cannot be read inside a value makes no difference to what the value is read as**, at any
depth. -/
theorem coerce_eq_of_pruned {kind : FieldKind} {v v' : Value} (h : scope.Pruned kind v v') :
    scope.coerce kind v = scope.coerce kind v' := by
  -- By induction on the depth of the part: further inside, what is around it is read as before.
  induction h with
  | unreadItem before after h =>
    rw [coerce_list, coerce_list, List.map_append, List.map_append, List.map_cons, h]
    simp only [successes, List.filterMap_append, List.filterMap_cons, Except.toOption]
  | undeclared hmade htype hname =>
    refine coerce_erase hmade htype fun field hfield heq => ?_
    exact absurd (heq ▸ List.mem_map_of_mem hfield) hname
  | @unreadEntry base info entries v field error hmade htype hfield hget h hnone =>
    refine coerce_erase hmade htype fun other hother heq => ?_
    obtain rfl := List.inj_on_of_nodup_map hmade.nodup hother hfield heq
    rw [readAmong, hget, Option.bind_some, h, hnone]
  | @defaulted base expected text info entries v fallback field hmade htype hfield hget h hdefault
      hread =>
    refine coerce_put hmade htype hfield ?_
    rw [readAmong, hget, Option.bind_some, h, hread]
    exact congrArg (Option.map FieldValue.scalar) hdefault
  | item before after h ih => simp only [coerce_list, List.map_append, List.map_cons, ih]
  | entry hmade htype hfield hget h ih =>
    refine coerce_put hmade htype hfield ?_
    rw [readAmong, hget, Option.bind_some, ih]

/-! ## Nodes -/

/-- Whether two nodes agree on what a field is read from: its slot, all slots, or its property. -/
def AgreeOn (field : FieldDescriptor) (node node' : Node) : Prop :=
  match field.kind with
  | .childAction => Keyed.get? field.name node.actions = Keyed.get? field.name node'.actions
  | .actionMap => node.actions = node'.actions
  | _ => Keyed.get? field.name node.properties = Keyed.get? field.name node'.properties

/-- Some entries as the properties of a node without slots. -/
def slotless (owner : String) (entries : Value.Fields) : Node :=
  { id := owner, type := owner, properties := entries }

/-- Fields that are populated independently of each other. -/
structure PopulatesIndependently (scope : PopulateScope) (info : TypeInfo) : Prop where
  /-- A field is the same in two nodes that agree on what it is read from. -/
  agreeing : ∀ field ∈ info.fields, ∀ node node', AgreeOn field node node' →
    (scope.populateNode info node).get? field.name =
      (scope.populateNode info node').get? field.name
  /-- Nor does the order of the slots matter to what is found among them. -/
  slots : ∀ field ∈ info.fields, field.kind = .actionMap → ∀ node node' : Node,
    (∀ slot, Keyed.get? slot node.actions = Keyed.get? slot node'.actions) →
      ∀ slot, Keyed.get? slot ((scope.populateNode info node).actions field.name) =
        Keyed.get? slot ((scope.populateNode info node').actions field.name)
  /-- Only declared fields are populated. -/
  declared : ∀ node, Keyed.keys (scope.populateNode info node).values ⊆
    info.fields.map FieldDescriptor.name
  /-- A property of the wrong shape leaves its field at the default, and one that cannot be read
  for another reason leaves it absent. -/
  failed : ∀ field ∈ info.fields, field.kind.isActionSlot = false → ∀ (node : Node) v error,
    Keyed.get? field.name node.properties = some v → scope.coerce field.kind v = .error error →
      (scope.populateNode info node).get? field.name =
        match error with
        | .coercion .. => field.default.map .scalar
        | _ => none
  /-- Whatever becomes of the property of a field, the other fields stay as they are. -/
  others : ∀ (node : Node) (entries : Value.Fields) name,
    (∀ other, other ≠ name → Keyed.get? other entries = Keyed.get? other node.properties) →
      ∀ other, other ≠ name →
        (scope.populateNode info { node with properties := entries }).get? other =
          (scope.populateNode info node).get? other
  /-- Entries alone are populated as a node without slots is. -/
  entries : ∀ owner entries,
    scope.populateMap info.fields owner entries = scope.populateNode info (slotless owner entries)
  /-- So is a map inside a property. -/
  nested : ∀ entries, scope.populateValue info (.map entries) =
    .ok (scope.populateNode info (slotless info.name entries))
  /-- A list keeps the items that can be read. -/
  items : ∀ kind items, scope.coerce (.list kind) (.list items) =
    .ok (.list (items.filterMap fun item => (scope.coerce kind item).toOption))
  /-- What cannot be read inside a property, at any depth, makes no difference. -/
  pruned : ∀ field ∈ info.fields, ∀ (node : Node) v v',
    Keyed.get? field.name node.properties = some v → scope.Pruned field.kind v v' →
      scope.populateNode info
          { node with properties := Keyed.put field.name v' node.properties } =
        scope.populateNode info node

/-- Nodes are populated alike where the same is read for each field. -/
theorem populateNode_congr {info : TypeInfo} (node : Node) {entries : Value.Fields}
    (h : ∀ field ∈ info.fields, scope.readAmong entries field =
      scope.readAmong node.properties field) :
    scope.populateNode info { node with properties := entries } = scope.populateNode info node :=
  populateFrom_congr (fun field hfield => settle_entryReaders_congr (h field hfield) _) node.id

theorem settle_congr_of_agreeOn {field : FieldDescriptor} {node node' : Node}
    (h : AgreeOn field node node') :
    settle (scope.entryReaders node.properties) (some node.actions) field =
      settle (scope.entryReaders node'.properties) (some node'.actions) field := by
  cases hkind : field.kind with
  | childAction =>
    simp only [AgreeOn, hkind] at h
    simp only [settle, hkind, Option.bind_some, h]
  | actionMap =>
    simp only [AgreeOn, hkind] at h
    simp only [settle, hkind, h]
  | _ =>
    simp only [AgreeOn, hkind] at h
    simp only [settle, hkind, entryReaders_eq, Keyed.get?_mapValues, h]

/-- Entries alone are populated as the properties of a node without slots are. -/
theorem populateMap_eq (info : TypeInfo) (owner : String) (entries : Value.Fields) :
    scope.populateMap info.fields owner entries =
      scope.populateNode info (slotless owner entries) :=
  populateFrom_congr (fun field _ => (settle_no_slots _ field).symm) owner

/-- **Fields are populated independently.** -/
theorem populatesIndependently (registry : Registry) (model : Model) {info : TypeInfo}
    (hnodup : (info.fields.map FieldDescriptor.name).Nodup) :
    PopulatesIndependently (registry.scope model) info where
  agreeing := by
    intro field hfield node node' hagree
    rw [populateNode, populateNode, get?_populateFrom hfield hnodup,
      get?_populateFrom hfield hnodup, settle_congr_of_agreeOn hagree]
  slots := by
    intro field hfield hkind node node' hslots slot
    have hactions (node : Node) :
        ((registry.scope model).populateNode info node).actions field.name = node.actions := by
      rw [FieldBag.actions, populateNode, get?_populateFrom hfield hnodup, settle, hkind]
      rfl
    rw [hactions, hactions, hslots]
  declared := fun node => keys_populateFrom_subset ..
  failed := by
    intro field hfield hslot node v error hget herror
    rw [populateNode, get?_populateFrom_entryReaders _ hfield hnodup hslot, hget,
      Option.bind_some, herror]
    cases error <;> rfl
  others := by
    intro node entries name hsame other hother
    refine get?_populateFrom_congr hnodup ?_ node.id
    rw [entryReaders_eq, entryReaders_eq, Keyed.get?_mapValues, Keyed.get?_mapValues,
      hsame other hother]
  entries := populateMap_eq info
  nested := fun entries => congrArg Except.ok (populateMap_eq info info.name entries)
  items := by
    intro kind items
    rw [coerce_list, successes, List.filterMap_map]
    rfl
  pruned := by
    intro field hfield node v v' hget hpruned
    refine populateNode_congr node fun other hother => ?_
    by_cases hname : field.name = other.name
    · obtain rfl := List.inj_on_of_nodup_map hnodup hfield hother hname
      rw [readAmong, readAmong, Keyed.get?_put, if_pos rfl, hget, Option.bind_some,
        Option.bind_some, coerce_eq_of_pruned hpruned]
    · exact readAmong_congr (by rw [Keyed.get?_put, if_neg hname])

/-! ### Surveys -/

/-- The rules of a survey. -/
def surveyRules : FieldDescriptor := .plain "rules" (.capability "RuleSet")

/-- How many answers a survey needs. -/
def surveyAnswers : FieldDescriptor := (FieldDescriptor.plain "answers" .int).withDefault (.int 5)

/-- What comes after a survey. -/
def surveyNext : FieldDescriptor := .plain "next" .childAction

/-- Surveys. -/
def surveyType : TypeInfo :=
  ⟨"Survey", "host::Survey", [], false, [surveyRules, surveyAnswers, surveyNext]⟩

/-- Rules with the given filters. -/
def rulesWith (filters : List Value) : Value := .map [("filters", .list filters)]

/-- A filter by age. -/
def byAge : Value := .map [("attribute", .text "age")]

/-- A survey that needs a number of answers that is none, with a filter that is none. -/
def vagueSurvey : Node where
  id := "survey"
  type := "Survey"
  properties := [("answers", .text "many"), ("rules", rulesWith [.text "adults", byAge])]
  actions := [("next", "thanks")]

/-- In a vague survey the default stands in for the number of answers, what comes next is as in any
other node with that slot, and the filters are those that can be read. -/
theorem populatesIndependently_vagueSurvey :
    let scope := Registry.builtins.scope .empty
    let fields := scope.populateNode surveyType vagueSurvey
    (surveyType.fields.map FieldDescriptor.name).Nodup ∧
      fields.get? "answers" = some (.scalar (.int 5)) ∧
      fields.get? "next" = (scope.populateNode surveyType
        { slotless "poll" [] with actions := [("next", "thanks")] }).get? "next" ∧
      scope.populateNode surveyType { vagueSurvey with
        properties := [("answers", .text "many"), ("rules", rulesWith [byAge])] } = fields := by
  intro scope fields
  have hnodup : (surveyType.fields.map FieldDescriptor.name).Nodup := by decide
  have hindependent := populatesIndependently Registry.builtins .empty hnodup
  have hrules : surveyRules ∈ surveyType.fields := .head _
  have hanswers : surveyAnswers ∈ surveyType.fields := .tail _ (.head _)
  have hnext : surveyNext ∈ surveyType.fields := .tail _ (.tail _ (.head _))
  have hmade : scope.MadeOf "RuleSet" (rulesWith [.text "adults", byAge]) PropertyTypes.ruleSet :=
    ⟨⟨⟨PropertyTypes.ruleSet, some .ruleSet⟩, .ruleSet, rfl, rfl, trivial⟩, by decide⟩
  have hunread : scope.coerce (.capability "FilterRule") (.text "adults") =
      .error (mismatch "FilterRule" (.text "adults")) := rfl
  have hpruned : scope.Pruned surveyRules.kind (rulesWith [.text "adults", byAge])
      (rulesWith [byAge]) := by
    have hfilters : FieldDescriptor.plain "filters" (.list (.capability "FilterRule")) ∈
        PropertyTypes.ruleSet.fields := .head _
    exact .entry hmade (by decide) hfilters rfl (.unreadItem [] [byAge] hunread)
  refine ⟨hnodup, ?_, ?_, ?_⟩
  · exact hindependent.failed surveyAnswers hanswers rfl vagueSurvey (.text "many") _ rfl rfl
  · exact hindependent.agreeing surveyNext hnext _ _ rfl
  · exact hindependent.pruned surveyRules hrules vagueSurvey _ _ rfl hpruned

end PopulateScope

end Flowgraph

import Flowgraph.Model.Basic
import Flowgraph.Registry.Catalog
import Flowgraph.Registry.FieldBag
import Flowgraph.Value.Merge
/-!
# Population

Population reads the written properties and action slots of a node, or the entries of a property,
as the declared fields of a type. It never fails as a whole: a field that cannot be read is left
out, or set to its default when only its shape is wrong, and every other field is still read.

`PopulateScope.reader` maps each value to what it is as any kind of field. It is recursive in the
value alone, so a property inside a property is read by the reader of the smaller value.

Main definitions: `PopulateError`, `PropertyParser`, `PopulateScope`, `PopulateScope.coerce`,
`PopulateScope.populateNode`, `PopulateScope.parseProperty`.
Main statements: `coerce_null`, `get?_populateField_of_ne`.
-/

namespace Flowgraph

/-- Why a value cannot be read as a field. -/
inductive PopulateError where
  /-- The value has another shape. -/
  | coercion (expected value : String)
  | unknownType (name : String)
  | abstractType (name : String)
  /-- Action slots belong to nodes alone. -/
  | unsupportedKind (label : String)
  | invalid (reason : String)

/-- The message of an error. -/
def PopulateError.message : PopulateError → String
  | coercion expected value => s!"cannot read {value} as {expected}"
  | unknownType name => s!"unknown property type '{name}'"
  | abstractType name =>
    s!"property type '{name}' is abstract and the value does not name a concrete subtype"
  | unsupportedKind label =>
    s!"{label} fields cannot be nested inside lists or property values"
  | invalid reason => reason

/-- How the values of a property type are parsed. -/
inductive PropertyParser where
  | operatorCondition
  | nullOrEmpty
  | filterRule
  | orderRule
  | ruleSet
  | entity
  | entitySelect
  | requestSpec
  /-- A parser of the host: it sees the type, the value, and the fields of the type that the value
  holds if it is a map. -/
  | host (parse : TypeInfo → Value → Except PopulateError FieldBag →
      Except PopulateError PropertyValue)

/-- What population looks at besides the value: the property types, the entities and the model. -/
structure PopulateScope where
  properties : Catalog PropertyParser
  entities : List (String × EntitySpec)
  model : Model

/-- The entry of a property that names its type. -/
def typeKey : String := "_type"

namespace PopulateScope

/-- What one value is as a field of any kind. -/
abbrev Reader := FieldKind → Except PopulateError FieldValue

/-! ## Populating fields from readers -/

/-- Reads one declared field from the readers of the written entries and from the action slots. -/
def populateField (entries : List (String × Reader)) (slots : Option (List (String × NodeId)))
    (bag : FieldBag) (field : FieldDescriptor) : FieldBag :=
  match field.kind with
  | .childAction =>
    match slots.bind (Keyed.get? field.name) with
    | some id => bag.insert field.name (.action id)
    | none => bag
  | .actionMap => bag.insert field.name (.actions (slots.getD []))
  | kind =>
    match Keyed.get? field.name entries with
    | none => bag
    | some read =>
      match read kind, field.default with
      | .ok v, _ => bag.insert field.name v
      | .error (.coercion ..), some v => bag.insert field.name (.scalar v)
      | .error _, _ => bag

/-- Reads declared fields one after another. -/
def populateFrom (fields : List FieldDescriptor) (owner : String)
    (entries : List (String × Reader)) (slots : Option (List (String × NodeId))) : FieldBag :=
  fields.foldl (populateField entries slots) ⟨owner, []⟩

/-- A field settles its own name alone. -/
theorem get?_populateField_of_ne {entries : List (String × Reader)}
    {slots : Option (List (String × NodeId))} {bag : FieldBag} {field : FieldDescriptor}
    {name : String} (h : field.name ≠ name) :
    (populateField entries slots bag field).get? name = bag.get? name := by
  simp only [populateField]
  split
  · split <;> simp [FieldBag.get?_insert, h]
  · simp [FieldBag.get?_insert, h]
  · split
    · rfl
    · split <;> simp [FieldBag.get?_insert, h]

/-! ## Parsing properties -/

/-- The error of a value of another shape. -/
def mismatch (expected : String) (v : Value) : PopulateError :=
  .coercion expected v.render

/-- The name under `_type` of a map. -/
def typeName? (v : Value) : Option String :=
  (v.field? typeKey).bind Value.text?

/-- The fields of a type in a value, which must be a map. -/
def populateEntries (info : TypeInfo) (v : Value) (entries : List (String × Reader)) :
    Except PopulateError FieldBag :=
  match v with
  | .map _ => .ok (populateFrom info.fields info.name entries none)
  | _ => .error (mismatch info.name v)

/-- The entity of a name. -/
def entity? (scope : PopulateScope) (name : String) : Except PopulateError EntitySpec :=
  match Keyed.get? name scope.entities with
  | some spec => .ok spec
  | none => .error (.invalid (RegistryError.unknownEntity name).message)

/-- A condition with the links of its fields. -/
def linkedCondition (bag : FieldBag) (test : Test) : PropertyValue :=
  .condition (.mk test (bag.property? PropertyValue.condition? "and")
    (bag.property? PropertyValue.condition? "or"))

/-- A comparison from its fields. -/
def parseOperatorCondition (bag : FieldBag) : PropertyValue :=
  linkedCondition bag <|
    .comparison ((bag.json? "left").getD .null)
      ((bag.variantName? "operator").bind Operator.ofName?)
      ((bag.json? "right").getD .null)

/-- A test for emptiness from its fields. -/
def parseNullOrEmpty (bag : FieldBag) : PropertyValue :=
  linkedCondition bag (.emptiness ((bag.json? "value").getD .null) ((bag.bool? "not").getD false))

/-- A filter rule from its fields. -/
def parseFilterRule (bag : FieldBag) : FilterRule where
  attr := bag.text? "attribute"
  type := (bag.variantName? "type").bind FilterType.ofName?
  value := (bag.json? "value").getD .null
  ignoreIfEmpty := (bag.bool? "ignoreIfEmpty").getD false

/-- An order rule from its fields. -/
def parseOrderRule (bag : FieldBag) : OrderRule where
  attr := bag.text? "attribute"
  direction := ((bag.variantName? "direction").bind SortDirection.ofName?).getD .ascending

/-- A rule set from its fields. -/
def parseRuleSet (bag : FieldBag) : RuleSet where
  filters := bag.properties PropertyValue.filterRule? "filters"
  sorts := bag.properties PropertyValue.orderRule? "sorts"
  page := bag.int? "page"
  pageSize := bag.int? "pageSize"

/-- An entity with the record that the other entries of the map make. -/
def parseEntity (scope : PopulateScope) (v : Value) (entries : List (String × Reader)) :
    Except PopulateError EntityBinding :=
  match v with
  | .map fields =>
    match typeName? v with
    | some name => do
      let spec ← scope.entity? name
      let bag := populateFrom spec.schema.fields spec.name (Keyed.erase typeKey entries) none
      return ⟨spec, Keyed.erase typeKey fields, bag.toRecord⟩
    | none => .error (.invalid "entity value does not name an entity in '_type'")
  | _ => .error (mismatch "Entity" v)

/-- An entity by its name, alone or under `_type`. -/
def parseEntitySelect (scope : PopulateScope) (v : Value) : Except PopulateError EntitySpec :=
  match v with
  | .text name => scope.entity? name
  | .map _ =>
    match typeName? v with
    | some name => scope.entity? name
    | none => .error (.invalid "entity selection does not name an entity in '_type'")
  | _ => .error (mismatch "EntitySelect" v)

/-- The properties of a type node of the model. -/
def typeProperties (scope : PopulateScope) (id : NodeId) : Except PopulateError Value.Fields :=
  match scope.model.member? .types id with
  | some node => .ok node.properties
  | none => .error (.invalid s!"request type '{id}' is not defined in the model")

/-- A request: the properties of the type node that the map names, with the other entries of the
map merged over them. -/
def parseRequestSpec (scope : PopulateScope) (v : Value) : Except PopulateError RequestSpec :=
  match v with
  | .map overrides => do
    let typeId := typeName? v
    let properties ← match typeId with
      | some id => scope.typeProperties id
      | none => .ok []
    return ⟨typeId, Keyed.erase typeKey (Value.merge properties overrides)⟩
  | _ => .error (mismatch "RequestSpec" v)

/-- Parses a value of a property type, given the readers of the value's entries. -/
def parseWith (scope : PopulateScope) (parser : PropertyParser) (info : TypeInfo) (v : Value)
    (entries : List (String × Reader)) : Except PopulateError PropertyValue :=
  match parser with
  | .operatorCondition => (populateEntries info v entries).map parseOperatorCondition
  | .nullOrEmpty => (populateEntries info v entries).map parseNullOrEmpty
  | .filterRule => (populateEntries info v entries).map fun bag => .filterRule (parseFilterRule bag)
  | .orderRule => (populateEntries info v entries).map fun bag => .orderRule (parseOrderRule bag)
  | .ruleSet => (populateEntries info v entries).map fun bag => .ruleSet (parseRuleSet bag)
  | .entity => (scope.parseEntity v entries).map .entity
  | .entitySelect => (scope.parseEntitySelect v).map .entitySelect
  | .requestSpec => (scope.parseRequestSpec v).map .request
  | .host parse => parse info v (populateEntries info v entries)

/-- The registered type that a value is parsed as: the subtype of `base` that it names, else
`base` itself. -/
def chooseType (scope : PopulateScope) (base : Registration PropertyParser) (v : Value) :
    Registration PropertyParser :=
  (((typeName? v).bind scope.properties.get?).filter
    fun named => named.info.isA base.info).getD base

/-- Parses a value as a property of the type `base`, given the readers of its entries. -/
def parseAs (scope : PopulateScope) (base : String) (v : Value) (entries : List (String × Reader)) :
    Except PopulateError PropertyValue :=
  match scope.properties.get? base with
  | none => .error (.unknownType base)
  | some registration =>
    let chosen := scope.chooseType registration v
    match chosen.factory with
    | some parser => scope.parseWith parser chosen.info v entries
    | none => .error (.abstractType chosen.info.name)

/-! ## Reading values -/

/-- The variant that a value names, by its exact name or its ordinal. -/
def readVariant? (variants : List String) : Value → Option String
  | .text s =>
    if variants.contains s then some s
    else (Number.readUnsigned? (Text.trimBoth s.toList)).bind fun ordinal => variants[ordinal]?
  | v => v.unsigned64?.bind fun ordinal => variants[ordinal]?

/-- A value that is not null as a scalar of a kind. -/
def readScalar? (kind : FieldKind) (v : Value) : Option Value :=
  match kind with
  | .text => some (.text v.stringify)
  | .bool => v.toBool?.map .bool
  | .int => v.toSigned32?.map .int
  | .long => v.toSigned64?.map .int
  | .decimal => v.toDecimal?.map .float
  | .date => v.toInstant?.map .ofInstant
  | .enumeration variants => (readVariant? variants v).map .text
  | .json => some v
  | .map => v.fields?.map .map
  | _ => none

/-- The values among some results. -/
def successes {ε α : Type} (results : List (Except ε α)) : List α :=
  results.filterMap Except.toOption

/-- A value as a field of a kind, given the readers of its items and of its entries. Null is null
as every kind but a property. -/
def readWith (scope : PopulateScope) (v : Value) (items : List Reader)
    (entries : List (String × Reader)) (kind : FieldKind) : Except PopulateError FieldValue :=
  match kind with
  | .capability base =>
    if v.isNull then .error (mismatch kind.label v)
    else (scope.parseAs base v entries).map .property
  | kind =>
    if v.isNull then .ok (.scalar .null)
    else
      match kind with
      | .list inner =>
        match v with
        | .list _ => .ok (.list (successes (items.map fun read => read inner)))
        | _ => .error (mismatch kind.label v)
      | .childAction | .actionMap => .error (.unsupportedKind kind.label)
      | kind =>
        match readScalar? kind v with
        | some v => .ok (.scalar v)
        | none => .error (mismatch kind.label v)

mutual

/-- What a value is as a field of any kind. -/
def reader (scope : PopulateScope) : Value → Reader
  | .list items => scope.readWith (.list items) (itemReaders scope items) []
  | .map fields => scope.readWith (.map fields) [] (entryReaders scope fields)
  | v => scope.readWith v [] []

/-- The readers of the items of a list. -/
def itemReaders (scope : PopulateScope) : List Value → List Reader
  | [] => []
  | v :: rest => reader scope v :: itemReaders scope rest

/-- The readers of the entries of a map by name. -/
def entryReaders (scope : PopulateScope) : List (String × Value) → List (String × Reader)
  | [] => []
  | (k, v) :: rest => (k, reader scope v) :: entryReaders scope rest

end

/-- A value as a field of a kind. -/
def coerce (scope : PopulateScope) (kind : FieldKind) (v : Value) :
    Except PopulateError FieldValue :=
  scope.reader v kind

/-- The declared fields among the entries of a map. -/
def populateMap (scope : PopulateScope) (fields : List FieldDescriptor) (owner : String)
    (entries : Value.Fields) : FieldBag :=
  populateFrom fields owner (scope.entryReaders entries) none

/-- The declared fields of a type in the properties and action slots of a node. -/
def populateNode (scope : PopulateScope) (info : TypeInfo) (node : Node) : FieldBag :=
  populateFrom info.fields node.id (scope.entryReaders node.properties) (some node.actions)

/-- The readers of the entries of a value; only maps have entries. -/
def readersOf (scope : PopulateScope) : Value → List (String × Reader)
  | .map fields => scope.entryReaders fields
  | _ => []

/-- The declared fields of a type in a property, which must be a map. -/
def populateValue (scope : PopulateScope) (info : TypeInfo) (v : Value) :
    Except PopulateError FieldBag :=
  populateEntries info v (scope.readersOf v)

/-- A value as a property of the type `base`. -/
def parseProperty (scope : PopulateScope) (base : String) (v : Value) :
    Except PopulateError PropertyValue :=
  scope.parseAs base v (scope.readersOf v)

/-- Null is null as every kind of scalar. -/
theorem coerce_null {scope : PopulateScope} {kind : FieldKind}
    (h : ∀ base, kind ≠ .capability base) : scope.coerce kind .null = .ok (.scalar .null) := by
  cases kind <;> first | rfl | exact absurd rfl (h _)

end PopulateScope

end Flowgraph

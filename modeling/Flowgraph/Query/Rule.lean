import Flowgraph.Value.Decode
/-!
# Filter and order rules

What a document says about selecting records: filters by attribute, orders by attribute, and the
page that is wanted. Each rule is encoded as a map and decoded from a map or a list.

Main definitions: `FilterType`, `SortDirection`, `FilterRule`, `OrderRule`, `RuleSet`, and their
`encode` and `decode?`.
Main statements: `FilterType.ofName?_name`, `SortDirection.ofName?_name`.
-/

namespace Flowgraph

/-- What a filter asks of an attribute. -/
inductive FilterType where
  | equal
  | notEqual
  | contains
  | notContains
  | startsWith
  | endsWith
  | greater
  | greaterOrEqual
  | less
  | lessOrEqual
  | isIn
  | notIn
  | notStartsWith
  | notEndsWith
  deriving DecidableEq

namespace FilterType

/-- All filter types in the order of their ordinals. -/
def all : List FilterType :=
  [equal, notEqual, contains, notContains, startsWith, endsWith, greater, greaterOrEqual, less,
    lessOrEqual, isIn, notIn, notStartsWith, notEndsWith]

/-- The name of a filter type in a document. -/
def name : FilterType → String
  | equal => "Equal"
  | notEqual => "NotEqual"
  | contains => "Contains"
  | notContains => "NotContains"
  | startsWith => "StartsWith"
  | endsWith => "EndsWith"
  | greater => "Greater"
  | greaterOrEqual => "GreaterOrEqual"
  | less => "Less"
  | lessOrEqual => "LessOrEqual"
  | isIn => "In"
  | notIn => "NotIn"
  | notStartsWith => "NotStartsWith"
  | notEndsWith => "NotEndsWith"

/-- The names of all filter types. -/
def names : List String :=
  all.map name

/-- The filter type of a name. -/
def ofName? (s : String) : Option FilterType :=
  all.find? fun type => type.name = s

/-- The filter type of a name, or the message that there is none. -/
def read (s : String) : Except String FilterType :=
  match ofName? s with
  | some type => .ok type
  | none => .error s!"unknown filter type '{s}'"

/-- The place of a filter type among all of them. -/
def ordinal (type : FilterType) : Nat :=
  all.idxOf type

theorem ofName?_name (type : FilterType) : ofName? type.name = some type := by
  cases type <;> decide

theorem name_mem_names (type : FilterType) : type.name ∈ names := by
  cases type <;> decide

end FilterType

/-- The direction of an order. -/
inductive SortDirection where
  | ascending
  | descending
  deriving DecidableEq

namespace SortDirection

/-- Both directions in the order of their ordinals. -/
def all : List SortDirection :=
  [ascending, descending]

/-- The name of a direction in a document. -/
def name : SortDirection → String
  | ascending => "Ascending"
  | descending => "Descending"

/-- The names of both directions. -/
def names : List String :=
  all.map name

/-- The direction of a name. -/
def ofName? (s : String) : Option SortDirection :=
  all.find? fun direction => direction.name = s

/-- The direction of a name, or the message that there is none. -/
def read (s : String) : Except String SortDirection :=
  match ofName? s with
  | some direction => .ok direction
  | none => .error s!"unknown sort direction '{s}'"

theorem ofName?_name (direction : SortDirection) : ofName? direction.name = some direction := by
  cases direction <;> decide

theorem name_mem_names (direction : SortDirection) : direction.name ∈ names := by
  cases direction <;> decide

end SortDirection

/-- One filter on an attribute; a rule without attribute or type asks nothing. -/
structure FilterRule where
  attr : Option String := none
  type : Option FilterType := none
  value : Value := .null
  /-- Whether the rule asks nothing when its value is empty. -/
  ignoreIfEmpty : Bool := false

namespace FilterRule

/-- The rule as a document. -/
def encode (rule : FilterRule) : Value :=
  .map
    [("attribute", .ofText? rule.attr), ("ignoreIfEmpty", .bool rule.ignoreIfEmpty),
      ("type", .ofText? (rule.type.map FilterType.name)), ("value", rule.value)]

/-- The fields of a written rule in order. -/
def slots : List Value.Slot :=
  [⟨"attribute", false⟩, ⟨"type", false⟩, ⟨"value", true⟩, ⟨"ignoreIfEmpty", true⟩]

/-- Reads a rule from a document. -/
def decode? (v : Value) : Option FilterRule := do
  match ← v.slots? slots with
  | [attr, type, value, ignoreIfEmpty] =>
    return {
      attr := ← Value.optional Value.text? attr
      type := ← Value.optional (fun v => v.variantName?.bind FilterType.ofName?) type
      value := value.getD .null
      ignoreIfEmpty := ← Value.defaulted false Value.bool? ignoreIfEmpty }
  | _ => none

end FilterRule

/-- One key of the wanted order. -/
structure OrderRule where
  attr : Option String := none
  direction : SortDirection := .ascending

namespace OrderRule

/-- The rule as a document. -/
def encode (rule : OrderRule) : Value :=
  .map [("attribute", .ofText? rule.attr), ("direction", .text rule.direction.name)]

/-- The fields of a written rule in order. -/
def slots : List Value.Slot :=
  [⟨"attribute", false⟩, ⟨"direction", true⟩]

/-- Reads a rule from a document. -/
def decode? (v : Value) : Option OrderRule := do
  match ← v.slots? slots with
  | [attr, direction] =>
    return {
      attr := ← Value.optional Value.text? attr
      direction := ← Value.defaulted .ascending
        (fun v => v.variantName?.bind SortDirection.ofName?) direction }
  | _ => none

end OrderRule

/-- Filters, orders and the wanted page, counted from one. -/
structure RuleSet where
  filters : List FilterRule := []
  sorts : List OrderRule := []
  page : Option Int := none
  pageSize : Option Int := none

namespace RuleSet

/-- An optional integer as a value. -/
def encodeInt? (n : Option Int) : Value :=
  (n.map .int).getD .null

/-- The rule set as a document. -/
def encode (rules : RuleSet) : Value :=
  .map
    [("filters", .list (rules.filters.map FilterRule.encode)), ("page", encodeInt? rules.page),
      ("pageSize", encodeInt? rules.pageSize), ("sorts", .list (rules.sorts.map OrderRule.encode))]

/-- The fields of a written rule set in order. -/
def slots : List Value.Slot :=
  [⟨"filters", true⟩, ⟨"sorts", true⟩, ⟨"page", false⟩, ⟨"pageSize", false⟩]

/-- Reads a rule set from a document. -/
def decode? (v : Value) : Option RuleSet := do
  match ← v.slots? slots with
  | [filters, sorts, page, pageSize] =>
    return {
      filters := ← Value.defaulted [] (Value.listOf FilterRule.decode?) filters
      sorts := ← Value.defaulted [] (Value.listOf OrderRule.decode?) sorts
      page := ← Value.optional Value.signed64? page
      pageSize := ← Value.optional Value.signed64? pageSize }
  | _ => none

end RuleSet

end Flowgraph

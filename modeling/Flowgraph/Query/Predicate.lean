import Flowgraph.Query.Rule
import Flowgraph.Query.Scalar
import Flowgraph.Schema.RecordSchema
/-!
# Compiled filters

A filter rule is compiled against a schema into a predicate on records. A rule on an undeclared
field, a text rule on a field of another kind and a rule whose value may be and is empty compile
to nothing; a comparison whose value cannot be read as the field's kind matches no record.

Main definitions: `Predicate`, `Predicate.matches`, `FilterRule.compile?`.
Main statement: `compile?_eq`.
-/

namespace Flowgraph

/-- The comparisons of a compiled filter. -/
inductive FieldComparison where
  | equal
  | notEqual
  | greater
  | greaterOrEqual
  | less
  | lessOrEqual
  deriving DecidableEq

/-- The searches in a text of a compiled filter. -/
inductive TextMatch where
  | contains
  | startsWith
  | endsWith
  deriving DecidableEq

/-- One compiled filter. -/
inductive Predicate where
  /-- Compares the field, read as its kind, with a scalar. -/
  | compare (field : String) (kind : FieldKind) (op : FieldComparison) (value : Scalar)
  /-- Searches the field's text. -/
  | text (field : String) (op : TextMatch) (needle : String) (negated : Bool)
  /-- Looks for the field, read as its kind, among some scalars. -/
  | membership (field : String) (kind : FieldKind) (members : List Scalar) (negated : Bool)
  /-- Matches no record. -/
  | unsatisfiable (field : String)

/-- Whether an order is the one that a comparison asks for; an equality asks for `eq`. -/
def FieldComparison.accepts (op : FieldComparison) (order : Ordering) : Bool :=
  match op with
  | .equal => order == .eq
  | .notEqual => order != .eq
  | .greater => order.isGT
  | .greaterOrEqual => order.isGE
  | .less => order.isLT
  | .lessOrEqual => order.isLE

/-- The result of a comparison; a null side is never ordered. -/
def FieldComparison.holds (op : FieldComparison) (actual wanted : Scalar) : Bool :=
  match op with
  | .equal => actual.equals wanted
  | .notEqual => !actual.equals wanted
  | op => !actual.isNull && !wanted.isNull && (actual.order? wanted).any op.accepts

/-- The result of a search in a text. -/
def TextMatch.holds (op : TextMatch) (text needle : String) : Bool :=
  match op with
  | .contains => Text.contains text needle
  | .startsWith => Text.startsWith text needle
  | .endsWith => Text.endsWith text needle

namespace Predicate

/-- The field that a predicate looks at. -/
def field : Predicate → String
  | compare field _ _ _ => field
  | text field _ _ _ => field
  | membership field _ _ _ => field
  | unsatisfiable field => field

/-- The value of a field in a record, null when it is absent. -/
def valueOf (field : String) (record : Record) : Value :=
  (Keyed.get? field record).getD .null

/-- Whether a record satisfies a predicate. -/
def «matches» (record : Record) : Predicate → Bool
  | compare field kind op value => op.holds (.ofValue kind (valueOf field record)) value
  | text field op needle negated =>
    match valueOf field record with
    | .text s => op.holds s needle != negated
    | _ => false
  | membership field kind members negated =>
    members.any (fun member => member.equals (.ofValue kind (valueOf field record))) != negated
  | unsatisfiable _ => false

end Predicate

/-! ## Compiling a rule -/

namespace FilterRule

/-- The values among which a membership rule looks: the items of a list, the pieces of a text
between commas, or the value itself. -/
def memberValues : Value → List Value
  | .null => []
  | .list items => items
  | .text s => (s.toList.splitOn ',').map fun piece => .text (String.ofList piece)
  | v => [v]

/-- The predicate of a comparison with the value of a rule. -/
def compileComparison (field : FieldDescriptor) (v : Value) (op : FieldComparison) : Predicate :=
  match Scalar.read? field.kind v with
  | some value => .compare field.name field.kind op value
  | none => .unsatisfiable field.name

/-- The predicate of a search for the value of a rule; only text fields are searched. -/
def compileText? (field : FieldDescriptor) (v : Value) (op : TextMatch) (negated : Bool) :
    Option Predicate :=
  if field.kind ≠ .text || v.isNull then none
  else some (.text field.name op v.stringify negated)

/-- The predicate of membership among the values of a rule that can be read as the field's kind. -/
def compileMembership (field : FieldDescriptor) (v : Value) (negated : Bool) : Predicate :=
  .membership field.name field.kind ((memberValues v).filterMap (Scalar.read? field.kind)) negated

/-- The predicate of a filter type on a declared field. -/
def compileType? (field : FieldDescriptor) (v : Value) : FilterType → Option Predicate
  | .equal => some (compileComparison field v .equal)
  | .notEqual => some (compileComparison field v .notEqual)
  | .greater => some (compileComparison field v .greater)
  | .greaterOrEqual => some (compileComparison field v .greaterOrEqual)
  | .less => some (compileComparison field v .less)
  | .lessOrEqual => some (compileComparison field v .lessOrEqual)
  | .contains => compileText? field v .contains false
  | .notContains => compileText? field v .contains true
  | .startsWith => compileText? field v .startsWith false
  | .notStartsWith => compileText? field v .startsWith true
  | .endsWith => compileText? field v .endsWith false
  | .notEndsWith => compileText? field v .endsWith true
  | .isIn => some (compileMembership field v false)
  | .notIn => some (compileMembership field v true)

/-- Whether a rule asks nothing because its value is empty. -/
def isSkipped (rule : FilterRule) : Bool :=
  rule.ignoreIfEmpty && rule.value.isEmpty

/-- The predicate of a rule, unless the rule asks nothing of records of this schema. -/
def compile? (rule : FilterRule) (schema : RecordSchema) : Option Predicate := do
  let attr ← rule.attr
  let type ← rule.type
  if attr.isEmpty || rule.isSkipped then none
  else compileType? (← schema.field? attr) rule.value type

/-- A rule on a declared field of a name asks something unless it is skipped. -/
theorem compile?_eq {rule : FilterRule} {schema : RecordSchema} {field : FieldDescriptor}
    {type : FilterType} (hfield : schema.field? field.name = some field)
    (hattr : rule.attr = some field.name) (htype : rule.type = some type) :
    rule.compile? schema =
      if field.name = "" ∨ rule.isSkipped = true then none
      else compileType? field rule.value type := by
  simp only [compile?, hattr, htype, hfield, Option.bind_eq_bind, Option.bind_some,
    Bool.or_eq_true, String.isEmpty_iff]

end FilterRule

end Flowgraph

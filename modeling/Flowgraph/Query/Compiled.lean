import Flowgraph.Query.Predicate
/-!
# Compiled queries

A rule set is compiled against a schema into predicates that must all match, the keys of the
wanted order, and a window on the result. `CompiledQuery.apply` filters, sorts without reordering
equals, and cuts the window out.

Main definitions: `SortKey`, `Window`, `CompiledQuery`, `CompiledQuery.ofRules`,
`CompiledQuery.apply`.
-/

namespace Flowgraph

/-- One key of the order of a result. -/
structure SortKey where
  field : String
  kind : FieldKind
  direction : SortDirection

namespace SortKey

/-- The order of two records by one key. -/
def compare (key : SortKey) (left right : Record) : Ordering :=
  let l := Scalar.ofValue key.kind (Predicate.valueOf key.field left)
  let r := Scalar.ofValue key.kind (Predicate.valueOf key.field right)
  match key.direction with
  | .ascending => l.sortOrder r
  | .descending => r.sortOrder l

end SortKey

/-- How many records of a result are passed over and how many are kept. -/
structure Window where
  skip : Nat
  take : Nat
  deriving DecidableEq

namespace Window

/-- The largest count of records; larger ones are cut down to it. -/
def largestCount : Nat := 0xFFFFFFFFFFFFFFFF

/-- A written count that is at least one. -/
def positive? (n : Int) : Option Nat :=
  if 1 ≤ n then some n.toNat else none

/-- The window of a page counted from one. -/
def ofPage? (page pageSize : Option Int) : Option Window := do
  let page ← positive? (← page)
  let take ← positive? (← pageSize)
  return ⟨min (take * (page - 1)) largestCount, take⟩

/-- The records inside a window. -/
def cut {α : Type} (w : Window) (records : List α) : List α :=
  (records.drop w.skip).take w.take

end Window

/-- Predicates that must all match, the keys of the order, and the window. -/
structure CompiledQuery where
  filters : List Predicate := []
  sorts : List SortKey := []
  window : Option Window := none

namespace CompiledQuery

/-- The predicates of the rules that ask something of records of a schema. -/
def compileFilters (rules : List FilterRule) (schema : RecordSchema) : List Predicate :=
  rules.filterMap fun rule => rule.compile? schema

/-- The keys of the order rules on declared fields. -/
def compileSorts (rules : List OrderRule) (schema : RecordSchema) : List SortKey :=
  rules.filterMap fun rule => do
    let field ← schema.field? (← rule.attr)
    return ⟨field.name, field.kind, rule.direction⟩

/-- The query of a rule set on records of a schema. -/
def ofRules (rules : RuleSet) (schema : RecordSchema) : CompiledQuery :=
  ⟨compileFilters rules.filters schema, compileSorts rules.sorts schema,
    Window.ofPage? rules.page rules.pageSize⟩

/-- The query of filters alone. -/
def ofFilters (rules : List FilterRule) (schema : RecordSchema) : CompiledQuery :=
  { filters := compileFilters rules schema }

/-- Whether a record satisfies every predicate. -/
def «matches» (query : CompiledQuery) (record : Record) : Bool :=
  query.filters.all fun predicate => predicate.matches record

/-- The order of two records: the first key that tells them apart decides. -/
def compareRecords (query : CompiledQuery) (left right : Record) : Ordering :=
  query.sorts.foldr (fun key later => (key.compare left right).then later) .eq

/-- Puts records in the order of the keys, if there are any. Equals keep their order. -/
def sort (query : CompiledQuery) (records : List Record) : List Record :=
  if query.sorts.isEmpty then records
  else records.mergeSort fun a b => (query.compareRecords a b).isLE

/-- Filters, sorts and windows records. -/
def apply (query : CompiledQuery) (records : List Record) : List Record :=
  let sorted := query.sort (records.filter query.matches)
  match query.window with
  | some window => window.cut sorted
  | none => sorted

end CompiledQuery

end Flowgraph

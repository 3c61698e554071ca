import Flowgraph.Condition
import Flowgraph.Query.Rule
import Flowgraph.Schema.RecordSchema
/-!
# Values of property types

What a property of a registered type is parsed into: a condition, a rule, an entity with a record
for it, a request, or whatever document a type of the host makes of it.

Main definitions: `EntitySpec`, `EntityBinding`, `RequestSpec`, `PropertyValue`.
-/

namespace Flowgraph

/-- The source of an entity: its place among the registered stores, and its name. -/
structure ProviderRef where
  place : Nat
  name : String

/-- A registered entity: a collection of a store and the schema of its records. -/
structure EntitySpec where
  name : String
  collection : String
  schema : RecordSchema
  provider : ProviderRef

/-- An entity with a record made from a property. -/
structure EntityBinding where
  spec : EntitySpec
  /-- The entries of the property as they are written, its type aside. -/
  properties : Value.Fields
  /-- The declared fields among them, read as their kinds. -/
  entry : Record

/-- A request: the properties of a type node with those of the property written over them. -/
structure RequestSpec where
  /-- The type node, if one is named. -/
  typeId : Option String
  properties : Value.Fields

/-- A parsed property. -/
inductive PropertyValue where
  | condition (condition : Condition)
  | filterRule (rule : FilterRule)
  | orderRule (rule : OrderRule)
  | ruleSet (rules : RuleSet)
  | entity (binding : EntityBinding)
  | entitySelect (spec : EntitySpec)
  | request (spec : RequestSpec)
  | host (v : Value)

namespace PropertyValue

/-- The condition of a condition property. -/
def condition? : PropertyValue → Option Condition
  | condition c => some c
  | _ => none

/-- The rule of a filter property. -/
def filterRule? : PropertyValue → Option FilterRule
  | filterRule rule => some rule
  | _ => none

/-- The rule of an order property. -/
def orderRule? : PropertyValue → Option OrderRule
  | orderRule rule => some rule
  | _ => none

/-- The rules of a rule set property. -/
def ruleSet? : PropertyValue → Option RuleSet
  | ruleSet rules => some rules
  | _ => none

/-- The entity and record of an entity property. -/
def entity? : PropertyValue → Option EntityBinding
  | entity binding => some binding
  | _ => none

/-- The entity of an entity selection. -/
def entitySelect? : PropertyValue → Option EntitySpec
  | entitySelect spec => some spec
  | _ => none

/-- The request of a request property. -/
def request? : PropertyValue → Option RequestSpec
  | request spec => some spec
  | _ => none

end PropertyValue

end Flowgraph

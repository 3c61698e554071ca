import Flowgraph.Registry.Populate
/-!
# Built-in property types

The descriptions of the property types that every registry has, with their parsers: conditions,
rules, entities and requests.

Main definitions: `PropertyTypes.registrations` and the description of each type.
-/

namespace Flowgraph.PropertyTypes

open FieldDescriptor (plain)

/-- The abstract type of conditions with their links. -/
def condition : TypeInfo where
  name := "Condition"
  qualifiedName := "nodeflow::Condition"
  isAbstract := true
  fields := [plain "and" (.capability "Condition"), plain "or" (.capability "Condition")]

/-- The type of comparisons. -/
def operatorCondition : TypeInfo :=
  TypeInfo.derive
    { name := "OperatorCondition"
      qualifiedName := "nodeflow::OperatorCondition"
      fields := [plain "left" .json,
        plain "operator" (.enumeration Operator.names), plain "right" .json] }
    condition

/-- The type of tests for emptiness. -/
def nullOrEmpty : TypeInfo :=
  TypeInfo.derive
    { name := "NullOrEmpty"
      qualifiedName := "nodeflow::NullOrEmpty"
      fields := [plain "value" .json, (plain "not" .bool).withDefault (.bool false)] }
    condition

/-- The type of filter rules. -/
def filterRule : TypeInfo where
  name := "FilterRule"
  qualifiedName := "nodeflow::FilterRule"
  fields := [plain "attribute" .text,
    plain "type" (.enumeration FilterType.names), plain "value" .json,
    (plain "ignoreIfEmpty" .bool).withDefault (.bool false)]

/-- The type of order rules. -/
def orderRule : TypeInfo where
  name := "OrderRule"
  qualifiedName := "nodeflow::OrderRule"
  fields := [plain "attribute" .text,
    (plain "direction" (.enumeration SortDirection.names)).withDefault (.text "Ascending")]

/-- The type of rule sets. -/
def ruleSet : TypeInfo where
  name := "RuleSet"
  qualifiedName := "nodeflow::RuleSet"
  fields := [plain "filters" (.list (.capability "FilterRule")),
    plain "sorts" (.list (.capability "OrderRule")), (plain "page" .int).asNullable,
    (plain "pageSize" .int).asNullable]

/-- The type of entities with a record. -/
def entity : TypeInfo where
  name := "Entity"
  qualifiedName := "nodeflow::Entity"

/-- The type of entity selections. -/
def entitySelect : TypeInfo where
  name := "EntitySelect"
  qualifiedName := "nodeflow::EntitySelect"

/-- The type of requests. -/
def requestSpec : TypeInfo where
  name := "RequestSpec"
  qualifiedName := "nodeflow::RequestSpec"
  fields := [plain "url" .text, plain "path" .text,
    plain "method" .text, plain "pathParameters" .map,
    plain "queryArgs" .map, plain "body" .json]

/-- The built-in property types with their parsers. -/
def registrations : List (Registration PropertyParser) :=
  [⟨condition, none⟩, ⟨operatorCondition, some .operatorCondition⟩,
    ⟨nullOrEmpty, some .nullOrEmpty⟩, ⟨filterRule, some .filterRule⟩,
    ⟨orderRule, some .orderRule⟩, ⟨ruleSet, some .ruleSet⟩, ⟨entity, some .entity⟩,
    ⟨entitySelect, some .entitySelect⟩, ⟨requestSpec, some .requestSpec⟩]

end Flowgraph.PropertyTypes

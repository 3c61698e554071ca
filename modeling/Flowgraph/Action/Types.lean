import Flowgraph.Action.Basic
/-!
# Built-in action types

The descriptions of the action types that every registry has, and what builds their actions from
populated fields.

Main definitions: `ActionTypes.registrations`, the description and the factory of each type.
-/

namespace Flowgraph.ActionTypes

open FieldDescriptor (plain)

/-- The abstract type of stack actions. -/
def stackAction : TypeInfo where
  name := "StackAction"
  qualifiedName := "nodeflow::StackAction"
  isAbstract := true
  fields :=
    [(plain "returnName" .text).withDefault (.text "value"), plain "nextAction" .childAction]

/-- A built-in stack action type with its own fields. -/
def stackType (name : String) (fields : List FieldDescriptor) : TypeInfo :=
  TypeInfo.derive { name, qualifiedName := "nodeflow::" ++ name, fields } stackAction

/-- A built-in control-flow action type with its fields. -/
def flowType (name : String) (fields : List FieldDescriptor) : TypeInfo :=
  { name, qualifiedName := "nodeflow::" ++ name, fields }

/-- The field of an entity with a record. -/
def entityField : FieldDescriptor := plain "entity" (.capability "Entity")

/-- The field of an entity selection. -/
def selectField : FieldDescriptor := plain "entity" (.capability "EntitySelect")

/-- The field of a rule set. -/
def rulesField : FieldDescriptor := plain "rules" (.capability "RuleSet")

/-- The field of a record's key. -/
def idField : FieldDescriptor := plain "idValue" .text

/-! ## Factories -/

/-- A stack action with the slots of its fields. -/
def stackOf (bag : FieldBag) (task : Task) : Except String Action :=
  .ok (.stack (.ofBag bag) task)

/-- Builds a `JsonAction`. -/
def buildJson : ActionFactory := fun bag => stackOf bag (.json ((bag.json? "json").getD .null))

/-- Builds a `Rest`. -/
def buildRest : ActionFactory := fun bag => stackOf bag (.rest (.ofBag bag))

/-- Builds a `Request`. -/
def buildRequest : ActionFactory := fun bag =>
  stackOf bag (.request (bag.property? PropertyValue.request? "request") (bag.map "headers"))

/-- Builds an `If`. -/
def buildIf : ActionFactory := fun bag =>
  .ok (.flow (.branch (bag.property? PropertyValue.condition? "condition") (bag.action? "onTrue")
    (bag.action? "onFalse")))

/-- Builds a `SwitchCase`. -/
def buildSwitchCase : ActionFactory := fun bag =>
  .ok (.flow (.switch (bag.text? "inputValue") (bag.actions "conditions") (bag.action? "default")))

/-- Builds a `Foreach`. -/
def buildForeach : ActionFactory := fun bag =>
  .ok (.flow (.foreach (bag.list "list") ((bag.filledText? "entryName").getD "entry")
    (bag.action? "do")))

/-- The entity with a record of some fields. -/
def bindingOf (bag : FieldBag) : Option EntityBinding :=
  bag.property? PropertyValue.entity? "entity"

/-- The selected entity of some fields. -/
def selectionOf (bag : FieldBag) : Option EntitySpec :=
  bag.property? PropertyValue.entitySelect? "entity"

/-- Builds a `Create`. -/
def buildCreate : ActionFactory := fun bag => stackOf bag (.create (bindingOf bag))

/-- Builds a `Read`. -/
def buildRead : ActionFactory := fun bag =>
  stackOf bag (.read (selectionOf bag) (bag.property? PropertyValue.ruleSet? "rules"))

/-- Builds a `ReadFirst`. -/
def buildReadFirst : ActionFactory := fun bag =>
  stackOf bag (.readFirst (selectionOf bag) (.ofBag bag))

/-- Builds an `Update`. -/
def buildUpdate : ActionFactory := fun bag => stackOf bag (.update (bindingOf bag) (.ofBag bag))

/-- Builds a `Delete`. -/
def buildDelete : ActionFactory := fun bag => stackOf bag (.delete (selectionOf bag) (.ofBag bag))

/-- Builds a `Count`. -/
def buildCount : ActionFactory := fun bag =>
  stackOf bag (.count (selectionOf bag) (bag.properties PropertyValue.filterRule? "filters"))

/-- The built-in action types with their factories. -/
def registrations : List (Registration ActionFactory) :=
  [⟨stackAction, none⟩,
    ⟨stackType "JsonAction" [plain "json" .json], some buildJson⟩,
    ⟨stackType "Rest" [plain "url" .text, plain "path" .text, plain "method" .text,
      plain "headers" .map, plain "queryArgs" .map, plain "body" .json], some buildRest⟩,
    ⟨stackType "Request" [plain "request" (.capability "RequestSpec"), plain "headers" .map],
      some buildRequest⟩,
    ⟨flowType "If" [plain "condition" (.capability "Condition"), plain "onTrue" .childAction,
      plain "onFalse" .childAction], some buildIf⟩,
    ⟨flowType "SwitchCase" [plain "inputValue" .text, plain "conditions" .actionMap,
      plain "default" .childAction], some buildSwitchCase⟩,
    ⟨flowType "Foreach" [plain "list" (.list .json),
      (plain "entryName" .text).withDefault (.text "entry"), plain "do" .childAction],
      some buildForeach⟩,
    ⟨stackType "Create" [entityField], some buildCreate⟩,
    ⟨stackType "Read" [selectField, rulesField], some buildRead⟩,
    ⟨stackType "ReadFirst" [selectField, idField, rulesField], some buildReadFirst⟩,
    ⟨stackType "Update" [entityField, idField, rulesField], some buildUpdate⟩,
    ⟨stackType "Delete" [selectField, idField, rulesField], some buildDelete⟩,
    ⟨stackType "Count" [selectField, plain "filters" (.list (.capability "FilterRule"))],
      some buildCount⟩]

end Flowgraph.ActionTypes

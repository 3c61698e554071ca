import Flowgraph.Model.ActionResult
import Flowgraph.Outbound.Call
/-!
# Actions

What a node does when it runs. A stack action carries out a task whose value goes into the shared
state under a name, and then goes on with its next action; a control-flow action chooses its
successor itself and writes nothing.

Main definitions: `StackSlots`, `RecordLookup`, `Task`, `ControlFlow`, `Action`, `Action.stack?`.
-/

namespace Flowgraph

/-- Where a stack action puts its value and what it goes on with. -/
structure StackSlots where
  returnName : String := "value"
  nextAction : Option NodeId := none
  deriving DecidableEq

/-- A text field that is not empty. -/
def FieldBag.filledText? (bag : FieldBag) (name : String) : Option String :=
  (bag.text? name).filter fun s => !s.isEmpty

/-- The slots of some populated fields. -/
def StackSlots.ofBag (bag : FieldBag) : StackSlots where
  returnName := (bag.filledText? "returnName").getD "value"
  nextAction := bag.action? "nextAction"

/-- How an action finds its record: by its key, else as the first that some rules select. -/
structure RecordLookup where
  idValue : Option String := none
  rules : Option RuleSet := none

/-- The lookup of some populated fields. -/
def RecordLookup.ofBag (bag : FieldBag) : RecordLookup where
  idValue := bag.filledText? "idValue"
  rules := bag.property? PropertyValue.ruleSet? "rules"

/-- What an action of the host does to the context. -/
abbrev HostRun := Context → Except String ActionResult × Context

/-- The task of a stack action. -/
inductive Task where
  /-- Returns a value. -/
  | json (v : Value)
  /-- Makes a call. -/
  | rest (call : Call)
  /-- Makes the call of a request, with headers. -/
  | request (spec : Option RequestSpec) (headers : Value.Fields)
  /-- Adds the record of an entity. -/
  | create (entity : Option EntityBinding)
  /-- Returns the records that some rules select. -/
  | read (entity : Option EntitySpec) (rules : Option RuleSet)
  /-- Returns one record. -/
  | readFirst (entity : Option EntitySpec) (lookup : RecordLookup)
  /-- Writes the fields of an entity over one record. -/
  | update (entity : Option EntityBinding) (lookup : RecordLookup)
  /-- Removes one record. -/
  | delete (entity : Option EntitySpec) (lookup : RecordLookup)
  /-- Counts the records that some filters select. -/
  | count (entity : Option EntitySpec) (filters : List FilterRule)
  | host (run : HostRun)

/-- The choice of a control-flow action. -/
inductive ControlFlow where
  /-- Goes on by a condition. -/
  | branch (condition : Option Condition) (onTrue onFalse : Option NodeId)
  /-- Goes on by the case that a text names. -/
  | switch (input : Option String) (cases : List (String × NodeId)) (default : Option NodeId)
  /-- Runs a chain for each item of a list, bound under a name. -/
  | foreach (items : List Value) (entryName : String) (body : Option NodeId)
  | host (run : HostRun)

/-- What a node does when it runs. -/
inductive Action where
  | stack (slots : StackSlots) (task : Task)
  | flow (choice : ControlFlow)

namespace Action

/-- The slots of a stack action. -/
def stack? : Action → Option StackSlots
  | stack slots _ => some slots
  | flow _ => none

end Action

/-- What builds an action from its populated fields, or says why it cannot. -/
abbrev ActionFactory := FieldBag → Except String Action

end Flowgraph

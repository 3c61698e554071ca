import Flowgraph.Value.Basic
/-!
# Structures in documents

A structure is written as a map from its field names, or as a list of its fields in order. Names
that it does not declare are passed over. `Value.slots?` finds the written value of each declared
field in either form; a decoder of one field then says what it accepts and what it means that
nothing is written.

Main definitions: `Value.Slot`, `Value.slots?`, `Value.required`, `Value.optional`,
`Value.defaulted`.
-/

namespace Flowgraph.Value

/-- A declared field of a structure: its name, and whether a list may end before it. -/
structure Slot where
  name : String
  mayBeMissing : Bool

/-- The items of a list in the places of the declared fields; a list may end early only where all
fields that follow may be missing. -/
def slotsOfItems? : List Slot → List Value → Option (List (Option Value))
  | [], [] => some []
  | [], _ :: _ => none
  | slot :: slots, [] =>
    if slot.mayBeMissing then (slotsOfItems? slots []).map (none :: ·) else none
  | _ :: slots, v :: rest => (slotsOfItems? slots rest).map (some v :: ·)

/-- The written values of the declared fields. -/
def slots? (slots : List Slot) : Value → Option (List (Option Value))
  | .map fields => some (slots.map fun slot => Keyed.get? slot.name fields)
  | .list items => slotsOfItems? slots items
  | _ => none

/-- A field that must be written. -/
def required {α : Type} (decode : Value → Option α) (written : Option Value) : Option α :=
  written.bind decode

/-- A field that may be missing or null. -/
def optional {α : Type} (decode : Value → Option α) : Option Value → Option (Option α)
  | none | some .null => some none
  | some v => (decode v).map some

/-- A field that has a value of its own when nothing is written. -/
def defaulted {α : Type} (absent : α) (decode : Value → Option α) : Option Value → Option α
  | none => some absent
  | some v => decode v

/-- Decodes every item of a list. -/
def listOf {α : Type} (decode : Value → Option α) : Value → Option (List α)
  | .list items => items.mapM decode
  | _ => none

/-- Decodes every value of a map. -/
def mapOf {α : Type} (decode : Value → Option α) : Value → Option (List (String × α))
  | .map fields => fields.mapM fun (k, v) => (decode v).map fun a => (k, a)
  | _ => none

/-- A truth value. -/
def bool? : Value → Option Bool
  | .bool flag => some flag
  | _ => none

/-- A variant without parts: its name, or a map from its name alone to null. -/
def variantName? : Value → Option String
  | .text name => some name
  | .map [(name, .null)] => some name
  | _ => none

end Flowgraph.Value

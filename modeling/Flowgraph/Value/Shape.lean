import Flowgraph.Keyed
/-!
# Shapes of documents

A shape says what is wanted in the place of a part of a document. What is written there is read
with it in mind: a structure passes over names that it does not declare, and a map whose order
counts keeps its names as they stand.

Main definitions: `Shape`, `Shape.item`, `Shape.entry`, `Shape.repeats`, `Shape.arrange`.
-/

namespace Flowgraph

/-- What is wanted in the place of a part of a document. -/
inductive Shape where
  | any
  | text
  /-- A text, or null. -/
  | textOrNull
  /-- An integer that is not negative. -/
  | unsigned
  | list (inner : Shape)
  /-- A map whose names are kept in the order in which they stand. -/
  | arrivals (inner : Shape)
  /-- A structure with declared fields in order; other names may hold anything. -/
  | fields (slots : List (String × Shape))

namespace Shape

/-- What is wanted in the place of an item of a list; a structure may be a list of its fields. -/
def item (shape : Shape) (place : Nat) : Shape :=
  match shape with
  | list inner => inner
  | fields slots => (slots[place]?.map Prod.snd).getD any
  | _ => any

/-- What is wanted under a name of a map. -/
def entry (shape : Shape) (k : String) : Shape :=
  match shape with
  | arrivals inner => inner
  | fields slots => (Keyed.get? k slots).getD any
  | _ => any

/-- Whether a name of a map is passed over. -/
def skips (shape : Shape) (k : String) : Bool :=
  match shape with
  | fields slots => !Keyed.has k slots
  | _ => false

/-- Whether some declared field is named twice. -/
def repeats (shape : Shape) (names : List String) : Bool :=
  match shape with
  | fields slots => !(names.filter fun k => Keyed.has k slots).Nodup
  | _ => false

/-- The entries of a map in the order that the shape wants: as they stand with the last value of
each name, or in ascending order of names. -/
def arrange {α : Type} (shape : Shape) (entries : List (String × α)) : List (String × α) :=
  match shape with
  | arrivals _ => Keyed.putAll entries []
  | _ => Keyed.sorted entries

end Shape

end Flowgraph

import Flowgraph.Value.Basic
import Flowgraph.Value.Shape
/-!
# Documents as they are written

A written document keeps the names of its maps in the order in which they stand, repeated ones
too, and has scalars that are written correctly but have no value. What is wanted in its place
decides how much of that matters: a structure passes over names that it does not declare,
whatever stands there, and names each of its fields once; everywhere else all scalars must have
values, and lists and maps nest at most `maxDepth` deep.

Main definitions: `Written`, `Written.shaped?`, `Written.toValue?`.
-/

namespace Flowgraph

/-- A document as it is written. -/
inductive Written where
  /-- A scalar; none if no value holds it. -/
  | atom (v : Option Value)
  | list (items : List Written)
  /-- A map; a name is none if no text holds it. -/
  | map (entries : List (Option String × Written))

namespace Written

/-- How deep lists and maps may nest. -/
def maxDepth : Nat := 127

mutual

/-- The value of a document where a shape is wanted, with lists and maps at most `room` deep. -/
def shapedWithin? (shape : Shape) (room : Nat) : Written → Option Value
  | .atom v => v
  | .list items =>
    if room = 0 then none else (itemValues? shape (room - 1) 0 items).map .list
  | .map entries =>
    if room = 0 then none
    else do
      let values ← entryValues? shape (room - 1) entries
      if shape.repeats (Keyed.keys values) then none else return .map (shape.arrange values)

/-- The values of the items of a list from a place on. -/
def itemValues? (shape : Shape) (room place : Nat) : List Written → Option (List Value)
  | [] => some []
  | node :: rest => do
    return (← shapedWithin? (shape.item place) room node) ::
      (← itemValues? shape room (place + 1) rest)

/-- The values of the entries of a map that are not passed over. -/
def entryValues? (shape : Shape) (room : Nat) :
    List (Option String × Written) → Option (List (String × Value))
  | [] => some []
  | (k, node) :: rest => do
    let k ← k
    if shape.skips k then entryValues? shape room rest
    else
      return (k, ← shapedWithin? (shape.entry k) room node) :: (← entryValues? shape room rest)

end

/-- The value of a document where a shape is wanted. -/
def shaped? (shape : Shape) (node : Written) : Option Value :=
  shapedWithin? shape maxDepth node

/-- The value of a document where anything is wanted. -/
def toValue? (node : Written) : Option Value :=
  shaped? .any node

end Written

end Flowgraph

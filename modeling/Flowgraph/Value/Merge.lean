import Flowgraph.Value.Basic
/-!
# Deep merge of maps

`Value.merge base overlay` writes the entries of `overlay` into `base`: where both sides hold a
map the two are merged in turn, anywhere else the overlay's value replaces the base's.

Main definitions: `Value.merge`, `Value.at?`.
Main statement: `get?_mergeEntry`.
-/

namespace Flowgraph.Value

mutual

/-- The value that an overlay's value leaves where `base` holds `old`. -/
def mergeValue : Option Value → Value → Value
  | some (.map old), .map new => .map (mergeFields old new)
  | _, v => v

/-- Writes the entries of the second map into the first, one after another. -/
def mergeFields : Fields → List (String × Value) → Fields
  | base, [] => base
  | base, (k, v) :: rest =>
    mergeFields (Keyed.insert k (mergeValue (Keyed.get? k base) v) base) rest

end

/-- Deep-merges `overlay` into `base`. -/
def merge (base overlay : Fields) : Fields :=
  mergeFields base overlay

/-- The value at a path of names. -/
def at? : List String → Value → Option Value
  | [], v => some v
  | k :: path, .map fields => (Keyed.get? k fields).bind (at? path)
  | _ :: _, _ => none

/-- One entry of the overlay settles its own name and leaves every other name alone. -/
theorem get?_mergeEntry (k k' : String) (v : Value) (base : Fields) :
    Keyed.get? k' (merge base [(k, v)]) =
      if k = k' then some (mergeValue (Keyed.get? k base) v) else Keyed.get? k' base := by
  simp [merge, mergeFields, Keyed.get?_insert]

end Flowgraph.Value

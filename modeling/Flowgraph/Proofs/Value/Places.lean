import Flowgraph.Proofs.Value.Names
import Flowgraph.Value.Merge
/-!
# Places in values

A place in a value is a path of steps from the outside in, to a field of a map or to an item of a
list (`Value.place?`). Merging writes the fields of the overlay one after another, so that each of
them is merged over the field of its name, if the overlay names it once (`Value.get?_mergeFields`);
of two fields of one name it is the first that is found, but the last that is written.
-/

namespace Flowgraph.Value

/-- One step into a value. -/
inductive Step where
  | field (name : String)
  | item (index : Nat)

/-- What a step leads to. -/
def step? : Step → Value → Option Value
  | .field name, .map fields => Keyed.get? name fields
  | .item index, .list items => items[index]?
  | _, _ => none

/-- The value at the end of a path. -/
def place? : List Step → Value → Option Value
  | [], v => some v
  | step :: path, v => (step? step v).bind (place? path)

@[simp] theorem place?_nil (v : Value) : place? [] v = some v := rfl

theorem place?_cons_eq_some_iff {step : Step} {path : List Step} {v w : Value} :
    place? (step :: path) v = some w ↔ ∃ u, step? step v = some u ∧ place? path u = some w :=
  Option.bind_eq_some_iff

theorem place?_cons {step : Step} {path : List Step} {v u : Value} (h : step? step v = some u) :
    place? (step :: path) v = place? path u := by
  rw [place?, h, Option.bind_some]

/-- A step leads to a field of a map or to an item of a list. -/
theorem step?_cases {step : Step} {v u : Value} (h : step? step v = some u) :
    (∃ name fields, step = .field name ∧ v = .map fields ∧ Keyed.get? name fields = some u) ∨
      ∃ index items, step = .item index ∧ v = .list items ∧ items[index]? = some u := by
  unfold step? at h
  split at h
  · exact .inl ⟨_, _, rfl, rfl, h⟩
  · exact .inr ⟨_, _, rfl, rfl, h⟩
  · cases h

/-! ## Merging -/

theorem mergeValue_none (v : Value) : mergeValue none v = v := by
  unfold mergeValue
  rfl

/-- What is no map takes the place of whatever was there. -/
theorem mergeValue_of_fields?_eq_none {v : Value} (h : v.fields? = none) (old : Option Value) :
    mergeValue old v = v := by
  unfold mergeValue
  split
  · cases h
  · rfl

theorem get?_mergeFields_of_not_mem {name : String} {overlay : Fields}
    (h : name ∉ Keyed.keys overlay) (base : Fields) :
    Keyed.get? name (mergeFields base overlay) = Keyed.get? name base := by
  induction overlay generalizing base with
  | nil => rw [mergeFields]
  | cons field rest ih =>
    obtain ⟨k, v⟩ := field
    rw [Keyed.keys, List.map_cons, List.mem_cons, not_or] at h
    rw [mergeFields, ih h.2, Keyed.get?_insert, if_neg (Ne.symm h.1)]

/-- **A field of the overlay** is merged over the field of its name. -/
theorem get?_mergeFields {name : String} {v : Value} {overlay : Fields}
    (hnodup : (Keyed.keys overlay).Nodup) (h : Keyed.get? name overlay = some v) (base : Fields) :
    Keyed.get? name (mergeFields base overlay) = some (mergeValue (Keyed.get? name base) v) := by
  induction overlay generalizing base with
  | nil => cases h
  | cons field rest ih =>
    obtain ⟨k, u⟩ := field
    obtain ⟨hnew, hrest⟩ := List.nodup_cons.1 hnodup
    rw [Keyed.get?_cons] at h
    rw [mergeFields]
    split at h
    · next hk =>
      obtain rfl := Option.some.inj h
      rw [← hk, get?_mergeFields_of_not_mem hnew, Keyed.get?_insert, if_pos rfl]
    · next hk => rw [ih hrest h, Keyed.get?_insert, if_neg hk]

end Flowgraph.Value

import Flowgraph.Proofs.Template.Span
import Flowgraph.Proofs.Value.Places
/-!
# Evaluating values

Evaluation goes through a value and evaluates the texts in it; lists and maps keep their items and
names (`evaluateFields_eq`, `evaluateItems_eq`). So what stands at a place of a value stands there
evaluated afterwards (`place?_evaluateValue`), also when the evaluated value is merged over another
one, unless it is a map, which is merged itself (`place?_mergeValue_evaluateValue`).

Two kinds of texts have a value that is read off them: a plain text is its own value
(`evaluate_of_isPlain`), and a text that is one flat expression has the value of that expression
(`evaluate_alone`).
-/

namespace Flowgraph.Template

open Value (Step step? place? mergeValue)

/-! ## Texts -/

/-- A text without an expression is its own value. -/
theorem evaluate_of_isPlain {s : String} (h : IsPlain s.toList) (c : Context) :
    evaluate c s = .text s := by
  rw [evaluate, expand, innermost?_eq_none_iff.2 h, String.ofList_toList]

/-- The text that is one expression from end to end. -/
def alone (body : List Char) : String :=
  String.ofList (Span.mk [] body []).text

/-- A text that is one expression has the value of the expression. -/
theorem evaluate_alone {body : List Char} (h : (Span.mk [] body []).IsFlat) (c : Context) :
    evaluate c (alone body) = resolve c body := by
  have hnext : innermost? (Span.mk [] body []).text = some ⟨[], body, []⟩ :=
    innermost?_eq_some_iff.2 ⟨rfl, h, isPlain_nil⟩
  rw [evaluate, alone, String.toList_ofList, expand, hnext]
  rfl

/-! ## Lists and maps -/

theorem evaluateFields_eq (c : Context) (fields : Value.Fields) :
    evaluateFields c fields = Keyed.mapValues (evaluateValue c) fields := by
  induction fields with
  | nil => rfl
  | cons field rest ih =>
    obtain ⟨k, v⟩ := field
    rw [evaluateFields, ih]
    rfl

theorem evaluateItems_eq (c : Context) (items : List Value) :
    evaluateItems c items = items.map (evaluateValue c) := by
  induction items with
  | nil => rfl
  | cons v rest ih => rw [evaluateItems, ih, List.map_cons]

/-- A step leads to the same place before and after. -/
theorem step?_evaluateValue {c : Context} {step : Step} {v u : Value} (h : step? step v = some u) :
    step? step (evaluateValue c v) = some (evaluateValue c u) := by
  obtain ⟨name, fields, rfl, rfl, hget⟩ | ⟨index, items, rfl, rfl, hget⟩ := Value.step?_cases h
  · rw [evaluateValue, step?, evaluateFields_eq, Keyed.get?_mapValues, hget, Option.map_some]
  · rw [evaluateValue, step?, evaluateItems_eq, List.getElem?_map, hget, Option.map_some]

/-- What stands at a place of a value stands there evaluated. -/
theorem place?_evaluateValue {c : Context} {path : List Step} {v w : Value}
    (h : place? path v = some w) : place? path (evaluateValue c v) = some (evaluateValue c w) := by
  induction path generalizing v with
  | nil =>
    cases h
    rfl
  | cons step path ih =>
    obtain ⟨u, hstep, hplace⟩ := Value.place?_cons_eq_some_iff.1 h
    rw [Value.place?_cons (step?_evaluateValue hstep), ih hplace]

/-- What stands at a place of an overlay stands there evaluated after the evaluated overlay was
merged, unless it becomes a map. -/
theorem place?_mergeValue_evaluateValue {c : Context} {path : List Step} {v w : Value}
    (hnames : v.namesOnce = true) (h : place? path v = some w)
    (hleaf : (evaluateValue c w).fields? = none) (old : Option Value) :
    place? path (mergeValue old (evaluateValue c v)) = some (evaluateValue c w) := by
  induction path generalizing v old with
  | nil =>
    cases h
    rw [Value.mergeValue_of_fields?_eq_none hleaf, Value.place?_nil]
  | cons step path ih =>
    obtain ⟨u, hstep, hplace⟩ := Value.place?_cons_eq_some_iff.1 h
    obtain ⟨name, fields, rfl, rfl, hget⟩ | ⟨index, items, rfl, rfl, -⟩ := Value.step?_cases hstep
    · cases old with
      | none =>
        rw [Value.mergeValue_none, place?_evaluateValue h]
      | some old =>
        cases old
        case map base =>
          -- Both sides are maps, so the field is merged over the one of its name.
          obtain ⟨hnodup, hinside⟩ := (Value.namesOnce_map_iff fields).1 hnames
          have hkeys : (Keyed.keys (evaluateFields c fields)).Nodup := by
            rw [evaluateFields_eq, Keyed.keys_mapValues]
            exact hnodup
          have hfield : Keyed.get? name (evaluateFields c fields) = some (evaluateValue c u) := by
            rw [evaluateFields_eq, Keyed.get?_mapValues, hget, Option.map_some]
          have hmerged : step? (.field name)
                (.map (Value.mergeFields base (evaluateFields c fields))) =
              some (mergeValue (Keyed.get? name base) (evaluateValue c u)) :=
            Value.get?_mergeFields hkeys hfield base
          rw [evaluateValue, mergeValue, Value.place?_cons hmerged]
          exact ih (hinside _ (Keyed.mem_of_get? hget)) hplace _
        all_goals exact place?_evaluateValue h
    · have hlist : (evaluateValue c (.list items)).fields? = none := by
        rw [evaluateValue]
        rfl
      rw [Value.mergeValue_of_fields?_eq_none hlist, place?_evaluateValue h]

end Flowgraph.Template

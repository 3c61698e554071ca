import Flowgraph.Proofs.Registry.Population
import Flowgraph.Registry.PropertyTypes
/-!
# Parsed conditions and their links

A value that a built-in condition type parses is a condition whose links are those of the value:
`and` and `or` are read as conditions in their turn, and a link that is null, missing or cannot be
parsed is none (`links_of_parseProperty`).
-/

namespace Flowgraph

namespace PropertyTypes

open PopulateScope

/-- The links come first in the built-in condition types. -/
theorem links_populateFrom {info : TypeInfo} (hlinks : condition.fields <+: info.fields)
    (hnodup : (info.fields.map FieldDescriptor.name).Nodup) (scope : PopulateScope)
    (entries : Value.Fields) (test : Test) :
    linkedCondition (populateFrom info.fields info.name (scope.entryReaders entries) none) test =
      .condition
        (.mk test (scope.conditionAt? entries "and") (scope.conditionAt? entries "or")) := by
  have hand : (populateFrom info.fields info.name (scope.entryReaders entries) none).property?
      PropertyValue.condition? "and" = scope.conditionAt? entries "and" :=
    scope.property?_populateFrom (hlinks.subset (List.mem_of_getElem? (i := 0) rfl)) hnodup _ _ _
      PropertyValue.condition? rfl rfl
  have hor : (populateFrom info.fields info.name (scope.entryReaders entries) none).property?
      PropertyValue.condition? "or" = scope.conditionAt? entries "or" :=
    scope.property?_populateFrom (hlinks.subset (List.mem_of_getElem? (i := 1) rfl)) hnodup _ _ _
      PropertyValue.condition? rfl rfl
  rw [linkedCondition, hand, hor]

/-- What a built-in type parses as a condition has the links of its entries. -/
theorem links_of_parseWith {registration : Registration PropertyParser}
    (h : registration ∈ registrations) {parser : PropertyParser}
    (hparser : registration.factory = some parser) {scope : PopulateScope} {entries : Value.Fields}
    {condition : Condition}
    (hparse : scope.parseWith parser registration.info (.map entries) (scope.entryReaders entries) =
      .ok (.condition condition)) :
    ∃ test, condition =
      .mk test (scope.conditionAt? entries "and") (scope.conditionAt? entries "or") := by
  simp only [registrations, List.mem_cons, List.not_mem_nil, or_false] at h
  rcases h with rfl | rfl | rfl | rfl | rfl | rfl | rfl | rfl | rfl
  all_goals cases hparser
  · -- A comparison.
    have hlinked := Except.ok.inj hparse
    rw [parseOperatorCondition, links_populateFrom ⟨_, rfl⟩ (by decide)] at hlinked
    exact ⟨_, (PropertyValue.condition.inj hlinked).symm⟩
  · -- A test for emptiness.
    have hlinked := Except.ok.inj hparse
    rw [parseNullOrEmpty, links_populateFrom ⟨_, rfl⟩ (by decide)] at hlinked
    exact ⟨_, (PropertyValue.condition.inj hlinked).symm⟩
  -- Rules.
  · cases hparse
  · cases hparse
  · cases hparse
  -- Entities and requests.
  all_goals
    obtain ⟨made, -, heq⟩ := map_eq_ok.1 hparse
    cases heq

end PropertyTypes

namespace PopulateScope

/-- Whether a value is parsed by a built-in property type, if by any. -/
def ChoosesBuiltin (scope : PopulateScope) (base : String) (v : Value) : Prop :=
  ∀ registration, scope.properties.get? base = some registration →
    scope.chooseType registration v ∈ PropertyTypes.registrations

/-- **The links of a parsed condition are those of its document.** -/
theorem links_of_parseProperty {scope : PopulateScope} {base : String} {entries : Value.Fields}
    {condition : Condition} (hbuiltin : scope.ChoosesBuiltin base (.map entries))
    (h : scope.parseProperty base (.map entries) = .ok (.condition condition)) :
    condition.andAlso = scope.conditionAt? entries "and" ∧
      condition.orElse = scope.conditionAt? entries "or" := by
  unfold parseProperty parseAs at h
  cases hget : scope.properties.get? base with
  | none => simp [hget] at h
  | some registration =>
    have hchosen := hbuiltin registration hget
    simp only [hget] at h
    cases hparser : (scope.chooseType registration (.map entries)).factory with
    | none => simp [hparser] at h
    | some parser =>
      simp only [hparser] at h
      obtain ⟨test, rfl⟩ := PropertyTypes.links_of_parseWith hchosen hparser h
      exact ⟨rfl, rfl⟩

end PopulateScope

end Flowgraph

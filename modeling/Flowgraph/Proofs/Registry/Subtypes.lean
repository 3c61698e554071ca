import Flowgraph.Proofs.Registry.Override
import Flowgraph.Registry.Basic
/-!
# Refining a base type

A property of a base type is parsed as the registered type that it names, if that is a subtype of
the base, and else as the base itself (`parseProperty_eq`, `chooseType_eq`). Subtypes are told by
the lineages that they were registered with, and the base is whoever holds its name now. So when a
type is registered over the base that it refines, the subtypes that descend from the newcomer are
parsed as before, and the values of all others are parsed as the newcomer
(`parseProperty_registerProperty`): children of the refined type do not become children of the
refining one (`refinement_disowns_subtypes`).

Of the built-in types only that of conditions has subtypes, so the values of all others are parsed
as their base, whatever type they name (`parseProperty_of_builtins`).
-/

namespace Flowgraph

namespace PopulateScope

variable {scope : PopulateScope} {base name : String} {v : Value}
  {registration named : Registration PropertyParser}

/-- Parses a value as a registered type. -/
def parseRegistered (scope : PopulateScope) (registration : Registration PropertyParser)
    (v : Value) : Except PopulateError PropertyValue :=
  match registration.factory with
  | some parser => scope.parseWith parser registration.info v (scope.readersOf v)
  | none => .error (.abstractType registration.info.name)

/-- A property is parsed as the chosen type. -/
theorem parseProperty_eq (h : scope.properties.get? base = some registration) (v : Value) :
    scope.parseProperty base v = scope.parseRegistered (scope.chooseType registration v) v := by
  simp only [parseProperty, parseAs, h]
  rfl

/-- The chosen type is the one that the value names, if it is a subtype of the base. -/
theorem chooseType_eq (htype : typeName? v = some name)
    (hnamed : scope.properties.get? name = some named)
    (registration : Registration PropertyParser) :
    scope.chooseType registration v =
      if named.info.isA registration.info then named else registration := by
  simp only [chooseType, htype, Option.bind_some, hnamed, Option.filter_some]
  split <;> rfl

/-- A base that nothing else descends from is the chosen type of every value. -/
theorem chooseType_of_only
    (honly : ∀ name named, scope.properties.get? name = some named →
      named.info.isA registration.info = true → named = registration) (v : Value) :
    scope.chooseType registration v = registration := by
  unfold chooseType
  cases hfound : ((typeName? v).bind scope.properties.get?).filter
      (fun named => named.info.isA registration.info) with
  | none => rfl
  | some named =>
    obtain ⟨hget, hisA⟩ := Option.filter_eq_some_iff.1 hfound
    obtain ⟨name, -, hget⟩ := Option.bind_eq_some_iff.1 hget
    rw [Option.getD_some, honly name named hget hisA]

end PopulateScope

/-! ## The built-in property types -/

/-- A built-in property type with values of its own has no subtypes. -/
theorem PropertyTypes.eq_of_isA {base named : Registration PropertyParser}
    (hbase : base ∈ registrations) (hconcrete : base.factory ≠ none)
    (hnamed : named ∈ registrations) (h : named.info.isA base.info = true) : named = base := by
  simp only [registrations, List.mem_cons, List.not_mem_nil, or_false] at hbase hnamed
  rcases hbase with rfl | rfl | rfl | rfl | rfl | rfl | rfl | rfl | rfl
  case inl => exact absurd rfl hconcrete
  all_goals
    rcases hnamed with rfl | rfl | rfl | rfl | rfl | rfl | rfl | rfl | rfl
    all_goals first | rfl | exact absurd h (by decide)

theorem Registry.eq_of_isA_builtins {base named : Registration PropertyParser} {name : String}
    (hbase : base ∈ PropertyTypes.registrations) (hconcrete : base.factory ≠ none)
    (hget : builtins.properties.get? name = some named)
    (h : named.info.isA base.info = true) : named = base := by
  have hentries : builtins.properties = ⟨"property", PropertyTypes.registrations.map
      fun registration => (registration.info.name, registration)⟩ := rfl
  rw [hentries] at hget
  exact PropertyTypes.eq_of_isA hbase hconcrete (Catalog.mem_of_get? hget).1 h

namespace PopulateScope

/-- With the built-in property types a value of a type with values of its own is parsed by the
parser of that type. -/
theorem parseProperty_of_builtins {scope : PopulateScope}
    (h : scope.properties = Registry.builtins.properties) {base : String} {info : TypeInfo}
    {parser : PropertyParser}
    (hmem : (⟨info, some parser⟩ : Registration PropertyParser) ∈ PropertyTypes.registrations)
    (hget : Registry.builtins.properties.get? base = some ⟨info, some parser⟩) (v : Value) :
    scope.parseProperty base v = scope.parseWith parser info v (scope.readersOf v) := by
  have hchosen : scope.chooseType ⟨info, some parser⟩ v = ⟨info, some parser⟩ := by
    refine chooseType_of_only (fun name named hnamed hisA => ?_) v
    rw [h] at hnamed
    exact Registry.eq_of_isA_builtins hmem nofun hnamed hisA
  rw [parseProperty_eq (h ▸ hget), hchosen]
  rfl

end PopulateScope

namespace Registry

open PopulateScope (typeName?)

/-- The holder of a name after a type was registered that refines the one before. -/
theorem get?_registerProperty {registry : Registry}
    {newcomer incumbent : Registration PropertyParser}
    (hbase : registry.properties.get? newcomer.info.name = some incumbent)
    (hrefines : Catalog.refines newcomer incumbent = true) (name : String) :
    (registry.registerProperty newcomer).properties.get? name =
      if newcomer.info.name = name then some newcomer else registry.properties.get? name := by
  rw [registerProperty, Catalog.get?_insert]
  split
  · next hname => rw [← hname, hbase, Catalog.holder_some, if_pos hrefines]
  · rfl

/-- **Refining a base keeps the subtypes of the newcomer.** A value that names a concrete subtype
of the incumbent is parsed by the parser of the subtype, and it still is after the newcomer took
the name of the incumbent, if the subtype has a name of its own and descends from the newcomer. In
every other case it is then parsed as the newcomer. -/
theorem parseProperty_registerProperty {registry : Registry} {model : Model}
    {newcomer incumbent subtype : Registration PropertyParser} {parser : PropertyParser}
    {name : String} {v : Value}
    (hbase : registry.properties.get? newcomer.info.name = some incumbent)
    (hrefines : Catalog.refines newcomer incumbent = true)
    (htype : typeName? v = some name)
    (hnamed : registry.properties.get? name = some subtype)
    (hsubtype : subtype.info.isA incumbent.info = true)
    (hconcrete : subtype.factory = some parser) :
    let before := registry.scope model
    let after := (registry.registerProperty newcomer).scope model
    before.parseProperty newcomer.info.name v =
        before.parseWith parser subtype.info v (before.readersOf v) ∧
      after.parseProperty newcomer.info.name v =
        if name ≠ newcomer.info.name ∧ subtype.info.isA newcomer.info = true then
          after.parseWith parser subtype.info v (after.readersOf v)
        else after.parseRegistered newcomer v := by
  intro before after
  have hafter := get?_registerProperty hbase hrefines
  constructor
  · have hheld : before.properties.get? newcomer.info.name = some incumbent := hbase
    rw [PopulateScope.parseProperty_eq hheld, PopulateScope.chooseType_eq htype hnamed,
      if_pos hsubtype, PopulateScope.parseRegistered, hconcrete]
  · have hself : after.properties.get? newcomer.info.name = some newcomer :=
      (hafter newcomer.info.name).trans (if_pos rfl)
    rw [PopulateScope.parseProperty_eq hself]
    by_cases hname : newcomer.info.name = name
    · subst hname
      rw [PopulateScope.chooseType_eq htype hself, if_pos (TypeInfo.isA_self _),
        if_neg fun h => h.1 rfl]
    · have hother : after.properties.get? name = some subtype :=
        ((hafter name).trans (if_neg hname)).trans hnamed
      rw [PopulateScope.chooseType_eq htype hother]
      cases hisA : subtype.info.isA newcomer.info with
      | true =>
        rw [if_pos rfl, if_pos ⟨Ne.symm hname, rfl⟩, PopulateScope.parseRegistered, hconcrete]
      | false =>
        rw [if_neg Bool.false_ne_true, if_neg fun h => Bool.false_ne_true h.2]

/-! ### Shapes and circles -/

/-- A parser that labels what it parses with its type. -/
def labelling : PropertyParser :=
  .host fun info _ _ => .ok (.host (.text info.qualifiedName))

/-- A type with a name of its own. -/
def circle : TypeInfo := { name := "Circle", qualifiedName := "base::Circle" }

/-- A registry of shapes and of circles, which descend from the given type. -/
def withCircles (parent : TypeInfo) : Registry :=
  (registerProperty {} ⟨Catalog.plainShape, some labelling⟩).registerProperty
    ⟨circle.derive parent, some labelling⟩

/-- A value that names the type of circles. -/
def aCircle : Value := .map [("_type", .text "Circle")]

/-- The registry of drawn circles once drawn shapes took the place of shapes. -/
def redrawn : Registry :=
  (withCircles Catalog.drawnShape).registerProperty ⟨Catalog.drawnShape, some labelling⟩

/-- A circle that is a drawn shape remains one. -/
theorem parseProperty_redrawn :
    (circle.derive Catalog.drawnShape).isA Catalog.plainShape = true ∧
      Catalog.refines ⟨Catalog.drawnShape, some labelling⟩
        (⟨Catalog.plainShape, some labelling⟩ : Registration PropertyParser) = true ∧
      (redrawn.scope .empty).parseProperty "Shape" aCircle =
        .ok (.host (.text "base::Circle")) := by
  have hrefines : Catalog.refines ⟨Catalog.drawnShape, some labelling⟩
      (⟨Catalog.plainShape, some labelling⟩ : Registration PropertyParser) = true := by decide
  have hsubtype : (circle.derive Catalog.drawnShape).isA Catalog.plainShape = true := by decide
  obtain ⟨-, hafter⟩ := @parseProperty_registerProperty (withCircles Catalog.drawnShape) .empty
    ⟨Catalog.drawnShape, some labelling⟩ ⟨Catalog.plainShape, some labelling⟩
    ⟨circle.derive Catalog.drawnShape, some labelling⟩ labelling "Circle" aCircle
    rfl hrefines rfl rfl hsubtype rfl
  exact ⟨hsubtype, hrefines, hafter⟩

/-- **Refining a base disowns its other subtypes.** A circle that is a shape is parsed as a drawn
shape once drawn shapes took the place of shapes. -/
theorem refinement_disowns_subtypes :
    ¬∀ (registry : Registry) (model : Model)
      (newcomer incumbent subtype : Registration PropertyParser) (parser : PropertyParser)
      (name : String) (v : Value),
      registry.properties.get? newcomer.info.name = some incumbent →
      Catalog.refines newcomer incumbent = true →
      typeName? v = some name → name ≠ newcomer.info.name →
      registry.properties.get? name = some subtype →
      subtype.info.isA incumbent.info = true → subtype.factory = some parser →
      ((registry.registerProperty newcomer).scope model).parseProperty newcomer.info.name v =
        ((registry.registerProperty newcomer).scope model).parseWith parser subtype.info v
          (((registry.registerProperty newcomer).scope model).readersOf v) := by
  intro h
  have hparsed := h (withCircles Catalog.plainShape) .empty ⟨Catalog.drawnShape, some labelling⟩
    ⟨Catalog.plainShape, some labelling⟩ ⟨circle.derive Catalog.plainShape, some labelling⟩
    labelling "Circle" aCircle rfl (by decide) rfl (by decide) rfl (by decide) rfl
  have hdrawn : (((withCircles Catalog.plainShape).registerProperty
      ⟨Catalog.drawnShape, some labelling⟩).scope .empty).parseProperty "Shape" aCircle =
      .ok (.host (.text "host::DrawnShape")) := rfl
  have hcircle := (hdrawn.symm.trans hparsed : Except.ok (PropertyValue.host
    (.text "host::DrawnShape")) = .ok (.host (.text "base::Circle")))
  simp at hcircle

end Registry

end Flowgraph

import Flowgraph.Proofs.Registry.Entities
import Flowgraph.Proofs.Run.RecordTasks
/-!
# Registries of built-in types and declared entities

What statements about tasks on records ask of a registry (`Registry.Standard`): the types of the
tasks are the built-in ones, entities are parsed as the built-in parser does, and every entity has
the schema that its store declares. The registry of the built-in types with the entities of some
stores is of this kind (`standard_registerProviders`), and it stays so when tasks write to the
stores (`Standard.rewrite`).
-/

namespace Flowgraph

open Data (Describes)

/-- Whether the types of tasks on records are the built-in ones, the entities are those of the
built-in parser, and they have the schemas that the stores declare. -/
structure Registry.Standard (registry : Registry) (stores : List Provider) : Prop where
  actions : ∀ type ∈ recordTypes, registry.IsBuiltinAction type
  properties : ∀ model, (registry.scope model).OwnEntities
  entities : ∀ name spec, Keyed.get? name registry.entities = some spec → Describes spec stores

/-- Writing to a store keeps a registry standard. -/
theorem Registry.Standard.rewrite {registry : Registry} {stores : List Provider}
    (h : registry.Standard stores) (written : EntitySpec) (records : List Record) :
    registry.Standard (Data.rewrite written records stores) where
  actions := h.actions
  properties := h.properties
  entities name spec hspec := Data.describes_rewrite (h.entities name spec hspec) records

namespace Registry

/-! ## Registered stores -/

/-- Whether a registry has the types of an earlier one, and no new entities but certain ones. -/
structure AddsOnly (allowed : EntitySpec → Prop) (registry after : Registry) : Prop where
  actions : after.actions = registry.actions
  properties : after.properties = registry.properties
  entities : ∀ name spec, Keyed.get? name after.entities = some spec →
    Keyed.get? name registry.entities = some spec ∨ allowed spec

namespace AddsOnly

variable {allowed : EntitySpec → Prop}

theorem foldl {β : Type} {register : Registry → β → Registry} {items : List β}
    (h : ∀ item ∈ items, ∀ registry, AddsOnly allowed registry (register registry item))
    (registry : Registry) : AddsOnly allowed registry (items.foldl register registry) := by
  induction items generalizing registry with
  | nil => exact ⟨rfl, rfl, fun _ _ h => .inl h⟩
  | cons first rest ih =>
    have hfirst := h first List.mem_cons_self registry
    have hrest := ih (fun item hitem => h item (List.mem_cons_of_mem _ hitem))
      (register registry first)
    refine ⟨hrest.actions.trans hfirst.actions, hrest.properties.trans hfirst.properties, ?_⟩
    intro name spec hspec
    rcases hrest.entities name spec hspec with hknown | hallowed
    · exact hfirst.entities name spec hknown
    · exact .inr hallowed

theorem registerEntity {spec : EntitySpec} (h : allowed spec) (registry : Registry) :
    AddsOnly allowed registry (registry.registerEntity spec) := by
  have htypes : (registry.registerEntity spec).actions = registry.actions ∧
      (registry.registerEntity spec).properties = registry.properties := by
    unfold Registry.registerEntity
    split <;> exact ⟨rfl, rfl⟩
  refine ⟨htypes.1, htypes.2, fun name found hfound => ?_⟩
  rw [entity?_registerEntity, Option.or_eq_some_iff] at hfound
  rcases hfound with hknown | ⟨-, hnew⟩
  · exact .inl hknown
  · split at hnew
    · cases hnew
      exact .inr h
    · cases hnew

/-- Registering stores adds the entities of their collections. -/
theorem registerProviders (stores : List Provider) (registry : Registry) :
    AddsOnly
      (fun spec => ∃ provider, stores[spec.provider.place]? = some provider ∧
        (spec.collection, spec.schema) ∈ provider.store.schemas)
      registry (registry.registerProviders stores) := by
  refine foldl (fun placed hplaced registry => ?_) registry
  have hprovider : stores[placed.2]? = some placed.1 := List.mem_zipIdx_iff_getElem?.1 hplaced
  refine foldl (fun spec hspec registry => registerEntity ?_ registry) registry
  obtain ⟨⟨collection, schema⟩, hdeclared, rfl⟩ := List.mem_map.1 hspec
  exact ⟨placed.1, hprovider, hdeclared⟩

end AddsOnly

/-- The built-in parsers make entities in one way only. -/
theorem ownEntities_builtins {registry : Registry}
    (h : registry.properties = Registry.builtins.properties) (model : Model) :
    (registry.scope model).OwnEntities := by
  intro type registration parse hget hhost
  have hentries : Registry.builtins.properties =
      ⟨"property", PropertyTypes.registrations.map fun registration =>
        (registration.info.name, registration)⟩ := rfl
  rw [scope, h, hentries] at hget
  obtain ⟨hmem, -⟩ := Catalog.mem_of_get? hget
  simp only [PropertyTypes.registrations, List.mem_cons, List.not_mem_nil, or_false] at hmem
  rcases hmem with rfl | rfl | rfl | rfl | rfl | rfl | rfl | rfl | rfl <;> cases hhost

/-- **The built-in types with the entities of some stores are standard.** -/
theorem standard_registerProviders {stores : List Provider}
    (hnodup : ∀ provider ∈ stores, (Keyed.keys provider.store.schemas).Nodup) :
    (Registry.builtins.registerProviders stores).Standard stores where
  actions type _ registration h := by
    rw [(AddsOnly.registerProviders stores _).actions] at h
    exact isBuiltinAction_builtins type registration h
  properties := ownEntities_builtins (AddsOnly.registerProviders stores _).properties
  entities name spec h := by
    rcases (AddsOnly.registerProviders stores _).entities name spec h with
      hknown | ⟨provider, hprovider, hdeclared⟩
    · cases hknown
    · intro provider' schema hprovider' hschema
      rw [hprovider, Option.some.injEq] at hprovider'
      subst hprovider'
      have hmem := List.mem_of_getElem? hprovider
      rw [Keyed.get?_of_mem (hnodup provider hmem) hdeclared, Option.some.injEq] at hschema
      exact hschema

end Registry

end Flowgraph

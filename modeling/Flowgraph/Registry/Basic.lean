import Flowgraph.Action.Types
import Flowgraph.Endpoint.Types
import Flowgraph.Store.Provider
/-!
# Registries

A registry holds the types that the documents of a model may name, in a catalogue for each group,
and the entities of the registered stores. It makes actions, endpoints and properties of nodes.

Main definitions: `Registry`, `Registry.builtins`, `Registry.registerProvider`,
`Registry.instantiateAction`, `Registry.instantiateEndpoint`, `Registry.instantiate`,
`Registry.describe`.
Main statements: `instantiateFrom_eq_ok`, `entity?_registerEntity`.
-/

namespace Flowgraph

/-- The registered types and entities. -/
structure Registry where
  actions : Catalog ActionFactory := ⟨"action", []⟩
  endpoints : Catalog EndpointFactory := ⟨"endpoint", []⟩
  properties : Catalog PropertyParser := ⟨"property", []⟩
  /-- The entities in ascending order of names. -/
  entities : List (String × EntitySpec) := []

/-- What a node was made into. -/
inductive Instance where
  | action (action : Action)
  | endpoint (endpoint : Endpoint)
  | property (property : PropertyValue)

namespace Registry

/-- The registry of the built-in types. -/
def builtins : Registry where
  actions := ActionTypes.registrations.foldl Catalog.insert ⟨"action", []⟩
  endpoints := EndpointTypes.registrations.foldl Catalog.insert ⟨"endpoint", []⟩
  properties := PropertyTypes.registrations.foldl Catalog.insert ⟨"property", []⟩

/-! ## Registration -/

/-- Registers an action type. -/
def registerAction (registry : Registry) (registration : Registration ActionFactory) : Registry :=
  { registry with actions := registry.actions.insert registration }

/-- Registers an endpoint type. -/
def registerEndpoint (registry : Registry) (registration : Registration EndpointFactory) :
    Registry :=
  { registry with endpoints := registry.endpoints.insert registration }

/-- Registers a property type. -/
def registerProperty (registry : Registry) (registration : Registration PropertyParser) :
    Registry :=
  { registry with properties := registry.properties.insert registration }

/-- Registers an entity unless its name is taken. -/
def registerEntity (registry : Registry) (spec : EntitySpec) : Registry :=
  if Keyed.has spec.name registry.entities then registry
  else { registry with entities := Keyed.insert spec.name spec registry.entities }

/-- Registers the entities of a store at a place among the registered ones. -/
def registerProvider (registry : Registry) (provider : Provider) (place : Nat) : Registry :=
  (provider.entities place).foldl registerEntity registry

/-- Registers the entities of stores in order. -/
def registerProviders (registry : Registry) (stores : List Provider) : Registry :=
  stores.zipIdx.foldl (fun registry (provider, place) => registry.registerProvider provider place)
    registry

/-! ## Making values of registered types -/

/-- What population looks at in a registry and a model. -/
def scope (registry : Registry) (model : Model) : PopulateScope :=
  ⟨registry.properties, registry.entities, model⟩

/-- Makes a value of a node's type in a catalogue. -/
def instantiateFrom {α : Type} (catalog : Catalog (FieldBag → Except String α))
    (scope : PopulateScope) (node : Node) : Except RegistryError α := do
  let registration ← catalog.resolve node.type
  let factory ← catalog.concrete registration
  match factory (scope.populateNode registration.info node) with
  | .ok made => .ok made
  | .error message => .error (.construction node.type message)

/-- A value that is made of a node is built from its populated properties. -/
theorem instantiateFrom_eq_ok {α : Type} {catalog : Catalog (FieldBag → Except String α)}
    {scope : PopulateScope} {node : Node} {made : α}
    (h : instantiateFrom catalog scope node = .ok made) :
    ∃ registration factory, catalog.get? node.type = some registration ∧
      registration.factory = some factory ∧
      factory (scope.populateNode registration.info node) = .ok made := by
  simp only [instantiateFrom, bind, Except.bind, Catalog.resolve, Catalog.concrete] at h
  cases hget : catalog.get? node.type with
  | none => simp [hget] at h
  | some registration =>
    cases hfactory : registration.factory with
    | none => simp [hget, hfactory] at h
    | some factory =>
      simp only [hget, hfactory] at h
      refine ⟨registration, factory, rfl, hfactory, ?_⟩
      split at h
      · next hbuild => cases h; exact hbuild
      · cases h

/-- What a type's factory builds of the populated properties is made of the node. -/
theorem instantiateFrom_of_factory {α : Type} {catalog : Catalog (FieldBag → Except String α)}
    {scope : PopulateScope} {node : Node} {registration : Registration (FieldBag → Except String α)}
    {factory : FieldBag → Except String α} {made : α}
    (hget : catalog.get? node.type = some registration)
    (hfactory : registration.factory = some factory)
    (hbuild : factory (scope.populateNode registration.info node) = .ok made) :
    instantiateFrom catalog scope node = .ok made := by
  simp only [instantiateFrom, bind, Except.bind, Catalog.resolve, Catalog.concrete, hget, hfactory,
    hbuild]

/-- Makes the action of a node. -/
def instantiateAction (registry : Registry) (model : Model) (node : Node) :
    Except RegistryError Action :=
  instantiateFrom registry.actions (registry.scope model) node

/-- Makes the endpoint of a node. -/
def instantiateEndpoint (registry : Registry) (model : Model) (node : Node) :
    Except RegistryError Endpoint :=
  instantiateFrom registry.endpoints (registry.scope model) node

/-- Parses the properties of a node as a property type. -/
def instantiateProperty (registry : Registry) (model : Model) (type : String) (node : Node) :
    Except RegistryError PropertyValue := do
  let scope := registry.scope model
  let registration ← registry.properties.resolve type
  let parser ← registry.properties.concrete registration
  let v : Value := .map node.properties
  match scope.parseWith parser registration.info v (scope.readersOf v) with
  | .ok made => .ok made
  | .error error => .error (.construction type error.message)

/-- Makes what a type name stands for of a node: an action, else an endpoint, else a property. -/
def instantiate (registry : Registry) (model : Model) (type : String) (node : Node) :
    Except RegistryError Instance :=
  if (registry.actions.get? type).isSome then
    (registry.instantiateAction model { node with type }).map .action
  else if (registry.endpoints.get? type).isSome then
    (registry.instantiateEndpoint model { node with type }).map .endpoint
  else (registry.instantiateProperty model type node).map .property

/-! ## Looking at a registry -/

/-- The entity of a name, or the error that there is none. -/
def entity (registry : Registry) (name : String) : Except RegistryError EntitySpec :=
  match Keyed.get? name registry.entities with
  | some spec => .ok spec
  | none => .error (.unknownEntity name)

/-- The names of the entities in ascending order. -/
def entityNames (registry : Registry) : List String :=
  Keyed.keys registry.entities

/-- The descriptions of all types and entities. -/
def describe (registry : Registry) : Value :=
  .ofEntries
    [("actions", registry.actions.describe), ("endpoints", registry.endpoints.describe),
      ("properties", registry.properties.describe),
      ("entities",
        .ofEntries (registry.entities.map fun (name, spec) => (name, spec.schema.describe)))]

/-- The first registration of an entity name counts. -/
theorem entity?_registerEntity (registry : Registry) (spec : EntitySpec) (name : String) :
    Keyed.get? name (registry.registerEntity spec).entities =
      (Keyed.get? name registry.entities).or (if spec.name = name then some spec else none) := by
  by_cases h : Keyed.has spec.name registry.entities = true
  · by_cases hn : spec.name = name
    · obtain ⟨known, hk⟩ := Option.isSome_iff_exists.1 h
      simp [registerEntity, h, ← hn, hk]
    · simp [registerEntity, h, hn]
  · by_cases hn : spec.name = name
    · simp only [Keyed.has, Bool.not_eq_true, Option.isSome_eq_false_iff,
        Option.isNone_iff_eq_none] at h
      simp [registerEntity, Keyed.has, h, ← hn, Keyed.get?_insert]
    · simp [registerEntity, h, hn, Keyed.get?_insert]

end Registry

end Flowgraph

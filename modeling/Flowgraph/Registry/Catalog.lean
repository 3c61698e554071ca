import Flowgraph.Registry.TypeInfo
/-!
# Catalogues of registered types

A catalogue holds the registrations of one group by name. A second registration of a name takes
the place of the first only when it refines it, that is, when its lineage has the qualified name
of the first.

Main definitions: `Registration`, `Catalog`, `Catalog.insert`, `RegistryError`.
Main statements: `get?_insert_of_refines`, `get?_insert_of_not_refines`, `mem_of_get?`.
-/

namespace Flowgraph

/-- Why a type or an entity cannot be used. -/
inductive RegistryError where
  | unknownType (group name : String)
  | abstractType (group name : String)
  | unknownEntity (name : String)
  | construction (name message : String)

/-- The message of an error. -/
def RegistryError.message : RegistryError → String
  | unknownType group name => s!"no {group} type named '{name}' is registered"
  | abstractType group name => s!"{group} type '{name}' is abstract and cannot be instantiated"
  | unknownEntity name => s!"no entity named '{name}' is registered"
  | construction name message => s!"failed to construct '{name}': {message}"

/-- A registered type: its description and, unless it is abstract, what builds its values. -/
structure Registration (α : Type) where
  info : TypeInfo
  factory : Option α

/-- The registrations of one group by name. -/
structure Catalog (α : Type) where
  group : String
  entries : List (String × Registration α) := []

namespace Catalog

variable {α : Type}

/-- The registration of a name. -/
def get? (catalog : Catalog α) (name : String) : Option (Registration α) :=
  Keyed.get? name catalog.entries

/-- Whether a registration may take the place of another one. -/
def refines (newcomer incumbent : Registration α) : Bool :=
  newcomer.info.lineage.contains incumbent.info.qualifiedName

/-- Stores a registration under its name, whatever was there. -/
def replace (catalog : Catalog α) (newcomer : Registration α) : Catalog α :=
  { catalog with entries := Keyed.put newcomer.info.name newcomer catalog.entries }

/-- Adds a registration; a name that is taken keeps its registration unless the newcomer refines
it. -/
def insert (catalog : Catalog α) (newcomer : Registration α) : Catalog α :=
  match catalog.get? newcomer.info.name with
  | some incumbent => if refines newcomer incumbent then catalog.replace newcomer else catalog
  | none => catalog.replace newcomer

/-- The registration of a name, or the error that there is none. -/
def resolve (catalog : Catalog α) (name : String) : Except RegistryError (Registration α) :=
  match catalog.get? name with
  | some registration => .ok registration
  | none => .error (.unknownType catalog.group name)

/-- What builds the values of a registered type, or the error that it is abstract. -/
def concrete (catalog : Catalog α) (registration : Registration α) : Except RegistryError α :=
  match registration.factory with
  | some factory => .ok factory
  | none => .error (.abstractType catalog.group registration.info.name)

/-- The descriptions of all types by name. -/
def describe (catalog : Catalog α) : Value :=
  .ofEntries (catalog.entries.map fun (name, registration) => (name, registration.info.describe))

theorem get?_replace (catalog : Catalog α) (newcomer : Registration α) (name : String) :
    (catalog.replace newcomer).get? name =
      if newcomer.info.name = name then some newcomer else catalog.get? name :=
  Keyed.get?_put ..

/-- A registration that refines the incumbent takes its place. -/
theorem get?_insert_of_refines {catalog : Catalog α} {newcomer incumbent : Registration α}
    (h : catalog.get? newcomer.info.name = some incumbent)
    (hr : refines newcomer incumbent = true) :
    (catalog.insert newcomer).get? newcomer.info.name = some newcomer := by
  simp [insert, h, hr, get?_replace]

/-- A registration that does not refine the incumbent changes nothing. -/
theorem get?_insert_of_not_refines {catalog : Catalog α} {newcomer incumbent : Registration α}
    (h : catalog.get? newcomer.info.name = some incumbent)
    (hr : refines newcomer incumbent = false) : catalog.insert newcomer = catalog := by
  simp [insert, h, hr]

/-- In a catalogue of registrations under their names a name stands for one of them. -/
theorem mem_of_get? {registrations : List (Registration α)} {group name : String}
    {registration : Registration α}
    (h : get? ⟨group, registrations.map fun registration => (registration.info.name, registration)⟩
      name = some registration) :
    registration ∈ registrations ∧ registration.info.name = name := by
  rw [get?] at h
  induction registrations with
  | nil => cases h
  | cons first rest ih =>
    rw [List.map_cons, Keyed.get?_cons] at h
    split at h
    · next hname =>
      cases h
      exact ⟨List.mem_cons_self, hname⟩
    · obtain ⟨hmem, hname⟩ := ih h
      exact ⟨List.mem_cons_of_mem _ hmem, hname⟩

end Catalog

end Flowgraph

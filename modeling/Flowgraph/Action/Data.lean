import Flowgraph.Action.Basic
import Flowgraph.Store.Provider
/-!
# Tasks on records

The tasks that read and change records. Each one opens a session on the store of its entity,
works on the copy of the entity's collection, and commits when it has changed something.

A task is a program on the stores. Where it fails, the stores stay as they are at that point:
nothing is put back, so whether a failed task changed something is a matter of what it did before.

Main definitions: `Data.StoreM`, `Data.Work`, `Data.openCollection`, `Data.commit`, `Data.create`,
`Data.read`, `Data.readFirst`, `Data.update`, `Data.delete`, `Data.count`.
Main statements: `keyOf?_overwrite`, `run_openCollection_bind`.
-/

namespace Flowgraph.Data

/-- A program on the stores. It may fail, and what it has done to them until then stays done. -/
abbrev StoreM := EStateM String (List Provider)

/-- The result of a task without an entity. -/
def noEntity : ActionResult :=
  .failureWith "no entity is selected"

/-- The result of a task that finds no record. -/
def noRecord (spec : EntitySpec) : ActionResult :=
  .failureWith s!"no matching record in '{spec.name}'"

/-- An open session on the store of an entity, with the copy of the entity's collection. -/
structure Work where
  provider : Provider
  session : Session
  collection : Collection

/-- A failure of a store as the failure of a task. -/
def lift {α : Type} (e : Except StoreError α) : StoreM α :=
  ofExcept (e.mapError StoreError.message)

/-- Opens a session on the store of an entity and touches the entity's collection. -/
def openCollection (spec : EntitySpec) (stores : List Provider) : Except StoreError Work :=
  match stores[spec.provider.place]? with
  | none => .error (.unknownCollection spec.collection)
  | some provider => do
    let session ← provider.openSession
    let (collection, session) := session.touch provider.store spec.collection
    return ⟨provider, session, ← collection⟩

/-- Commits the collection as it is now. The store is left as the commit leaves it, also when the
commit fails. -/
def commit (spec : EntitySpec) (work : Work) (collection : Collection) : StoreM Unit := do
  let (done, _, provider) := work.provider.commit (work.session.write spec.collection collection)
  modify fun stores => stores.set spec.provider.place provider
  lift done

/-- Ends a task that changes a record: commits the collection that an operation leaves, and returns
the record that it answers. Nothing is committed when the operation fails. -/
def finish (spec : EntitySpec) (work : Work) (made : Except StoreError Record × Collection) :
    StoreM ActionResult := do
  let record ← lift made.1
  commit spec work made.2
  return .returning (.map record)

/-! ## Finding a record -/

/-- The query of a lookup; none when it has neither a key nor rules. -/
def lookupQuery (lookup : RecordLookup) (schema : RecordSchema) :
    Except String (Option CompiledQuery) :=
  match lookup.idValue with
  | some id =>
    match schema.primaryKeyField? with
    | none =>
      .error s!"record type '{schema.name}' does not declare its primary key '{schema.primaryKey}'"
    | some _ =>
      .ok (some (.ofFilters [{ attr := schema.primaryKey, type := some .equal, value := .text id }]
        schema))
  | none => .ok (lookup.rules.map fun rules => .ofRules rules schema)

/-- The first record that a lookup selects. -/
def find (lookup : RecordLookup) (collection : Collection) : Except String (Option Record) := do
  let query ← lookupQuery lookup collection.schema
  return query.bind fun query => (collection.query query).head?

/-! ## The tasks -/

/-- Adds the record of an entity and returns it as it is stored. -/
def create (entity : Option EntityBinding) : StoreM ActionResult :=
  match entity with
  | none => return noEntity
  | some binding => do
    let work ← lift (openCollection binding.spec (← get))
    finish binding.spec work (work.collection.add binding.entry)

/-- The records of a collection that some rules select, all of them without rules. -/
def select (rules : Option RuleSet) (collection : Collection) : List Record :=
  match rules with
  | some rules => collection.query (.ofRules rules collection.schema)
  | none => collection.query {}

/-- Returns the records that some rules select. -/
def read (entity : Option EntitySpec) (rules : Option RuleSet) : StoreM ActionResult :=
  match entity with
  | none => return noEntity
  | some spec => do
    let work ← lift (openCollection spec (← get))
    return .returning (.list ((select rules work.collection).map .map))

/-- Returns the first record that a lookup selects. -/
def readFirst (entity : Option EntitySpec) (lookup : RecordLookup) : StoreM ActionResult :=
  match entity with
  | none => return noEntity
  | some spec => do
    let work ← lift (openCollection spec (← get))
    match ← ofExcept (find lookup work.collection) with
    | some record => return .returning (.map record)
    | none => return noRecord spec

/-- A record with the fields of another written over it, its key aside. -/
def overwrite (schema : RecordSchema) (record entry : Record) : Record :=
  let written := Keyed.insertAll entry record
  match schema.keyOf? record with
  | some key => Keyed.insert schema.primaryKey key written
  | none => written

/-- Writing fields over a record leaves its key alone, if it has one. -/
theorem keyOf?_overwrite {schema : RecordSchema} {record : Record} {key : Value}
    (h : schema.keyOf? record = some key) (entry : Record) :
    schema.keyOf? (overwrite schema record entry) = some key := by
  simp only [overwrite, h]
  rw [RecordSchema.keyOf?_insert, RecordSchema.isNull_of_keyOf? h]
  rfl

/-- Writes the fields of an entity over the first record that a lookup selects. An entity without
properties changes nothing. -/
def update (entity : Option EntityBinding) (lookup : RecordLookup) : StoreM ActionResult :=
  match entity with
  | none => return noEntity
  | some binding => do
    let work ← lift (openCollection binding.spec (← get))
    match ← ofExcept (find lookup work.collection) with
    | none => return noRecord binding.spec
    | some record =>
      if binding.properties.isEmpty then return .returning (.map record)
      else
        let written := overwrite binding.spec.schema record binding.entry
        finish binding.spec work (work.collection.update written)

/-- Removes the first record that a lookup selects and returns it. -/
def delete (entity : Option EntitySpec) (lookup : RecordLookup) : StoreM ActionResult :=
  match entity with
  | none => return noEntity
  | some spec => do
    let work ← lift (openCollection spec (← get))
    match ← ofExcept (find lookup work.collection) with
    | none => return noRecord spec
    | some record =>
      match spec.schema.keyOf? record with
      | none => return .failureWith s!"record in '{spec.name}' has no primary key value"
      | some key => finish spec work (work.collection.remove key)

/-- Counts the records that some filters select. -/
def count (entity : Option EntitySpec) (filters : List FilterRule) : StoreM ActionResult :=
  match entity with
  | none => return noEntity
  | some spec => do
    let work ← lift (openCollection spec (← get))
    let predicates := CompiledQuery.compileFilters filters work.collection.schema
    return .returning (.int (work.collection.count predicates))

/-! ## Running tasks -/

section Run

variable {α β : Type} (stores : List Provider)

/-- The stores as a program leaves them, also when it fails. -/
def after (task : StoreM α) : List Provider :=
  match task.run stores with
  | .ok _ stores => stores
  | .error _ stores => stores

variable {stores} in
theorem after_of_ok {task : StoreM α} {a : α} {left : List Provider}
    (h : task.run stores = .ok a left) : after stores task = left := by
  rw [after, h]

variable {stores} in
theorem after_of_error {task : StoreM α} {message : String} {left : List Provider}
    (h : task.run stores = .error message left) : after stores task = left := by
  rw [after, h]

theorem run_ofExcept_bind (e : Except String α) (f : α → StoreM β) :
    (ofExcept e >>= f).run stores =
      match e with
      | .ok a => (f a).run stores
      | .error message => .error message stores := by
  cases e <;> rfl

theorem run_lift_bind (e : Except StoreError α) (f : α → StoreM β) :
    (lift e >>= f).run stores =
      match e with
      | .ok a => (f a).run stores
      | .error error => .error error.message stores := by
  cases e <;> rfl

/-- Opening a session changes no store, whether it succeeds or not. -/
theorem run_openCollection_bind (spec : EntitySpec) (f : Work → StoreM β) :
    (do let work ← lift (openCollection spec (← get)); f work).run stores =
      match openCollection spec stores with
      | .ok work => (f work).run stores
      | .error error => .error error.message stores := by
  simp only [EStateM.run_bind, EStateM.run_get]
  cases openCollection spec stores <;> rfl

end Run

end Flowgraph.Data

import Flowgraph.Store.Collection
/-!
# Stores in memory

A store has a name, the schemas of its collections and the committed records of each. A session
works on copies that it takes when it first touches a collection; committing writes back the
copies that it has changed, whole.

Main definitions: `MemoryStore`, `MemoryStore.seed`, `MemoryStore.snapshot`, `Session`,
`Session.touch`, `Session.commit`.
Main statements: `snapshot_seed`, `collection?_touch`.
-/

namespace Flowgraph

/-- A store: the schemas and the committed records of its collections. -/
structure MemoryStore where
  name : String
  schemas : List (String × RecordSchema) := []
  tables : List (String × List Record) := []

namespace MemoryStore

/-- Declares a collection. -/
def declare (store : MemoryStore) (collection : String) (schema : RecordSchema) : MemoryStore :=
  { store with schemas := Keyed.put collection schema store.schemas }

/-- The committed records of a collection. -/
def snapshot (store : MemoryStore) (collection : String) : List Record :=
  (Keyed.get? collection store.tables).getD []

/-- Sets the committed records of a collection. -/
def write (store : MemoryStore) (collection : String) (records : List Record) : MemoryStore :=
  { store with tables := Keyed.put collection records store.tables }

/-- Appends records to a declared collection without a session. -/
def seed (store : MemoryStore) (collection : String) (records : List Record) :
    Except StoreError MemoryStore :=
  if Keyed.has collection store.schemas then
    .ok (store.write collection (store.snapshot collection ++ records))
  else .error (.unknownCollection collection)

theorem snapshot_write (store : MemoryStore) (collection other : String) (records : List Record) :
    (store.write collection records).snapshot other =
      if collection = other then records else store.snapshot other := by
  simp only [snapshot, write, Keyed.get?_put]
  split <;> rfl

/-- Seeding appends to one collection and leaves every other alone. -/
theorem snapshot_seed {store after : MemoryStore} {collection : String} {records : List Record}
    (h : store.seed collection records = .ok after) (other : String) :
    after.snapshot other =
      if collection = other then store.snapshot collection ++ records
      else store.snapshot other := by
  simp only [seed] at h
  split at h
  · cases h
    exact snapshot_write ..
  · cases h

end MemoryStore

/-- A session: its copies of the collections that it has touched. -/
structure Session where
  working : List (String × Collection) := []

namespace Session

/-- The session's copy of a collection. -/
def collection? (session : Session) (name : String) : Option Collection :=
  Keyed.get? name session.working

/-- Sets the session's copy of a collection. -/
def write (session : Session) (name : String) (collection : Collection) : Session :=
  ⟨Keyed.put name collection session.working⟩

/-- The session's copy of a collection, taken from the store when it is touched first. -/
def touch (session : Session) (store : MemoryStore) (name : String) :
    Except StoreError Collection × Session :=
  match session.collection? name with
  | some collection => (.ok collection, session)
  | none =>
    match Keyed.get? name store.schemas with
    | some schema =>
      let collection : Collection := { schema, records := store.snapshot name }
      (.ok collection, session.write name collection)
    | none => (.error (.unknownCollection name), session)

/-- Writes the changed copies back to the store. -/
def writeBack (working : List (String × Collection)) (store : MemoryStore) : MemoryStore :=
  working.foldl
    (fun store (name, collection) =>
      if collection.dirty then store.write name collection.records else store)
    store

/-- Writes the changed copies back and counts them as unchanged from then on. -/
def commit (session : Session) (store : MemoryStore) : Session × MemoryStore :=
  (⟨session.working.map fun (name, collection) => (name, { collection with dirty := false })⟩,
    writeBack session.working store)

/-- After a touch the session has the copy that the touch answered. -/
theorem collection?_touch {session after : Session} {store : MemoryStore} {name : String}
    {collection : Collection} (h : session.touch store name = (.ok collection, after)) :
    after.collection? name = some collection := by
  simp only [touch] at h
  split at h
  · next hc =>
    cases h
    exact hc
  · split at h
    · cases h
      simp [collection?, write, Keyed.get?_put]
    · cases h

end Session

end Flowgraph

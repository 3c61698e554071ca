import Flowgraph.Store.Provider
/-!
# Shared stores

A store together with the sessions that were opened on it. Whoever holds a session takes steps on
it whenever they like, so a run of a shared store is any schedule of steps: a session is opened, a
collection is seeded, a session does something with a collection, or a session is committed. One
step is never interrupted by another, since the store is locked while it is read or written.

Main definitions: `Collection.Operation`, `Collection.perform`, `Session.perform`, `SharedStore`,
`SharedStore.step`, `SharedStore.Run`, `SharedStore.Run.state`, `SharedStore.Run.answer`.
-/

namespace Flowgraph

namespace Collection

/-- What a session is asked to do with a collection. -/
inductive Operation where
  /-- Only looks the collection up. -/
  | touch
  | add (record : Record)
  | update (record : Record)
  | remove (key : Value)
  | query (q : CompiledQuery)
  | count (filters : List Predicate)

/-- What an operation answers. -/
inductive Answer where
  | done
  | record (record : Record)
  | records (records : List Record)
  | number (n : Nat)

/-- Carries out an operation, and leaves a collection behind also when it fails. -/
def perform (collection : Collection) : Operation → Except StoreError Answer × Collection
  | .touch => (.ok .done, collection)
  | .add record => (collection.add record).map (Except.map .record) id
  | .update record => (collection.update record).map (Except.map .record) id
  | .remove key => (collection.remove key).map (Except.map .record) id
  | .query q => (.ok (.records (collection.query q)), collection)
  | .count filters => (.ok (.number (collection.count filters)), collection)

end Collection

/-- Carries out an operation on the session's copy of a collection. The session keeps the copy as
the operation leaves it, also when the operation fails. -/
def Session.perform (session : Session) (store : MemoryStore) (name : String)
    (op : Collection.Operation) : Except StoreError Collection.Answer × Session :=
  match session.touch store name with
  | (.error error, session) => (.error error, session)
  | (.ok collection, session) =>
    let (answer, after) := collection.perform op
    (answer, session.write name after)

/-- A store with the sessions that were opened on it, in order. -/
structure SharedStore where
  provider : Provider
  sessions : List Session := []

namespace SharedStore

/-- One step on a shared store; sessions go by their places in the order of opening. -/
inductive Step where
  | opening
  | seed (collection : String) (records : List Record)
  | act (session : Nat) (collection : String) (op : Collection.Operation)
  | commit (session : Nat)

/-- Seeds a collection. -/
def seed (shared : SharedStore) (collection : String) (records : List Record) :
    Except StoreError Collection.Answer × SharedStore :=
  match shared.provider.store.seed collection records with
  | .error error => (.error error, shared)
  | .ok store => (.ok .done, { shared with provider := { shared.provider with store } })

/-- Commits a session. -/
def commit (shared : SharedStore) (place : Nat) (session : Session) :
    Except StoreError Collection.Answer × SharedStore :=
  let (done, session, provider) := shared.provider.commit session
  (done.map fun _ => .done, ⟨provider, shared.sessions.set place session⟩)

/-- Takes a step. There is no answer when the session was never opened. -/
def step (shared : SharedStore) :
    Step → Option (Except StoreError Collection.Answer) × SharedStore
  | .opening =>
    match shared.provider.openSession with
    | .error error => (some (.error error), shared)
    | .ok session =>
      (some (.ok (.number shared.sessions.length)),
        { shared with sessions := shared.sessions ++ [session] })
  | .seed collection records =>
    let (answer, after) := shared.seed collection records
    (some answer, after)
  | .act place name op =>
    match shared.sessions[place]? with
    | none => (none, shared)
    | some session =>
      let (answer, after) := session.perform shared.provider.store name op
      (some answer, { shared with sessions := shared.sessions.set place after })
  | .commit place =>
    match shared.sessions[place]? with
    | none => (none, shared)
    | some session =>
      let (answer, after) := shared.commit place session
      (some answer, after)

/-- The committed records of a collection. -/
def table (shared : SharedStore) (name : String) : List Record :=
  shared.provider.store.snapshot name

/-- A session's copy of a collection, if it has taken one. -/
def copy? (shared : SharedStore) (place : Nat) (name : String) : Option Collection :=
  shared.sessions[place]?.bind fun session => session.collection? name

/-- A run: a store that no session is opened on yet, and the steps that are taken on it in their
order. Time counts steps; a run that ends is the beginning of many that go on. -/
structure Run where
  provider : Provider
  schedule : Nat → Step

namespace Run

/-- The shared store at a time. -/
def state (run : Run) : Nat → SharedStore
  | 0 => ⟨run.provider, []⟩
  | t + 1 => ((run.state t).step (run.schedule t)).2

/-- The answer to the step that is taken at a time. -/
def answer (run : Run) (t : Nat) : Option (Except StoreError Collection.Answer) :=
  ((run.state t).step (run.schedule t)).1

end Run

end SharedStore

end Flowgraph

import Flowgraph.Registry.PropertyValue
import Flowgraph.Store.Memory
/-!
# Registered stores

The stores behind the entities of a registry, in order of registration. A store may be registered
with a fault, so that opening a session or committing one fails.

Main definitions: `Fault`, `Provider`, `Provider.openSession`, `Provider.commit`,
`Provider.entities`.
-/

namespace Flowgraph

/-- What fails on a store that is not working. -/
inductive Fault where
  | atOpen
  | atCommit
  deriving DecidableEq

/-- A registered store. -/
structure Provider where
  store : MemoryStore
  fault : Option Fault := none

namespace Provider

/-- Opens a session. -/
def openSession (provider : Provider) : Except StoreError Session :=
  if provider.fault = some .atOpen then .error (.backend "cannot open") else .ok {}

/-- Commits a session. What the commit leaves of the session and of the store is left also when it
fails. -/
def commit (provider : Provider) (session : Session) :
    Except StoreError Unit × Session × Provider :=
  if provider.fault = some .atCommit then (.error (.backend "cannot commit"), session, provider)
  else
    let (session, store) := session.commit provider.store
    (.ok (), session, { provider with store })

/-- The entities of a store at a place among the registered ones, a dot between the names of store
and collection. -/
def entities (provider : Provider) (place : Nat) : List EntitySpec :=
  provider.store.schemas.map fun (collection, schema) =>
    ⟨provider.store.name ++ "." ++ collection, collection, schema, ⟨place, provider.store.name⟩⟩

end Provider

end Flowgraph

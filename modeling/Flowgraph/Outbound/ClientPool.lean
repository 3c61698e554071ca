import Flowgraph.Url.Basic
/-!
# Shared clients

One client is kept for each server that was called, with one time limit for all of them.

Main definitions: `ClientPool`, `ClientPool.clientFor`.
Main statement: `clientFor_clientFor`.
-/

namespace Flowgraph

/-- The servers that have a client, and the time limit of calls in seconds. -/
structure ClientPool where
  timeout : Nat := 30
  servers : List String := []
  deriving DecidableEq

namespace ClientPool

/-- Keeps a client for the server of a URL. -/
def clientFor (pool : ClientPool) (url : Url) : ClientPool :=
  if pool.servers.contains url.serverKey then pool
  else { pool with servers := pool.servers ++ [url.serverKey] }

/-- The number of clients. -/
def size (pool : ClientPool) : Nat :=
  pool.servers.length

/-- A second call to the same server needs no further client. -/
theorem clientFor_clientFor (pool : ClientPool) (url : Url) :
    (pool.clientFor url).clientFor url = pool.clientFor url := by
  simp only [clientFor]
  split <;> simp_all

end ClientPool

end Flowgraph

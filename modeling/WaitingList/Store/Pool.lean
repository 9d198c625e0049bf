import WaitingList.Store.Connection

namespace WaitingList

/-- The connections of a manager. How long one waits for a connection before it is said that the
time is up is not told: only the end of the wait shows. -/
structure Pool where
  /-- How many connections there may be. -/
  size : Nat
  /-- How many are open and at rest. -/
  idle : Nat
  /-- How many are at work. -/
  lent : Nat
  deriving DecidableEq, Repr

/-- A store, and the connections through which it is worked on. -/
structure PooledStore where
  pool : Pool
  store : Store
  deriving DecidableEq, Repr

namespace Pool

/-- A pool of which no connection has been asked for yet. One of size 0 is taken to open like any
other and never to lend. -/
def ofSize (size : Nat) : Pool := ⟨size, 0, 0⟩

/-- Lends a connection. One that is at rest is lent as it is, and only where there is none a new one
is made. While all that there may be are at work, waiting for one comes to its end. -/
def lend (pool : Pool) (store : Store) (options : ConnectionOptions) : Except StoreError Pool :=
  if pool.lent < pool.size then
    match pool.idle with
    | idle + 1 => .ok { pool with idle, lent := pool.lent + 1 }
    | 0 =>
      match store.refusal? .pooled options with
      | some error => .error error
      | none => .ok { pool with lent := pool.lent + 1 }
  else .error .poolTimedOut

/-- Takes a connection back, which is at rest from then on. -/
def takeBack (pool : Pool) : Pool :=
  { pool with idle := pool.idle + 1, lent := pool.lent - 1 }

end Pool

namespace PooledStore

/-- Works on the server over a connection of the pool, which gets it back however the work ends.
`fault` makes an error of why there is no connection. -/
def work {ε α : Type} (p : PooledStore) (options : ConnectionOptions) (fault : StoreError → ε)
    (work : ServerWork ε α) : Except ε α × PooledStore :=
  match p.pool.lend p.store options with
  | .error error => (.error (fault error), p)
  | .ok pool =>
    let (result, server) := (work.run.run p.store.server : Except ε α × Server)
    (result, ⟨pool.takeBack, { p.store with server }⟩)

def arm (p : PooledStore) (f : Failure) : PooledStore := { p with store := p.store.arm f }

end PooledStore

end WaitingList

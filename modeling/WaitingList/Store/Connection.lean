import WaitingList.Connection.Target
import WaitingList.Store.Server

namespace WaitingList

/-- What answers where the store is said to be. -/
inductive Reach where
  /-- The server. It cannot encrypt. -/
  | server
  /-- The machine, on which nothing listens. -/
  | silence
  /-- Nothing: no route leads there. -/
  | nowhere
  deriving DecidableEq, Repr

inductive ConnectionUse where
  /-- By a pool, which tries again until its time is up. -/
  | pooled
  /-- Once. -/
  | direct
  deriving DecidableEq, Repr

/-- The store, as the service finds it. -/
structure Store where
  reach : Reach
  server : Server
  deriving DecidableEq, Repr

namespace Store

/-- Why a connection with some options cannot be made, if it cannot, so that it carries no statement
at all. A mode that demands encryption is never given up. -/
def refusal? (store : Store) (use : ConnectionUse) (options : ConnectionOptions) :
    Option StoreError :=
  match store.reach, use with
  | .nowhere, _ => some .unreachable
  | .silence, .pooled => some .poolTimedOut
  | .silence, .direct => some .refused
  | .server, _ =>
    if options.sslMode.demandsTls then some .noTls
    else if store.server.password.any (· != options.password) then
      some (.database s!"password authentication failed for user \"{options.username}\"")
    else none

def arm (store : Store) (f : Failure) : Store := { store with server := store.server.arm f }

/-- Connects and works on the server. `fault` makes an error of why there is no connection. -/
def work {ε α : Type} (store : Store) (use : ConnectionUse) (options : ConnectionOptions)
    (fault : StoreError → ε) (work : ServerWork ε α) : Except ε α × Store :=
  match store.refusal? use options with
  | some error => (.error (fault error), store)
  | none =>
    let (result, server) := (work.run.run store.server : Except ε α × Server)
    (result, { store with server })

end Store

end WaitingList

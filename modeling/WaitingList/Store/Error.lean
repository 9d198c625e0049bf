namespace WaitingList

/-- Why a statement did not reach the store, or why the store refused it. -/
inductive StoreError where
  /-- No connection of the pool became free in time. -/
  | poolTimedOut
  /-- Nothing listens at the store's address. -/
  | refused
  /-- No route leads to the store. -/
  | unreachable
  /-- The connection has to be encrypted, and the store cannot. -/
  | noTls
  /-- The store answered with an error. -/
  | database (text : String)
  deriving DecidableEq, Repr

namespace StoreError

def message : StoreError → String
  | poolTimedOut => "pool timed out while waiting for an open connection"
  | refused => "error communicating with database: Connection refused (os error 111)"
  | unreachable => "error communicating with database: Network is unreachable (os error 101)"
  | noTls => "error occurred while attempting to establish a TLS connection: " ++
      "server does not support TLS"
  | database text => s!"error returned from database: {text}"

end StoreError

end WaitingList

import WaitingList.Log.Layout
import WaitingList.Service.Subscription
import WaitingList.Settings.Load
import WaitingList.Store.Pool

namespace WaitingList

/-- The machine that the service runs on. -/
structure Machine where
  /-- Whether an address and a port are there to listen on. -/
  canListen : HostAddress → Nat → Bool

/-- Why the service does not start. -/
inductive StartError where
  | settings (error : SettingsError)
  | store (error : ManagerError)
  /-- The address cannot be listened on. -/
  | listen
  deriving DecidableEq, Repr

namespace StartError

def typeName : StartError → String
  | settings _ => "Config"
  | store _ => "Database"
  | listen => "Io"

def message : StartError → String
  | settings error => s!"config error: {error.message}"
  | store error => s!"database error: {error.message}"
  | listen => "io error: Cannot assign requested address (os error 99)"

end StartError

/-- What a start comes to: the service or why there is none, the store afterwards, and what is
logged. -/
structure Start where
  result : Except StartError Service
  store : Store
  events : List Event
  deriving Repr

/-- What a start comes to, and the connections that it leaves to the service. -/
structure PooledStart extends Start where
  pool : Pool
  deriving Repr

/-- The store that a start leaves, behind the pool that it leaves. -/
def PooledStart.pooled (start : PooledStart) : PooledStore := ⟨start.pool, start.store⟩

/-- The lines of the log that a start leaves, under a filter that is asked for. -/
def Start.lines (start : Start) (profile : LogProfile) (wanted : Option String) (time : String) :
    List String :=
  profile.lines (profile.filter wanted) time (start.events.map fun event => ⟨none, event.record⟩)

namespace Service

def ofSettings (settings : Settings) : Service :=
  ⟨.ofTarget settings.target, settings.emailPolicy⟩

def listen (settings : Settings) (machine : Machine) (store : Store) (events : List Event) :
    Start :=
  let network := settings.network
  if machine.canListen network.host network.port then
    ⟨.ok (ofSettings settings), store, events ++ [.listening network.host network.port]⟩
  else ⟨.error .listen, store, events⟩

/-- The pool that a start opens before a store. It has as many connections as the settings ask for;
a pool of none never lends one. -/
def openPool (settings : Settings) (store : Store) : PooledStore :=
  ⟨.ofSize settings.pool.maxConnections, store⟩

/-- The migration that a start begins with if the settings ask for one. -/
def migrateFirst (settings : Settings) (store : Store) : Except ManagerError Unit × PooledStore :=
  (ofSettings settings).manager.migratePooled (openPool settings store)

/-- Starts the service that settings describe. -/
def startPooled (settings : Settings) (machine : Machine) (store : Store) : PooledStart :=
  if settings.pool.migrateOnStart then
    let (result, p) := migrateFirst settings store
    let events := [.poolOpened, .migrationBegun]
    match result with
    | .error error => ⟨⟨.error (.store error), p.store, events⟩, p.pool⟩
    | .ok () => ⟨listen settings machine p.store events, p.pool⟩
  else ⟨listen settings machine store [.poolOpened], (openPool settings store).pool⟩

end Service

namespace Surroundings

def start (s : Surroundings) (machine : Machine) (store : Store) : Start :=
  match s.settings with
  | .error error => ⟨.error (.settings error), store, s.events⟩
  | .ok settings =>
    let start := (Service.startPooled settings machine store).toStart
    { start with events := s.events ++ start.events }

end Surroundings

end WaitingList

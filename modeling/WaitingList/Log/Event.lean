import WaitingList.Email.Policy
import WaitingList.Log.RequestLine
import WaitingList.Net.HostAddress
import WaitingList.Settings.Environment

namespace WaitingList

/-- The parts of the service that log. -/
inductive LogSource where
  | settings
  | store
  | startup
  | requests
  | requestLines
  | errors
  | subscriptions
  deriving DecidableEq, Repr

namespace LogSource

/-- The name that a part logs under. Names of parts begin with the name of what they are part of. -/
def target : LogSource → String
  | settings => "waitlist::config"
  | store => "waitlist::database"
  | startup => "waitlist::app"
  | requests => "waitlist::web::serve"
  | requestLines => "waitlist::web::log"
  | errors => "waitlist::web::error"
  | subscriptions => "waitlist::web::routes::api::subscribe"

end LogSource

/-- Something that is worth a line in the log. -/
inductive Event where
  /-- The settings of the run are about to be read. -/
  | settingsSought
  /-- The settings of the run are complete. -/
  | settingsRead (environment : Environment) (policy : EmailPolicy)
  /-- A manager of the store has been set up. -/
  | poolOpened
  /-- Migrations are about to run. -/
  | migrationBegun
  /-- A database that was made for a test is gone. -/
  | testDatabaseDropped (name : String)
  /-- The service waits for requests. -/
  | listening (host : HostAddress) (port : Nat)
  /-- A request has come in. -/
  | requestBegun (uri : String)
  /-- A request is refused, or failed. -/
  | requestRefused (error : RequestError)
  /-- An address is on the list. -/
  | subscriberRecorded (time : String)
  /-- The line that is kept of a request. -/
  | requestLogged (line : RequestLine)
  /-- A request has been answered. -/
  | requestEnded (latency : String) (status : Nat)
  deriving DecidableEq, Repr

namespace Event

/-- How much an event matters. -/
def level : Event → Level
  | requestRefused _ => .debug
  | requestLogged line => line.level
  | requestEnded _ status =>
    if isServerError status then .error else if isClientError status then .warn else .info
  | _ => .info

/-- The part of the service that logs an event. -/
def source : Event → LogSource
  | settingsSought | settingsRead .. => .settings
  | poolOpened | migrationBegun | testDatabaseDropped _ => .store
  | listening .. => .startup
  | requestBegun _ | requestEnded .. => .requests
  | requestRefused _ => .errors
  | subscriberRecorded _ => .subscriptions
  | requestLogged _ => .requestLines

/-- The name of a step in a column of its own, then what is done. -/
def inColumn (width : Nat) (step text : String) : String :=
  step.pushn ' ' (width - step.length) ++ " - " ++ text

/-- The width of the column in which a step is named. -/
def stepWidth : Nat := 20

def text : Event → String
  | settingsSought => inColumn stepWidth "try_init_config" "Initializing the configuration"
  | settingsRead environment policy =>
    inColumn stepWidth "try_init_config"
      s!"Environment: {environment.name}, email policy: {policy.name}"
  | poolOpened => inColumn stepWidth "init_db" "Initializing the DB pool"
  | migrationBegun => inColumn stepWidth "migrate_db" "Running migrations"
  | testDatabaseDropped name => inColumn stepWidth "test_teardown" s!"Dropped test database {name}"
  | listening host port => inColumn stepWidth "Listening on:" (host.withPort port)
  | requestBegun uri => s!"START @ {uri}"
  | requestRefused error => inColumn 12 "INTO_RESP" s!"into_response(Error: {error.message})"
  | subscriberRecorded time => s!"Subscriber recorded at {time}"
  | requestLogged line => s!"LOGLINE: {line.json}"
  | requestEnded latency status => s!"END in: {latency} - STATUS: {status}"

end Event

end WaitingList

import WaitingList.Connection.SslMode
import WaitingList.Connection.Url

namespace WaitingList

/-- Where the store is, and how to log in to it. -/
structure ConnectionTarget where
  username : String
  password : String
  port : Nat
  host : String
  database : String
  sslMode : SslMode
  deriving DecidableEq, Repr

/-- What one connection asks for. -/
structure ConnectionOptions where
  host : String
  port : Nat
  username : String
  password : String
  /-- The database to work in, if any. -/
  database : Option String
  sslMode : SslMode
  deriving DecidableEq, Repr

namespace ConnectionTarget

/-- The port that a store listens on unless told otherwise. -/
def defaultPort : Nat := 5432

/-- The options of a connection to the server, which works in no database. -/
def serverOptions (target : ConnectionTarget) : ConnectionOptions where
  host := target.host
  port := target.port
  username := target.username
  password := target.password
  database := none
  sslMode := target.sslMode

/-- The options of a connection to the target's database. -/
def options (target : ConnectionTarget) : ConnectionOptions :=
  { target.serverOptions with database := some target.database }

/-- The name of the option that sets the mode. -/
def sslModeKey : String := "sslmode"

/-- The mode that options ask for: the last one that is set, or `prefer`. A word that is no mode
refuses the whole. -/
def sslMode? (options : List (String × String)) : Option SslMode :=
  options.foldlM
    (fun mode (name, value) => if name = sslModeKey then SslMode.ofOption? value else some mode)
    .prefer

/-- The database that a path names: one segment, however many slashes stand in front of it. -/
def database? (path : List (List Char)) : Option (List Char) := do
  match path.dropWhile List.isEmpty with
  | [segment] =>
    let name ← Percent.decode? segment
    if name.isEmpty || name.contains '/' then none else some name
  | _ => none

def schemes : List (List Char) := ["postgres".toList, "postgresql".toList]

def ofUrlParts? (url : ConnectionUrl) : Option ConnectionTarget := do
  if !schemes.contains url.scheme then none
  let username ← Percent.decode? url.user
  if username.isEmpty || url.host.isEmpty then none
  let password ← Percent.decode? url.password
  let database ← database? url.path
  let sslMode ← sslMode? url.options
  some
    { username := String.ofList username
      password := String.ofList password
      port := url.port.getD defaultPort
      host := String.ofList url.host
      database := String.ofList database
      sslMode }

/-- The target that a URL gives, if the URL is one of a store and complete. -/
def ofUrl? (text : String) : Option ConnectionTarget := do
  ofUrlParts? (← ConnectionUrl.ofText? text)

end ConnectionTarget

end WaitingList

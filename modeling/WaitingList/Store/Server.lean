import WaitingList.Store.Database
import WaitingList.Store.Error
import WaitingList.Store.Statement

namespace WaitingList

/-- The server behind the store, which runs statements one at a time. A statement that fails leaves
everything as it was, apart from the failure that was waiting for it. -/
structure Server where
  databases : List (String × Database)
  /-- How many writes there have been, over all databases. -/
  writes : Nat
  /-- The failure that waits for a statement. -/
  armed : Option Failure
  /-- The password that has to be given, if any. -/
  password : Option String
  deriving DecidableEq, Repr

namespace Server

/-- A server that holds nothing. -/
def empty : Server := ⟨[], 0, none, none⟩

/-- A server with one database, in which nothing has been done yet. -/
def ofDatabase (name : String) : Server := ⟨[(name, .empty)], 0, none, none⟩

def has (s : Server) (name : String) : Bool := s.databases.any (·.1 == name)

/-- A database. One that is not there counts as empty. -/
def database (s : Server) (name : String) : Database := (s.databases.lookup name).getD .empty

/-- The server with a database put in place. -/
def setDatabase (s : Server) (name : String) (d : Database) : Server :=
  if s.has name then
    { s with
      databases := s.databases.map fun entry => if entry.1 == name then (name, d) else entry }
  else { s with databases := s.databases ++ [(name, d)] }

def removeDatabase (s : Server) (name : String) : Server :=
  { s with databases := s.databases.filter (·.1 != name) }

/-- The server with a failure armed in place of the one that was. -/
def arm (s : Server) (f : Failure) : Server := { s with armed := some f }

end Server

/-- Work on a server that may end with an error. What was done before the error stays done. -/
abbrev ServerWork (ε α : Type) : Type := ExceptT ε (StateM Server) α

namespace ServerWork

/-- Has a statement run: a failure that waits for it is spent on it. -/
def attempt (statement : Statement) : ServerWork StoreError Unit := do
  let s ← get
  match s.armed with
  | some failure =>
    if failure.hits statement then
      set { s with armed := none }
      throw (.database failure.text)
  | none => pure ()

/-- Has a statement run in a database and gives what the database holds. One that is not there is
made, where PostgreSQL refuses the connection to it: what is said of work that succeeds is said of
servers that have the database. -/
def attemptIn (database : String) (statement : Statement) : ServerWork StoreError Database := do
  modify fun s => s.setDatabase database (s.database database)
  attempt statement
  return (← get).database database

def put (name : String) (d : Database) : ServerWork StoreError Unit :=
  modify fun s => s.setDatabase name d

/-- Inserts an address, or refreshes it if it is there. -/
def upsert (database email : String) : ServerWork StoreError Unit := do
  let d ← attemptIn database .upsert
  match d.rows with
  | none => throw (.database "relation \"subscribers\" does not exist")
  | some rows =>
    let number := (← get).writes + 1
    put database { d with rows := some (Row.write rows email number) }
    modify fun s => { s with writes := number }

def createDatabase (name : String) : ServerWork StoreError Unit := do
  attempt .createDatabase
  if (← get).has name then throw (.database s!"database \"{name}\" already exists")
  put name .empty

def dropDatabase (name : String) : ServerWork StoreError Unit := do
  attempt .dropDatabase
  modify fun s => s.removeDatabase name

end ServerWork

end WaitingList

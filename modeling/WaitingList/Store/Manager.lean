import WaitingList.Log.Event
import WaitingList.Store.Migration
import WaitingList.Store.Pool

namespace WaitingList

/-- What goes wrong in the work of a manager. -/
inductive ManagerError where
  | statement (error : StoreError)
  | migration (error : MigrationError)
  deriving DecidableEq, Repr

namespace ManagerError

def typeName : ManagerError → String
  | statement _ => "Sqlx"
  | migration _ => "SqlxMigrate"

def message : ManagerError → String
  | statement error => s!"sqlx error: {error.message}"
  | migration error => s!"sqlx migration error: {error.message}"

end ManagerError

/-- A manager of the store. -/
structure Manager where
  /-- Where the manager's database is. -/
  target : ConnectionTarget
  /-- Whether the database was made for this manager. -/
  ownsDatabase : Bool
  deriving DecidableEq, Repr

/-- What work on the store comes to: its result, the store afterwards, and what is logged. -/
structure Outcome (α : Type) where
  result : Except ManagerError α
  store : Store
  events : List Event
  deriving Repr

namespace Manager

/-- The manager of a target's database. Nothing is connected to yet. -/
def ofTarget (target : ConnectionTarget) : Manager := ⟨target, false⟩

/-- The name of the manager's own database, if it has one. -/
def ownDatabase? (m : Manager) : Option String :=
  if m.ownsDatabase then some m.target.database else none

/-- Brings the manager's database up to date, where there is always room for a connection. -/
def migrate (m : Manager) (store : Store) : Outcome Unit :=
  let (result, store) := store.work .pooled m.target.options
    (fun error => .migration (.execute error))
    (ExceptT.adapt .migration (Migration.run m.target.database))
  ⟨result, store, [.migrationBegun]⟩

/-- Inserts an address into the manager's database, or refreshes it, where there is always room for
a connection. -/
def upsert (m : Manager) (email : String) (store : Store) : Except StoreError Unit × Store :=
  store.work .pooled m.target.options id (ServerWork.upsert m.target.database email)

/-- Brings the manager's database up to date, over a connection of the pool. -/
def migratePooled (m : Manager) (p : PooledStore) : Except ManagerError Unit × PooledStore :=
  p.work m.target.options (fun error => .migration (.execute error))
    (ExceptT.adapt .migration (Migration.run m.target.database))

/-- Inserts an address into the manager's database, or refreshes it, over a connection of the
pool. -/
def upsertPooled (m : Manager) (email : String) (p : PooledStore) :
    Except StoreError Unit × PooledStore :=
  p.work m.target.options id (ServerWork.upsert m.target.database email)

/-- What databases that are made for tests are called. -/
def testDatabaseName (token : String) : String := "test_" ++ token

/-- Makes a database for a test on the server of a target, named by a token that is not used
twice, and brings it up to date over a pool of a size. The connection that makes it is closed in
between; `closing` is why it cannot be, if it cannot. -/
def ofTest (target : ConnectionTarget) (size : Nat) (token : String) (closing : Option StoreError)
    (store : Store) : Outcome Manager :=
  let name := testDatabaseName token
  match store.work .direct target.serverOptions id (ServerWork.createDatabase name), closing with
  | (.error error, store), _ => ⟨.error (.statement error), store, []⟩
  | (.ok (), store), some error => ⟨.error (.statement error), store, []⟩
  | (.ok (), store), none =>
    let m : Manager := ⟨{ target with database := name }, true⟩
    let (result, p) := m.migratePooled ⟨.ofSize size, store⟩
    ⟨result.map fun () => m, p.store, [.migrationBegun]⟩

/-- Gives the manager up. Its own database, if it has one, is removed through a connection to the
server of `target`; `closing` is why that one cannot be closed, if it cannot. -/
def close (m : Manager) (target : ConnectionTarget) (closing : Option StoreError) (store : Store) :
    Outcome Unit :=
  match m.ownDatabase? with
  | none => ⟨.ok (), store, []⟩
  | some name =>
    match store.work .direct target.serverOptions id (ServerWork.dropDatabase name), closing with
    | (.error error, store), _ => ⟨.error (.statement error), store, []⟩
    | (.ok (), store), some error => ⟨.error (.statement error), store, []⟩
    | (.ok (), store), none => ⟨.ok (), store, [.testDatabaseDropped name]⟩

end Manager

end WaitingList

namespace WaitingList

/-- What a statement is for. -/
inductive Statement where
  /-- Asks for the name of the database, which the lock is made of. -/
  | currentDatabase
  /-- Takes the lock that keeps migrations apart. -/
  | advisoryLock
  /-- Makes the table of applied migrations where it is missing. -/
  | ensureRecords
  /-- Asks for a migration that was begun and not finished. -/
  | dirtyMigration
  /-- Asks for all migrations that were applied. -/
  | appliedMigrations
  /-- Begins a transaction. -/
  | begin
  /-- Runs a migration. -/
  | migration
  /-- Notes a migration as applied. -/
  | bookkeeping
  /-- Gives the lock back. -/
  | advisoryUnlock
  /-- Inserts a subscriber, or refreshes one. -/
  | upsert
  | createDatabase
  | dropDatabase
  deriving DecidableEq, Repr

namespace Statement

def name : Statement → String
  | currentDatabase => "current"
  | advisoryLock => "lock"
  | ensureRecords => "ensure table"
  | dirtyMigration => "dirty"
  | appliedMigrations => "list"
  | begin => "begin"
  | migration => "migration"
  | bookkeeping => "bookkeeping"
  | advisoryUnlock => "unlock"
  | upsert => "upsert"
  | createDatabase => "create_database"
  | dropDatabase => "drop_database"

end Statement

/-- A failure that waits for the next statement of a kind. -/
structure Failure where
  /-- The name of the kind. -/
  kind : String
  code : String
  text : String
  deriving DecidableEq, Repr

namespace Failure

def hits (f : Failure) (statement : Statement) : Bool := f.kind == statement.name

end Failure

end WaitingList

import WaitingList.Store.Server

namespace WaitingList

/-- Why a migration did not succeed. -/
inductive MigrationError where
  /-- A statement around the migration failed. -/
  | execute (error : StoreError)
  /-- The migration itself failed. -/
  | executeMigration (version : Int) (error : StoreError)
  /-- A migration was begun once and not finished. -/
  | dirty (version : Int)
  /-- A migration was applied that the service does not know. -/
  | unknown (version : Int)
  /-- A migration was applied with other contents. -/
  | altered (version : Int)
  deriving DecidableEq, Repr

namespace MigrationError

def message : MigrationError → String
  | execute error => s!"while executing migrations: {error.message}"
  | executeMigration version error => s!"while executing migration {version}: {error.message}"
  | dirty version =>
    s!"migration {version} is partially applied; fix and remove row from " ++
      "\x60_sqlx_migrations\x60 table"
  | unknown version =>
    s!"migration {version} was previously applied but is missing in the resolved migrations"
  | altered version => s!"migration {version} was previously applied but has been modified"

end MigrationError

namespace Migration

/-- The version of the only migration. -/
def version : Int := 20250611120000

/-- What a database notes when the migration is applied. -/
def record : MigrationRecord := ⟨version, true, true⟩

/-- The lowest version among the records for which a condition holds. -/
def lowest? (applied : List MigrationRecord) (p : MigrationRecord → Bool) : Option Int :=
  ((applied.filter p).map MigrationRecord.version).min?

/-- Why a database that holds an unfinished migration cannot be brought up to date. -/
def unfinished? (applied : List MigrationRecord) : Option MigrationError :=
  (lowest? applied (!·.success)).map .dirty

/-- Why a database that holds other migrations than the known one cannot be brought up to date. A
migration that is not known weighs more than one with other contents. -/
def foreign? (applied : List MigrationRecord) : Option MigrationError :=
  match lowest? applied (·.version != version), lowest? applied (!·.unaltered) with
  | some v, _ => some (.unknown v)
  | none, some v => some (.altered v)
  | none, none => none

def execute (database : String) (statement : Statement) : ServerWork MigrationError Database :=
  ExceptT.adapt .execute (ServerWork.attemptIn database statement)

/-- Runs a statement on the lock, which is made of the name of the database. -/
def onLock (database : String) (statement : Statement) : ServerWork MigrationError Unit := do
  let _ ← execute database .currentDatabase
  let _ ← execute database statement

def createTable (database : String) : ServerWork StoreError Unit := do
  let d ← ServerWork.attemptIn database .migration
  if d.rows.isSome then throw (.database "relation \"subscribers\" already exists")
  ServerWork.put database { d with rows := some [] }

/-- Notes the migration as applied. -/
def note (database : String) : ServerWork StoreError Unit := do
  let d ← ServerWork.attemptIn database .bookkeeping
  ServerWork.put database { d with applied := d.applied ++ [record] }

/-- Applies the migration in a transaction: if a part of it fails, the database is as it was. -/
def apply (database : String) : ServerWork MigrationError Unit := do
  let before ← execute database .begin
  try
    ExceptT.adapt (.executeMigration version) (createTable database)
    ExceptT.adapt .execute (note database)
  catch error =>
    modify fun s => s.setDatabase database before
    throw error

/-- Brings a database up to date. What was applied stays applied if the lock cannot be given
back. -/
def run (database : String) : ServerWork MigrationError Unit := do
  onLock database .advisoryLock
  let _ ← execute database .ensureRecords
  let d ← execute database .dirtyMigration
  if let some error := unfinished? d.applied then throw error
  let d ← execute database .appliedMigrations
  if let some error := foreign? d.applied then throw error
  if !d.applied.any (·.version == version) then apply database
  onLock database .advisoryUnlock

end Migration

end WaitingList

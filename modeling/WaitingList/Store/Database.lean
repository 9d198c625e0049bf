namespace WaitingList

/-- A subscriber as the store keeps it. -/
structure Row where
  email : String
  /-- Which write, counted over the whole store, inserted or last refreshed the row. -/
  number : Nat
  deriving DecidableEq, Repr

namespace Row

/-- The rows after a write: an address has one row, which the latest write numbers. -/
def write (rows : List Row) (email : String) (number : Nat) : List Row :=
  rows.filter (·.email ≠ email) ++ [⟨email, number⟩]

end Row

/-- What a database notes of a migration that was applied. -/
structure MigrationRecord where
  version : Int
  /-- Whether the migration had the contents that the service knows. -/
  unaltered : Bool
  /-- Whether the migration was finished. -/
  success : Bool
  deriving DecidableEq, Repr

/-- A database. -/
structure Database where
  /-- The table of subscribers, if there is one. -/
  rows : Option (List Row)
  applied : List MigrationRecord
  deriving DecidableEq, Repr

namespace Database

/-- A database in which nothing has been done yet. -/
def empty : Database := ⟨none, []⟩

end Database

end WaitingList

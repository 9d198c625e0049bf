import WaitingList.Decimal.FloatNumber

namespace WaitingList.Toml

/-- How a table came about, which settles what may be added to it. -/
inductive TableKind where
  /-- It has a header of its own. -/
  | headed
  /-- It was named in the header of a table inside it. -/
  | implied
  /-- It was named in a dotted key. -/
  | dotted
  /-- It was written inline and is complete. -/
  | inline
  deriving DecidableEq, Repr

/-- A value. -/
inductive Value where
  | text (s : String)
  | integer (n : Int)
  | floating (x : FloatNumber)
  | boolean (b : Bool)
  /-- A date, a time or both, as it is written. -/
  | moment (written : String)
  | list (items : List Value)
  | table (kind : TableKind) (entries : List (String × Value))
  /-- A list of tables that are written under headers of their own. -/
  | tables (items : List (List (String × Value)))
  deriving Repr

abbrev Entries := List (String × Value)

/-- Whether dotted keys may go through a table. -/
def TableKind.isOpen : TableKind → Bool
  | implied | dotted => true
  | headed | inline => false

/-- Entries with the value of a key replaced, or with a new key at the end. -/
def put (key : String) (value : Value) : Entries → Entries
  | [] => [(key, value)]
  | (k, v) :: rest => if k = key then (key, value) :: rest else (k, v) :: put key value rest

/-- Changes the table at a path. Tables on the way that do not exist are made, of the kind that
`dotted` says. The way leads into the last table of a list of tables, never into a value. -/
def update (dotted : Bool) (change : TableKind → Entries → Option Entries) :
    List String → TableKind → Entries → Option Entries
  | [], kind, entries => change kind entries
  | key :: path, _, entries =>
    match entries.lookup key with
    | none => do
      let kind := if dotted then TableKind.dotted else .implied
      let inner ← update dotted change path kind []
      some (put key (.table kind inner) entries)
    | some (.table kind inner) =>
      if kind = .inline || (dotted && !kind.isOpen) then none
      else do some (put key (.table kind (← update dotted change path kind inner)) entries)
    | some (.tables items) => do
      let last ← items.getLast?
      let changed ← update dotted change path .headed last
      some (put key (.tables (items.dropLast ++ [changed])) entries)
    | some _ => none

/-- Adds a value under a new key. A dotted key has to end in a table that dotted keys began, a
simple key in one that they did not. -/
def addTo (simple : Bool) (key : String) (value : Value) (kind : TableKind) (entries : Entries) :
    Option Entries :=
  if (kind == .dotted) == simple then none
  else if (entries.lookup key).isSome then none
  else some (put key value entries)

/-- Adds a value under a dotted key to a table of the given kind. -/
def add (path : List String) (key : String) (value : Value) (kind : TableKind)
    (entries : Entries) : Option Entries :=
  update true (addTo path.isEmpty key value) path kind entries

/-- Opens the table of a header. Only a table that exists by implication may exist already. -/
def openTable (path : List String) (key : String) (root : Entries) : Option Entries :=
  update false
    (fun _ entries =>
      match entries.lookup key with
      | none => some (put key (.table .headed []) entries)
      | some (.table .implied inner) => some (put key (.table .headed inner) entries)
      | some _ => none)
    path .headed root

/-- Opens a further table of a list of tables. -/
def openItem (path : List String) (key : String) (root : Entries) : Option Entries :=
  update false
    (fun _ entries =>
      match entries.lookup key with
      | none => some (put key (.tables [[]]) entries)
      | some (.tables items) => some (put key (.tables (items ++ [[]])) entries)
      | some _ => none)
    path .headed root

/-- Adds a value under a dotted key to the table that the last header opened. -/
def addUnder (header : List String) (path : List String) (key : String) (value : Value)
    (root : Entries) : Option Entries :=
  update false (fun kind entries => add path key value kind entries) header .headed root

end WaitingList.Toml

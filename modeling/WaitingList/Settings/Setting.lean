import WaitingList.Decimal.FloatNumber
import WaitingList.Text.Quoted

namespace WaitingList

/-- Where a setting was written. -/
inductive Source where
  /-- In a settings file of the given name. -/
  | file (name : String)
  /-- In a variable of the process. -/
  | process
  deriving DecidableEq, Repr

/-- A value without parts. -/
inductive Scalar where
  | boolean (b : Bool)
  | text (s : String)
  /-- A single character in quotes, which passes for a text. -/
  | char (c : Char)
  | unsigned (n : Nat)
  | signed (n : Int)
  | floating (x : FloatNumber)
  deriving DecidableEq, Repr

/-- A value, with where it was written. -/
inductive Setting where
  | scalar (source : Source) (value : Scalar)
  | list (source : Source) (items : List Setting)
  | table (source : Source) (entries : List (String × Setting))
  deriving Repr

namespace Scalar

/-- How a value is told of. -/
def describe : Scalar → String
  | boolean b => s!"bool {b}"
  | text s => s!"string {Quoted.text s}"
  | char c => s!"string {Quoted.text (String.singleton c)}"
  | unsigned n => s!"unsigned int `{n}`"
  | signed n => s!"signed int `{n}`"
  | floating x => s!"float `{x.text}`"

end Scalar

namespace Setting

/-- Where a value was written. A table that several layers have added to counts as the last
one's. -/
def source : Setting → Source
  | scalar source _ | list source _ | table source _ => source

/-- How a value is told of. -/
def describe : Setting → String
  | scalar _ value => value.describe
  | list _ _ => "sequence"
  | table _ _ => "map"

/-- The entries of a table. Other values have none. -/
def entries : Setting → List (String × Setting)
  | table _ entries => entries
  | scalar _ _ | list _ _ => []

/-- Entries with the value of a key replaced, or with a new key at the end. -/
def put (key : String) (value : Setting) : List (String × Setting) → List (String × Setting)
  | [] => [(key, value)]
  | (k, v) :: rest => if k = key then (key, value) :: rest else (k, v) :: put key value rest

mutual

/-- A value with another one laid over it. Tables are merged, anything else is replaced. -/
def merge (lower : Setting) : Setting → Setting
  | table source entries => table source (mergeEntries lower.entries entries)
  | scalar source value => scalar source value
  | list source items => list source items

/-- Entries with others laid over them, key by key. -/
def mergeEntries (lower : List (String × Setting)) :
    List (String × Setting) → List (String × Setting)
  | [] => lower
  | (key, upper) :: rest =>
    let merged :=
      match lower.lookup key with
      | some value => merge value upper
      | none => upper
    mergeEntries (put key merged lower) rest

end

/-- The value at a path of keys. -/
def get? (setting : Setting) : List String → Option Setting
  | [] => some setting
  | key :: path =>
    match setting.entries.lookup key with
    | some inner => get? inner path
    | none => none

/-- A value as the only one at a path of keys. -/
def nest (source : Source) (value : Setting) : List String → Setting
  | [] => value
  | key :: path => table source [(key, nest source value path)]

end Setting

end WaitingList

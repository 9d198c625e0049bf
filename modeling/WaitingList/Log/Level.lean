namespace WaitingList

/-- How much an event matters, from least to most. -/
inductive Level where
  | trace
  | debug
  | info
  | warn
  | error
  deriving DecidableEq, Repr

namespace Level

/-- All levels, from most to least. -/
def all : List Level := [error, warn, info, debug, trace]

def name : Level → String
  | trace => "TRACE"
  | debug => "DEBUG"
  | info => "INFO"
  | warn => "WARN"
  | error => "ERROR"

def rank : Level → Nat
  | trace => 0
  | debug => 1
  | info => 2
  | warn => 3
  | error => 4

end Level

/-- What has to matter least for a line to be kept. Without such a level nothing is kept. -/
structure Threshold where
  least : Option Level
  deriving DecidableEq, Repr

namespace Threshold

/-- The threshold that keeps nothing. -/
def off : Threshold := ⟨none⟩

/-- The threshold that keeps a level and all above it. -/
def atLeast (level : Level) : Threshold := ⟨some level⟩

def admits (t : Threshold) (level : Level) : Bool :=
  match t.least with
  | none => false
  | some least => least.rank ≤ level.rank

/-- How many levels are kept. -/
def breadth (t : Threshold) : Nat :=
  match t.least with
  | none => 0
  | some least => 5 - least.rank

/-- The threshold of two that keeps more. -/
def wider (s t : Threshold) : Threshold := if s.breadth < t.breadth then t else s

/-- The threshold of several that keeps most. -/
def widest (ts : List Threshold) : Threshold := ts.foldl wider off

/-- All thresholds, from the narrowest. -/
def all : List Threshold := off :: Level.all.map atLeast

def word (t : Threshold) : String :=
  match t.least with
  | none => "off"
  | some level => level.name.toLower

/-- The threshold that a number stands for: how many levels it keeps. -/
def ofNumber? (digits : List Char) : Option Threshold :=
  let digits := if digits.head? = some '+' then digits.drop 1 else digits
  if digits.isEmpty || !digits.all Char.isDigit then none
  else all[digits.foldl (fun n c => n * 10 + (c.toNat - 0x30)) 0]?

/-- The threshold that a word or a number stands for. Letters may be of either case. -/
def ofText? (text : List Char) : Option Threshold :=
  match ofNumber? text with
  | some t => some t
  | none => all.find? fun t => t.word == (String.ofList text).toLower

end Threshold

end WaitingList

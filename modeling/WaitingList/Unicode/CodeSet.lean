namespace WaitingList.Unicode

/-- The maximal runs of characters between breaks, none of them empty. -/
def pieces (isBreak : Char → Bool) (text : List Char) : List (List Char) :=
  let (run, runs) := text.foldr
    (fun c (run, runs) =>
      if isBreak c then ([], if run.isEmpty then runs else run :: runs) else (c :: run, runs))
    ([], [])
  if run.isEmpty then runs else run :: runs

/-- The value of a hexadecimal digit in upper case. -/
def hexDigitValue (c : Char) : Nat := if c.isDigit then c.toNat - 0x30 else c.toNat - 0x37

/-- The number that upper-case hexadecimal digits write. -/
def hexValue (digits : List Char) : Nat := digits.foldl (fun n c => n * 16 + hexDigitValue c) 0

/-- The first and the last code point of the range that an entry begins with. -/
def rangeOf (written : List Char) : Nat × Nat :=
  match (pieces (· == '-') written).map hexValue with
  | [low] => (low, low)
  | low :: high :: _ => (low, high)
  | [] => (0, 0)

/-- The place of the range that contains `n` among ascending ranges, looked for from `low` up to
but not including `high`. -/
def search {α : Type} (bounds : α → Nat × Nat) (ranges : Array α) (n low high : Nat) : Option α :=
  if low < high then
    let middle := (low + high) / 2
    match ranges[middle]? with
    | none => none
    | some range =>
      if n < (bounds range).1 then search bounds ranges n low middle
      else if (bounds range).2 < n then search bounds ranges n (middle + 1) high
      else some range
  else none
termination_by high - low
decreasing_by all_goals omega

/-- A set of characters, as ascending ranges of code points that do not meet. -/
structure CodeSet where
  ranges : Array (Nat × Nat)

namespace CodeSet

/-- The set that a table writes, its entries parted by blanks: `41-5A` for the code points from the
first to the last, `61` for one. -/
def ofText (table : String) : CodeSet :=
  ⟨((pieces Char.isWhitespace table.toList).map rangeOf).toArray⟩

def contains (set : CodeSet) (c : Char) : Bool :=
  (search id set.ranges c.toNat 0 set.ranges.size).isSome

end CodeSet

/-- What the characters of one range become. -/
structure CodeMap.Entry where
  low : Nat
  high : Nat
  /-- Whether consecutive characters become consecutive characters. -/
  shifts : Bool
  image : List Nat

/-- A map from characters to texts, as ascending ranges that do not meet. -/
structure CodeMap where
  entries : Array CodeMap.Entry

namespace CodeMap

/-- The entry that a table writes. A `+` behind the image makes it shift along with the range. -/
def Entry.ofText (written : List Char) : Entry :=
  let (low, high) := rangeOf (written.takeWhile (· != '='))
  let image := written.dropWhile (· != '=')
  ⟨low, high, image.contains '+', (pieces (fun c => c ∈ ['=', ',', '+']) image).map hexValue⟩

/-- The map that a table writes. `A8=20,308` says what a character becomes. -/
def ofText (table : String) : CodeMap :=
  ⟨((pieces Char.isWhitespace table.toList).map Entry.ofText).toArray⟩

/-- The code points that a character becomes, if the map knows it. -/
def get? (map : CodeMap) (c : Char) : Option (List Nat) :=
  (search (fun e => (e.low, e.high)) map.entries c.toNat 0 map.entries.size).map fun e =>
    if e.shifts then e.image.map (· + (c.toNat - e.low)) else e.image

end CodeMap

end WaitingList.Unicode

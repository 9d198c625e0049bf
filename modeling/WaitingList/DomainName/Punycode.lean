namespace WaitingList.Punycode

/-- The digit of a value below 36. -/
def digit (n : Nat) : Char := if n < 26 then Char.ofNat (0x61 + n) else Char.ofNat (0x30 + n - 26)

/-- The value of a digit, in either case. -/
def digitValue? (c : Char) : Option Nat :=
  if 'a' ≤ c ∧ c ≤ 'z' then some (c.toNat - 0x61)
  else if 'A' ≤ c ∧ c ≤ 'Z' then some (c.toNat - 0x41)
  else if c.isDigit then some (c.toNat - 0x30 + 26)
  else none

/-- The value below which a digit is the last of its number. It grows with the place of the
digit. -/
def threshold (place bias : Nat) : Nat := max 1 (min 26 (place - bias))

/-- How often a size has to be divided by 35 to be small, times 36, and what is left of it. -/
def scale (size places : Nat) : Nat × Nat :=
  if 455 < size then scale (size / 35) (places + 36) else (size, places)
termination_by size
decreasing_by exact Nat.div_lt_self (by omega) (by omega)

/-- The bias for the next number, after one of the given size has been written as the `count`-th
character. -/
def adapt (size count : Nat) (first : Bool) : Nat :=
  let halved := if first then size / 700 else size / 2
  let (rest, places) := scale (halved + halved / count) 0
  places + 36 * rest / (rest + 38)

/-- A number in digits, from the one at the given place upward. -/
def number (bias place n : Nat) : List Char :=
  let t := threshold place bias
  if n < t then [digit n]
  else digit (t + (n - t) % (36 - t)) :: number bias (place + 36) ((n - t) / (36 - t))
termination_by n
decreasing_by
  have h : (n - threshold place bias) / (36 - threshold place bias) ≤ n - threshold place bias :=
    Nat.div_le_self _ _
  have : 1 ≤ threshold place bias := by unfold threshold; omega
  omega

/-- The state of writing a label. -/
structure Encoder where
  /-- What has been written, piece by piece. -/
  written : List Char
  /-- How far has been counted since the last character was put in. -/
  delta : Nat
  bias : Nat
  /-- How many characters are in place. -/
  placed : Nat
  /-- Whether no character beyond ASCII has been put in yet. -/
  fresh : Bool

/-- One step through the label while the code point `n` is being put in. -/
def Encoder.visit (n : Nat) (e : Encoder) (c : Char) : Encoder :=
  if c.toNat < n then { e with delta := e.delta + 1 }
  else if c.toNat = n then
    { written := e.written ++ number e.bias 36 e.delta
      delta := 0
      bias := adapt e.delta (e.placed + 1) e.fresh
      placed := e.placed + 1
      fresh := false }
  else e

/-- Puts in the remaining code points of a label in ascending order, counting from `n`. -/
def Encoder.run (label : List Char) (e : Encoder) (n : Nat) : List Nat → Encoder
  | [] => e
  | m :: rest =>
    let counted := { e with delta := e.delta + (m - n) * (e.placed + 1) }
    let visited := label.foldl (Encoder.visit m) counted
    Encoder.run label { visited with delta := visited.delta + 1 } (m + 1) rest

/-- A number put into an ascending list, unless it is there. -/
def insertDistinct (n : Nat) : List Nat → List Nat
  | [] => [n]
  | m :: rest =>
    if n < m then n :: m :: rest else if n = m then m :: rest else m :: insertDistinct n rest

/-- The code points of a label that are not ASCII, ascending and each once. -/
def distinctCodes (label : List Char) : List Nat :=
  (label.filter (0x80 ≤ ·.toNat)).foldl (fun codes c => insertDistinct c.toNat codes) []

/-- A label in ASCII: its ASCII characters, and then one number for each other character, which
tells how far to count through the pairs of a code point and a place before it is put in. -/
def encode (label : List Char) : List Char :=
  let basic := label.filter (·.toNat < 0x80)
  let e := Encoder.run label ⟨[], 0, 72, basic.length, true⟩ 0x80 (distinctCodes label)
  (if basic.isEmpty then [] else basic ++ ['-']) ++ e.written

/-- The state of reading a label. -/
structure Decoder where
  label : List Char
  /-- The code point that was put in last. -/
  code : Nat
  /-- The place after the character that was put in last. -/
  index : Nat
  bias : Nat
  fresh : Bool

/-- Puts in the character that a number tells of. Fails beyond the last character and among the
surrogates, which are none. -/
def Decoder.place? (d : Decoder) (distance : Nat) : Option Decoder :=
  let slots := d.label.length + 1
  let target := d.index + distance
  let code := d.code + target / slots
  if code.isValidChar then
    some
      { label := d.label.insertIdx (target % slots) (Char.ofNat code)
        code := code
        index := target % slots + 1
        bias := adapt distance slots d.fresh
        fresh := false }
  else none

/-- Reads digits to their end. `sum` is the number read so far, `weight` the weight of the digit
at `place`. A number has to end before the digits do. -/
def Decoder.run? (d : Decoder) (sum weight place : Nat) : List Char → Option (List Char)
  | [] => if place = 36 then some d.label else none
  | c :: rest =>
    match digitValue? c with
    | none => none
    | some value =>
      let t := threshold place d.bias
      if value < t then
        match d.place? (sum + value * weight) with
        | some next => next.run? 0 1 36 rest
        | none => none
      else d.run? (sum + value * weight) (weight * (36 - t)) (place + 36) rest

/-- What stands before the last hyphen, and after it. -/
def splitAtLastHyphen (text : List Char) : List Char × List Char :=
  let tail := (text.reverse.takeWhile (· != '-')).reverse
  (text.take (text.length - tail.length - 1), tail)

/-- The label that an ASCII text writes, if it writes one. A hyphen in front is a digit, and no
digit at that. -/
def decode? (text : List Char) : Option (List Char) :=
  let (basic, digits) := splitAtLastHyphen text
  if text.head? = some '-' ∧ basic = [] then none
  else if basic.all (·.toNat < 0x80) then Decoder.run? ⟨basic, 0x80, 0, 72, true⟩ 0 1 36 digits
  else none

end WaitingList.Punycode

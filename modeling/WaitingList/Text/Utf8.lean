namespace WaitingList.Utf8

/-- A character of which some bytes have been read: the bits so far, how many bytes are still
owed, and the range the next byte has to lie in. -/
structure Pending where
  bits : Nat
  owed : Nat
  low : UInt8
  high : UInt8

/-- What one more byte leads to, given what is pending. -/
inductive Step where
  /-- The byte completes a character. -/
  | done (c : Char)
  /-- The byte is accepted, and more are owed. -/
  | more (p : Pending)
  /-- The byte cannot stand here. -/
  | bad

/-- The step of a byte that begins a character. Overlong forms, surrogates and values above
U+10FFFF are excluded by the range that the second byte has to lie in. -/
def first (b : UInt8) : Step :=
  let n := b.toNat
  if n < 0x80 then .done (Char.ofNat n)
  else if n < 0xC2 then .bad
  else if n < 0xE0 then .more ⟨n - 0xC0, 1, 0x80, 0xBF⟩
  else if n < 0xF0 then
    .more ⟨n - 0xE0, 2, if n = 0xE0 then 0xA0 else 0x80, if n = 0xED then 0x9F else 0xBF⟩
  else if n < 0xF5 then
    .more ⟨n - 0xF0, 3, if n = 0xF0 then 0x90 else 0x80, if n = 0xF4 then 0x8F else 0xBF⟩
  else .bad

/-- The step of a byte that continues a pending character. -/
def Pending.next (p : Pending) (b : UInt8) : Step :=
  if p.low ≤ b ∧ b ≤ p.high then
    let bits := p.bits * 64 + (b.toNat - 0x80)
    if p.owed ≤ 1 then .done (Char.ofNat bits) else .more ⟨bits, p.owed - 1, 0x80, 0xBF⟩
  else .bad

/-- The step of a byte after nothing or after a pending character. -/
def step : Option Pending → UInt8 → Step
  | none, b => first b
  | some p, b => p.next b

/-- The characters of a byte string that begins where `pending` stands, after those of `done`
(last first), if it is well formed. -/
def decodeOnto (done : List Char) (pending : Option Pending) : List UInt8 → Option (List Char)
  | [] => if pending.isNone then some done.reverse else none
  | b :: rest =>
    match step pending b with
    | .done c => decodeOnto (c :: done) none rest
    | .more p => decodeOnto done (some p) rest
    | .bad => none

/-- The characters of a byte string, if it is well formed as a whole. -/
def decode? (bytes : List UInt8) : Option (List Char) := decodeOnto [] none bytes

def encode (text : List Char) : List UInt8 := text.flatMap String.utf8EncodeChar

/-- How many bytes come before the first character that is cut off or ill formed. `complete`
counts the bytes of whole characters, `pending` the bytes read since. -/
def readableFrom (pending : Option Pending) (complete since : Nat) : List UInt8 → Nat
  | [] => complete
  | b :: rest =>
    match step pending b with
    | .done _ => readableFrom none (complete + since + 1) 0 rest
    | .more p => readableFrom (some p) complete (since + 1) rest
    | .bad => complete

/-- The length in bytes of the longest readable beginning of a byte string. -/
def readableLength (bytes : List UInt8) : Nat := readableFrom none 0 0 bytes

/-- The sign that stands for bytes that are not text. -/
def replacement : Char := '\uFFFD'

/-- The characters of a byte string after those of `done` (last first), with each cut-off or
impossible sequence replaced by one sign. A byte that ends a cut-off sequence is read again as
the beginning of a character. -/
def decodeLossyOnto (done : List Char) (pending : Option Pending) : List UInt8 → List Char
  | [] => (if pending.isNone then done else replacement :: done).reverse
  | b :: rest =>
    match step pending b with
    | .done c => decodeLossyOnto (c :: done) none rest
    | .more p => decodeLossyOnto done (some p) rest
    | .bad =>
      if pending.isNone then decodeLossyOnto (replacement :: done) none rest
      else
        match first b with
        | .done c => decodeLossyOnto (c :: replacement :: done) none rest
        | .more p => decodeLossyOnto (replacement :: done) (some p) rest
        | .bad => decodeLossyOnto (replacement :: replacement :: done) none rest

/-- A text that any byte string can be shown as. -/
def decodeLossy (bytes : List UInt8) : List Char := decodeLossyOnto [] none bytes

/-- The text of a byte string, if it is well formed. -/
def text? (bytes : List UInt8) : Option String := (decode? bytes).map String.ofList

/-- The text that a byte string is shown as. -/
def textLossy (bytes : List UInt8) : String := String.ofList (decodeLossy bytes)

end WaitingList.Utf8

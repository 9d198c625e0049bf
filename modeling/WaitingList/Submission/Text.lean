import WaitingList.Submission.Fault
import WaitingList.Text.Percent
import WaitingList.Text.Utf8

namespace WaitingList.Submission

/-- The byte that opens and closes a text. -/
def quote : UInt8 := 0x22

/-- The byte that begins an escape. -/
def backslash : UInt8 := 0x5C

/-- The letter of an escape that gives a code. -/
def codeLetter : UInt8 := 0x75

/-- The byte that an escape of one letter stands for. -/
def shortEscape? (b : UInt8) : Option UInt8 :=
  if b == quote || b == backslash || b == 0x2F then some b
  else if b == 0x62 then some 0x08
  else if b == 0x66 then some 0x0C
  else if b == 0x6E then some 0x0A
  else if b == 0x72 then some 0x0D
  else if b == 0x74 then some 0x09
  else none

/-- The code that four hexadecimal digits give, last digit first. -/
def code? (digits : List UInt8) : Option Nat :=
  (digits.reverse.mapM Percent.hexValue?).map (·.foldl (fun n d => n * 16 + d.toNat) 0)

/-- Whether a code is the first half of a pair. -/
def isHighHalf (n : Nat) : Bool := 0xD800 ≤ n && n ≤ 0xDBFF

/-- Whether a code is the second half of a pair. -/
def isLowHalf (n : Nat) : Bool := 0xDC00 ≤ n && n ≤ 0xDFFF

def pairCode (high low : Nat) : Nat := 0x10000 + (high - 0xD800) * 0x400 + (low - 0xDC00)

/-- Where in a text that is decoded the last byte stood. -/
inductive TextPhase where
  | plain
  | escape
  /-- Inside a code, whose digits so far are kept last first. -/
  | code (digits : List UInt8)
  /-- After the first half of a pair, before the backslash of the second. -/
  | lowEscape (high : Nat)
  /-- After that backslash. -/
  | lowLetter (high : Nat)
  | lowCode (high : Nat) (digits : List UInt8)
  deriving DecidableEq, Repr

/-- A text that is being decoded: the phase, and the bytes it stands for so far, last first. -/
structure TextState where
  phase : TextPhase
  read : List UInt8
  deriving DecidableEq, Repr

/-- What one more byte means to a text. -/
inductive TextStep where
  | more (state : TextState)
  /-- The text ended with the byte. It stands for the bytes that are given. -/
  | closed (bytes : List UInt8)
  | bad (fault : Malformed)

namespace TextState

/-- The state after the opening quote. -/
def start : TextState := ⟨.plain, []⟩

/-- The text with one more character. -/
def pushCode (state : TextState) (n : Nat) : TextState :=
  ⟨.plain, (String.utf8EncodeChar (Char.ofNat n)).reverse ++ state.read⟩

/-- The step of a byte outside escapes. -/
def nextPlain (state : TextState) (b : UInt8) : TextStep :=
  if b == quote then .closed state.read.reverse
  else if b == backslash then .more { state with phase := .escape }
  else if b < 0x20 then .bad .controlCharacter
  else .more ⟨.plain, b :: state.read⟩

def nextEscape (state : TextState) (b : UInt8) : TextStep :=
  if b == codeLetter then .more { state with phase := .code [] }
  else
    match shortEscape? b with
    | some byte => .more ⟨.plain, byte :: state.read⟩
    | none => .bad .badEscape

/-- The step that the code of an escape leads to. -/
def takeCode (state : TextState) (n : Nat) : TextStep :=
  if isLowHalf n then .bad .loneSurrogate
  else if isHighHalf n then .more { state with phase := .lowEscape n }
  else .more (state.pushCode n)

/-- The step of a digit of a code. Digits are judged once there are four. -/
def nextCode (state : TextState) (digits : List UInt8) (b : UInt8) : TextStep :=
  if digits.length < 3 then .more { state with phase := .code (b :: digits) }
  else
    match code? (b :: digits) with
    | some n => state.takeCode n
    | none => .bad .badEscape

/-- The step of a digit of the second half of a pair. -/
def nextLowCode (state : TextState) (high : Nat) (digits : List UInt8) (b : UInt8) : TextStep :=
  if digits.length < 3 then .more { state with phase := .lowCode high (b :: digits) }
  else
    match code? (b :: digits) with
    | some n =>
      if isLowHalf n then .more (state.pushCode (pairCode high n)) else .bad .loneSurrogate
    | none => .bad .badEscape

/-- The step of one more byte. -/
def next (state : TextState) (b : UInt8) : TextStep :=
  match state.phase with
  | .plain => state.nextPlain b
  | .escape => state.nextEscape b
  | .code digits => state.nextCode digits b
  | .lowEscape high =>
    if b == backslash then .more { state with phase := .lowLetter high } else .bad .cutSurrogate
  | .lowLetter high =>
    if b == codeLetter then .more { state with phase := .lowCode high [] } else .bad .cutSurrogate
  | .lowCode high digits => state.nextLowCode high digits b

end TextState

/-- Where in a text that is ignored the last byte stood. -/
inductive IgnoredPhase where
  | plain
  | escape
  | code (digits : List UInt8)
  deriving DecidableEq, Repr

/-- What one more byte means to a text that is ignored. -/
inductive IgnoredStep where
  | more (phase : IgnoredPhase)
  | closed
  | bad (fault : Malformed)

namespace IgnoredPhase

/-- The step of one more byte. Codes need four digits and may be any. -/
def next (b : UInt8) : IgnoredPhase → IgnoredStep
  | plain =>
    if b == quote then .closed
    else if b == backslash then .more escape
    else if b < 0x20 then .bad .controlCharacter
    else .more plain
  | escape =>
    if b == codeLetter then .more (code [])
    else if (shortEscape? b).isSome then .more plain
    else .bad .badEscape
  | code digits =>
    if digits.length < 3 then .more (code (b :: digits))
    else if (code? (b :: digits)).isSome then .more plain
    else .bad .badEscape

end IgnoredPhase

end WaitingList.Submission

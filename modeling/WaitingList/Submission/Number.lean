import WaitingList.Decimal.Shortest

namespace WaitingList.Submission

/-- Whether a byte is a decimal digit. -/
def isDigit (b : UInt8) : Bool := 0x30 ≤ b && b ≤ 0x39

def digitValue (b : UInt8) : Nat := b.toNat - 0x30

/-- Whether a byte announces a power of ten. -/
def isMark (b : UInt8) : Bool := b == 0x45 || b == 0x65

/-- Whether a byte is a sign. -/
def isSign (b : UInt8) : Bool := b == 0x2B || b == 0x2D

/-- Where in a number the last byte stood. -/
inductive NumberPhase where
  /-- The minus sign in front. -/
  | sign
  /-- A zero in front, which no digit may follow. -/
  | zero
  | integer
  /-- The point, which a digit has to follow. -/
  | point
  | fraction
  /-- The letter that announces a power of ten. -/
  | mark
  | markSign
  | power
  deriving DecidableEq, Repr

/-- What one more byte means to a number. -/
inductive NumberStep where
  | more (phase : NumberPhase)
  /-- The number ended before the byte. -/
  | ended
  /-- The number cannot go on with the byte and cannot end before it. -/
  | bad

namespace NumberPhase

/-- The phase of the byte that a number begins with, if a number begins with it. -/
def first? (b : UInt8) : Option NumberPhase :=
  if b == 0x2D then some sign
  else if b == 0x30 then some zero
  else if isDigit b then some integer
  else none

/-- What may follow the digits before the point. -/
def afterInteger (b : UInt8) : NumberStep :=
  if b == 0x2E then .more point else if isMark b then .more mark else .ended

/-- The step of one more byte. -/
def next (b : UInt8) : NumberPhase → NumberStep
  | sign => if b == 0x30 then .more zero else if isDigit b then .more integer else .bad
  | zero => if isDigit b then .bad else afterInteger b
  | integer => if isDigit b then .more integer else afterInteger b
  | point => if isDigit b then .more fraction else .bad
  | fraction =>
    if isDigit b then .more fraction else if isMark b then .more mark else .ended
  | mark =>
    if isSign b then .more markSign else if isDigit b then .more power else .bad
  | markSign => if isDigit b then .more power else .bad
  | power => if isDigit b then .more power else .ended

/-- Whether a number may end here. -/
def isComplete : NumberPhase → Bool
  | zero | integer | fraction | power => true
  | sign | point | mark | markSign => false

end NumberPhase

/-- What the bytes of a number so far are worth. -/
structure NumberValue where
  negative : Bool
  /-- The leading digits, as many as fit a word of 64 bits. -/
  significand : Nat
  /-- Whether a digit of the part being read no longer fitted. -/
  full : Bool
  /-- The power of ten that the digits read so far call for. -/
  exponent : Int
  /-- Whether the number is a whole one that fits a word. -/
  whole : Bool
  powerNegative : Bool
  /-- The power that is written behind the mark. -/
  power : Nat
  deriving DecidableEq, Repr

namespace NumberValue

def empty : NumberValue := ⟨false, 0, false, 0, true, false, 0⟩

def wordBound : Nat := twoTo 64

def powerBound : Nat := twoTo 31

/-- One more digit before the point. Digits that no longer fit only count as places. -/
def pushInteger (v : NumberValue) (d : Nat) : NumberValue :=
  if !v.full && v.significand * 10 + d < wordBound then
    { v with significand := v.significand * 10 + d }
  else { v with full := true, whole := false, exponent := v.exponent + 1 }

/-- One more digit behind the point. Digits that no longer fit are dropped. -/
def pushFraction (v : NumberValue) (d : Nat) : NumberValue :=
  if !v.full && v.significand * 10 + d < wordBound then
    { v with significand := v.significand * 10 + d, exponent := v.exponent - 1 }
  else { v with full := true }

/-- One more digit of the power, up to the bound. -/
def pushPower (v : NumberValue) (d : Nat) : NumberValue :=
  { v with power := min (v.power * 10 + d) powerBound }

/-- The value after one more byte, which the grammar has put into `phase`. -/
def push (v : NumberValue) (phase : NumberPhase) (b : UInt8) : NumberValue :=
  match phase with
  | .sign => { v with negative := true }
  | .zero | .integer => v.pushInteger (digitValue b)
  | .point => { v with full := false, whole := false }
  | .fraction => v.pushFraction (digitValue b)
  | .mark => { v with whole := false }
  | .markSign => { v with powerNegative := b == 0x2D }
  | .power => v.pushPower (digitValue b)

/-- Whether the written power alone puts the number out of range. -/
def overflows (v : NumberValue) : Bool :=
  v.power == powerBound && !v.powerNegative && v.significand != 0

/-- The power of ten in all. -/
def totalExponent (v : NumberValue) : Int :=
  v.exponent + if v.powerNegative then -(v.power : Int) else v.power

end NumberValue

/-- The greatest power of ten that a magnitude is multiplied or divided by at once. -/
def maxPower : Nat := 308

/-- A power of ten as a magnitude. -/
def powerOfTen (n : Nat) : Binary64 := (Binary64.round? (tenTo n) 1).getD .zero

/-- A magnitude divided by a power of ten, in steps of at most `maxPower`, each of which rounds. -/
def scaleDown (x : Binary64) (n : Nat) : Binary64 :=
  if n ≤ maxPower then (x.divide? (powerOfTen n)).getD .zero
  else if x.isZero then x
  else scaleDown ((x.divide? (powerOfTen maxPower)).getD .zero) (n - maxPower)
termination_by n
decreasing_by
  unfold maxPower at *
  omega

/-- A word times a power of ten, or none beyond the greatest magnitude. The word is rounded first,
so the last bit may differ from that of the nearest magnitude. -/
def magnitude? (significand : Nat) (exponent : Int) : Option Binary64 := do
  let x ← Binary64.round? significand 1
  if exponent < 0 then some (scaleDown x exponent.natAbs)
  else if exponent.natAbs ≤ maxPower then x.multiply? (powerOfTen exponent.natAbs)
  else if x.isZero then some x
  else none

/-- A number as it is told of. -/
inductive Number where
  | integer (n : Int)
  | floating (negative : Bool) (magnitude : Binary64)
  deriving DecidableEq, Repr

namespace Number

/-- The number that a value amounts to, unless it is out of range. A negative whole number that
does not fit a signed word is a floating one, and so is minus zero. -/
def ofValue? (v : NumberValue) : Option Number :=
  if v.whole && !v.negative then some (integer v.significand)
  else if v.whole && 0 < v.significand && v.significand ≤ twoTo 63 then
    some (integer (-(v.significand : Int)))
  else (magnitude? v.significand v.totalExponent).map (floating v.negative)

/-- The magnitude of a floating number: its shortest digits, around a point from 0.00001 up to
16 digits, else with a power of ten. -/
def magnitudeText (x : Binary64) : List Char :=
  let d := x.shortest
  if x.isZero then ['0', '.', '0']
  else if -5 ≤ d.leading ∧ d.leading ≤ 15 then
    d.positional ++ if 0 ≤ d.exponent then ['.', '0'] else []
  else d.scientific

def text : Number → String
  | integer n => toString n
  | floating negative x =>
    String.ofList ((if negative then ['-'] else []) ++ magnitudeText x)

end Number

end WaitingList.Submission

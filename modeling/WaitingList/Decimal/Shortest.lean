import WaitingList.Decimal.Binary64

namespace WaitingList

/-- The decimal `digits * 10 ^ exponent`. -/
structure Decimal where
  digits : Nat
  exponent : Int
  deriving DecidableEq, Repr

namespace Binary64

/-- The power of ten that a positive magnitude lies at or just above. -/
def decade (x : Binary64) : Int :=
  if x.den ≤ x.num then ((Nat.toDigits 10 (x.num / x.den)).length : Int) - 1
  else
    let places := (Nat.toDigits 10 (x.den / x.num)).length
    if x.den ≤ x.num * tenTo (places - 1) then 1 - (places : Int) else -(places : Int)

/-- How far below a magnitude the reals that round to it reach, in quarters of its unit. Next to
the magnitudes of half the unit they reach half as far. -/
def reachBelow (x : Binary64) : Nat :=
  if x.significand = twoTo 52 ∧ minExponent < x.exponent then 1 else 2

/-- Whether the decimal `digits * 10 ^ exponent` rounds to a magnitude. The ends of the interval
belong to it if the significand is even. -/
def readsBack (x : Binary64) (digits : Nat) (exponent : Int) : Bool :=
  let candidate := digits * tenTo exponent.toNat * x.den * 4
  let unit := twoTo x.exponent.toNat * tenTo (-exponent).toNat
  let low := (4 * x.significand - x.reachBelow) * unit
  let high := (4 * x.significand + 2) * unit
  if x.significand % 2 = 0 then low ≤ candidate && candidate ≤ high
  else low < candidate && candidate < high

/-- The neighbour of a magnitude on the grid of multiples of `10 ^ exponent` that reads back. Of
two the nearer one is taken, and in the middle the even one. -/
def onGrid? (x : Binary64) (exponent : Int) : Option Decimal :=
  let top := x.num * tenTo (-exponent).toNat
  let bottom := x.den * tenTo exponent.toNat
  let floor := top / bottom
  match x.readsBack floor exponent, x.readsBack (floor + 1) exponent with
  | true, true => some ⟨divideToEven top bottom, exponent⟩
  | true, false => some ⟨floor, exponent⟩
  | false, true => some ⟨floor + 1, exponent⟩
  | false, false => none

/-- The shortest decimal that reads back as a magnitude, without a zero at its end. The grids of one
digit, of two and so on are tried in order, and seventeen digits always suffice. -/
def shortest (x : Binary64) : Decimal :=
  if x.isZero then ⟨0, 0⟩
  else
    match (List.range 17).findSome? fun (n : Nat) => x.onGrid? (x.decade - n) with
    | some decimal =>
      if decimal.digits % 10 = 0 then ⟨decimal.digits / 10, decimal.exponent + 1⟩ else decimal
    | none => ⟨0, 0⟩

end Binary64

namespace Decimal

def digitText (d : Decimal) : List Char := Nat.toDigits 10 d.digits

/-- The power of ten of the first digit. -/
def leading (d : Decimal) : Int := d.digitText.length - 1 + d.exponent

/-- A decimal with its digits in their places around a point. -/
def positional (d : Decimal) : List Char :=
  let digits := d.digitText
  if 0 ≤ d.exponent then digits ++ List.replicate d.exponent.toNat '0'
  else
    let places := (-d.exponent).toNat
    let padded := List.replicate (places + 1 - digits.length) '0' ++ digits
    padded.take (padded.length - places) ++ '.' :: padded.drop (padded.length - places)

/-- A decimal with one digit before the point, and a power of ten. The sign of the power is
written in either case. -/
def scientific (d : Decimal) : List Char :=
  let power := d.leading
  let mantissa :=
    match d.digitText with
    | first :: second :: rest => first :: '.' :: second :: rest
    | digits => digits
  mantissa ++ ['e', if power < 0 then '-' else '+'] ++ Nat.toDigits 10 power.natAbs

end Decimal

end WaitingList

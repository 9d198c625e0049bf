namespace WaitingList

def twoTo (exponent : Nat) : Nat := Nat.pow 2 exponent

def tenTo (exponent : Nat) : Nat := Nat.pow 10 exponent

/-- The magnitude `significand * 2 ^ exponent`. The significand has 53 bits, or fewer with the
least exponent. -/
structure Binary64 where
  significand : Nat
  exponent : Int
  deriving DecidableEq, Repr

namespace Binary64

/-- The exponent of the least magnitude above zero. -/
def minExponent : Int := -1074

/-- The exponent of the greatest magnitudes. -/
def maxExponent : Int := 971

def zero : Binary64 := ⟨0, minExponent⟩

def isZero (x : Binary64) : Bool := x.significand == 0

/-- The quotient of two numbers to the nearest number, a half to the even one. -/
def divideToEven (num den : Nat) : Nat :=
  let floor := num / den
  let rest := 2 * (num % den)
  if rest < den ∨ (rest = den ∧ floor % 2 = 0) then floor else floor + 1

/-- The numerator and denominator of `num / den / 2 ^ exponent`. -/
def scaled (num den : Nat) (exponent : Int) : Nat × Nat :=
  (num * twoTo (-exponent).toNat, den * twoTo exponent.toNat)

/-- The exponent with which the quotient of two positive numbers has a significand of 53 bits, or
the least one if that is greater. -/
def exponentFor (num den : Nat) : Int :=
  let guess := max ((num.log2 : Int) - den.log2 - 52) minExponent
  let (n, d) := scaled num den guess
  if n / d < twoTo 52 ∧ minExponent < guess then guess - 1 else guess

/-- The magnitude nearest to `num / den`, or none if that lies beyond the greatest. -/
def round? (num den : Nat) : Option Binary64 :=
  if num = 0 then some zero
  else
    let exponent := exponentFor num den
    let (n, d) := scaled num den exponent
    let significand := divideToEven n d
    let rounded : Binary64 :=
      if significand = twoTo 53 then ⟨twoTo 52, exponent + 1⟩ else ⟨significand, exponent⟩
    if rounded.exponent ≤ maxExponent then some rounded else none

/-- The numerator of a magnitude as a fraction. -/
def num (x : Binary64) : Nat := x.significand * twoTo x.exponent.toNat

/-- The denominator of a magnitude as a fraction. -/
def den (x : Binary64) : Nat := twoTo (-x.exponent).toNat

/-- The product of two magnitudes, or none if it lies beyond the greatest. -/
def multiply? (x y : Binary64) : Option Binary64 := round? (x.num * y.num) (x.den * y.den)

/-- The quotient of two magnitudes, or none if it lies beyond the greatest. -/
def divide? (x y : Binary64) : Option Binary64 := round? (x.num * y.den) (x.den * y.num)

/-- The magnitude nearest to `digits * 10 ^ exponent`, or none beyond the greatest. Exponents so
far out that the digits cannot make up for them are settled without computing the power. -/
def ofDecimal? (digits : Nat) (exponent : Int) : Option Binary64 :=
  let length : Int := (Nat.toDigits 10 digits).length
  if digits = 0 then some zero
  else if length + exponent > 400 then none
  else if length + exponent < -400 then some zero
  else round? (digits * tenTo exponent.toNat) (tenTo (-exponent).toNat)

end Binary64

end WaitingList

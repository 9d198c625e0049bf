import WaitingList.Decimal.Shortest

namespace WaitingList

/-- A floating number as settings write it. -/
inductive FloatNumber where
  | notANumber
  | infinite (negative : Bool)
  | finite (negative : Bool) (magnitude : Binary64)
  deriving DecidableEq, Repr

namespace FloatNumber

/-- The number nearest to `digits * 10 ^ exponent`, infinite beyond the greatest. -/
def ofDecimal (negative : Bool) (digits : Nat) (exponent : Int) : FloatNumber :=
  match Binary64.ofDecimal? digits exponent with
  | some magnitude => finite negative magnitude
  | none => infinite negative

/-- The number that digits write. -/
def digitsValue (digits : List Char) : Nat :=
  digits.foldl (fun n c => n * 10 + (c.toNat - 0x30)) 0

/-- A sign in front of a text, if there is one, and the rest. -/
def splitSign : List Char → Bool × List Char
  | '-' :: rest => (true, rest)
  | '+' :: rest => (false, rest)
  | text => (false, text)

/-- The power of ten that a text writes. -/
def power? (text : List Char) : Option Int :=
  let (negative, digits) := splitSign text
  if digits.isEmpty || !digits.all Char.isDigit then none
  else some (if negative then -(digitsValue digits : Int) else digitsValue digits)

/-- The number of digits with an optional point among them. At least one digit is needed. -/
def ofParts? (negative : Bool) (whole fraction : List Char) (power : Int) : Option FloatNumber :=
  if !whole.all Char.isDigit || !fraction.all Char.isDigit then none
  else if whole.isEmpty && fraction.isEmpty then none
  else some (ofDecimal negative (digitsValue (whole ++ fraction)) (power - fraction.length))

/-- The number that a text writes with digits: a sign, digits with a point, and a power of ten, of
which only digits are needed. -/
def ofText? (text : List Char) : Option FloatNumber :=
  let (negative, unsigned) := splitSign text
  let isMark := fun c => c == 'e' || c == 'E'
  let mantissa := unsigned.takeWhile (!isMark ·)
  let whole := mantissa.takeWhile (· != '.')
  let fraction := (mantissa.dropWhile (· != '.')).drop 1
  match unsigned.dropWhile (!isMark ·) with
  | [] => ofParts? negative whole fraction 0
  | _ :: power =>
    match power? power with
    | some n => ofParts? negative whole fraction n
    | none => none

/-- A number with all its digits in their places. -/
def text : FloatNumber → String
  | notANumber => "NaN"
  | infinite negative => if negative then "-inf" else "inf"
  | finite negative x =>
    String.ofList ((if negative then ['-'] else []) ++ x.shortest.positional)

end FloatNumber

end WaitingList

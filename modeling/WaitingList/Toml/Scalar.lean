import WaitingList.Decimal.Binary64
import WaitingList.Net.IpAddress
import WaitingList.Toml.Value

namespace WaitingList.Toml

/-- Whether a character may stand in a word. -/
def isWordChar (c : Char) : Bool :=
  c.isAlphanum || c == '_' || c == '+' || c == '-' || c == '.' || c == ':'

/-- The digits of a group notation: digits with single underscores between them. -/
def groupedDigits? (isDigit : Char → Bool) (word : List Char) : Option (List Char) :=
  let groups := word.splitOn '_'
  if groups.all fun group => !group.isEmpty && group.all isDigit then some groups.flatten else none

/-- The digits of a decimal integer, which has no needless zero in front. -/
def integerDigits? (word : List Char) : Option (List Char) := do
  let digits ← groupedDigits? Char.isDigit word
  if digits.head? = some '0' && digits.length > 1 then none else some digits

/-- An integer that fits a signed word of 64 bits. -/
def signedWord? (n : Int) : Option Int :=
  if -(twoTo 63 : Int) ≤ n ∧ n < twoTo 63 then some n else none

/-- The integer that digits of a base write. -/
def basedInteger? (base : Nat) (word : List Char) : Option Int := do
  let isDigit := fun c => (IpAddress.hexValue? c).any (· < base)
  let digits ← groupedDigits? isDigit word
  signedWord? (digits.foldl (fun n c => n * base + (IpAddress.hexValue? c).getD 0) 0 : Nat)

def integer? (word : List Char) : Option Int :=
  match word with
  | '0' :: 'x' :: rest => basedInteger? 16 rest
  | '0' :: 'o' :: rest => basedInteger? 8 rest
  | '0' :: 'b' :: rest => basedInteger? 2 rest
  | _ => do
    let (negative, unsigned) := FloatNumber.splitSign word
    let n := FloatNumber.digitsValue (← integerDigits? unsigned)
    signedWord? (if negative then -(n : Int) else n)

/-- The power of ten that a word writes behind its mark. Zeros in front are allowed. -/
def power? (word : List Char) : Option Int := do
  let (negative, unsigned) := FloatNumber.splitSign word
  let n := FloatNumber.digitsValue (← groupedDigits? Char.isDigit unsigned)
  some (if negative then -(n : Int) else n)

/-- The number that is written with a fraction or a power, or both. -/
def decimal? (negative : Bool) (word : List Char) : Option FloatNumber := do
  let isMark := fun c => c == 'e' || c == 'E'
  let mantissa := word.takeWhile (!isMark ·)
  let whole ← integerDigits? (mantissa.takeWhile (· != '.'))
  let fraction ←
    match mantissa.dropWhile (· != '.') with
    | [] => some []
    | _ :: written => groupedDigits? Char.isDigit written
  let power ←
    match word.dropWhile (!isMark ·) with
    | [] => some 0
    | _ :: written => power? written
  if fraction.isEmpty && !word.any isMark then none
  else FloatNumber.ofParts? negative whole fraction power

/-- The floating number that a word writes. A positive one beyond the greatest is refused. -/
def floating? (word : List Char) : Option FloatNumber :=
  let (negative, unsigned) := FloatNumber.splitSign word
  if unsigned = "inf".toList then some (.infinite negative)
  else if unsigned = "nan".toList then some .notANumber
  else
    match decimal? negative unsigned with
    | some (.infinite false) => none
    | other => other

/-- A number of exactly `width` digits between two bounds, and what follows it. -/
def field? (width low high : Nat) (text : List Char) : Option (Nat × List Char) :=
  let digits := text.take width
  let n := FloatNumber.digitsValue digits
  if digits.length = width && digits.all Char.isDigit && low ≤ n && n ≤ high then
    some (n, text.drop width)
  else none

/-- What follows a character that has to stand here. -/
def expect? (c : Char) : List Char → Option (List Char)
  | d :: rest => if c = d then some rest else none
  | [] => none

def daysIn (year month : Nat) : Nat :=
  let leaps := year % 4 = 0 ∧ (year % 100 ≠ 0 ∨ year % 400 = 0)
  if month = 2 then if leaps then 29 else 28
  else if month = 4 ∨ month = 6 ∨ month = 9 ∨ month = 11 then 30
  else 31

/-- What follows a date that exists. -/
def date? (text : List Char) : Option (List Char) := do
  let (year, text) ← field? 4 0 9999 text
  let (month, text) ← field? 2 1 12 (← expect? '-' text)
  let (_, text) ← field? 2 1 (daysIn year month) (← expect? '-' text)
  some text

/-- What follows a time of day. -/
def time? (text : List Char) : Option (List Char) := do
  let (_, text) ← field? 2 0 23 text
  let (_, text) ← field? 2 0 59 (← expect? ':' text)
  let (_, text) ← field? 2 0 60 (← expect? ':' text)
  match text with
  | '.' :: rest =>
    if (rest.head?.any Char.isDigit) then some (rest.dropWhile Char.isDigit) else none
  | rest => some rest

/-- Whether a text is the distance of a time from the world's, or nothing. -/
def isOffset : List Char → Bool
  | [] => true
  | [c] => c == 'Z' || c == 'z'
  | sign :: rest =>
    (sign == '+' || sign == '-')
      && ((do
        let (_, rest) ← field? 2 0 23 rest
        let (_, rest) ← field? 2 0 59 (← expect? ':' rest)
        some rest.isEmpty).getD false)

/-- Whether a text is a time that may have a distance. -/
def isZonedTime (text : List Char) : Bool := (time? text).any isOffset

/-- Whether a word is a date, a time, or a date and a time with the letter between them. -/
def isMoment (word : List Char) : Bool :=
  (time? word).any List.isEmpty
    || match date? word with
      | some [] => true
      | some (c :: rest) => (c == 'T' || c == 't') && isZonedTime rest
      | none => false

/-- The value that a word writes. -/
def wordValue? (word : List Char) : Option Value :=
  if word = "true".toList then some (.boolean true)
  else if word = "false".toList then some (.boolean false)
  else if isMoment word then some (.moment (String.ofList word))
  else
    match integer? word with
    | some n => some (.integer n)
    | none => (floating? word).map .floating

/-- The value that a text begins with, if it begins with a word, and what follows it. A date takes
the time behind a space along. -/
def scalar? (text : List Char) : Option (Value × List Char) := do
  let word := text.takeWhile isWordChar
  let rest := text.drop word.length
  let next := (rest.drop 1).takeWhile isWordChar
  if date? word = some [] && rest.head? = some ' ' && isZonedTime next then
    some (.moment (String.ofList (word ++ ' ' :: next)), (rest.drop 1).drop next.length)
  else some (← wordValue? word, rest)

end WaitingList.Toml

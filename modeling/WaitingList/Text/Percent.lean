import WaitingList.Text.Utf8

namespace WaitingList.Percent

/-- The value of a hexadecimal digit, in either case. -/
def hexValue? (b : UInt8) : Option UInt8 :=
  if 0x30 ≤ b ∧ b ≤ 0x39 then some (b - 0x30)
  else if 0x41 ≤ b ∧ b ≤ 0x46 then some (b - 0x37)
  else if 0x61 ≤ b ∧ b ≤ 0x66 then some (b - 0x57)
  else none

/-- The byte `%`. -/
def sign : UInt8 := 0x25

/-- The bytes that a percent-encoded byte string stands for. -/
def decodeBytes : List UInt8 → List UInt8
  | [] => []
  | [b] => [b]
  | [b, h] => [b, h]
  | b :: h :: l :: rest =>
    match b == sign, hexValue? h, hexValue? l with
    | true, some high, some low => (high * 16 + low) :: decodeBytes rest
    | _, _, _ => b :: decodeBytes (h :: l :: rest)

/-- The text that a percent-encoded text stands for, if the bytes that come out are text. -/
def decode? (text : List Char) : Option (List Char) :=
  Utf8.decode? (decodeBytes (Utf8.encode text))

/-- The upper-case hexadecimal digit of a value below sixteen. -/
def hexDigit (n : Nat) : Char :=
  if n < 10 then Char.ofNat (0x30 + n) else Char.ofNat (0x37 + n)

/-- A byte as `%` and two digits. -/
def encodeByte (b : UInt8) : List Char :=
  ['%', hexDigit (b.toNat / 16), hexDigit (b.toNat % 16)]

/-- A text with each character that `reserved` names replaced by its encoded bytes. -/
def encode (reserved : Char → Bool) (text : List Char) : List Char :=
  text.flatMap fun c =>
    if reserved c then (String.utf8EncodeChar c).flatMap encodeByte else [c]

end WaitingList.Percent

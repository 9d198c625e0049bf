import WaitingList.Unicode.VisibilityData

namespace WaitingList.Quoted

open Unicode

/-- Whether a character shows by itself. -/
def isVisible (c : Char) : Bool :=
  if c.toNat < 0x80 then 0x20 ≤ c.toNat && c.toNat < 0x7F
  else !VisibilityData.graphemeExtending.contains c && !VisibilityData.invisible.contains c

/-- A character as it stands between quotes. -/
def encodeChar (c : Char) : List Char :=
  if c = '\x00' then ['\\', '0']
  else if c = '\t' then ['\\', 't']
  else if c = '\r' then ['\\', 'r']
  else if c = '\n' then ['\\', 'n']
  else if c = '\\' then ['\\', '\\']
  else if c = '"' then ['\\', '"']
  else if isVisible c then [c]
  else ['\\', 'u', '\x7b'] ++ Nat.toDigits 16 c.toNat ++ ['\x7d']

def encode (text : List Char) : List Char := '"' :: text.flatMap encodeChar ++ ['"']

def text (s : String) : String := String.ofList (encode s.toList)

end WaitingList.Quoted

import WaitingList.Text.Utf8

namespace WaitingList

/-- The signs that a token may hold beside letters and digits. -/
def tokenSigns : List Char := "!#$%&'*+-.^_\x60|~".toList

def isToken (text : String) : Bool :=
  !text.isEmpty && text.toList.all fun c => c.isAlphanum || tokenSigns.contains c

/-- The method of a request. Its letters are told apart by case. -/
structure Method where
  name : String
  deriving DecidableEq, Repr

namespace Method

/-- Asks for a resource. -/
def get : Method := ⟨"GET"⟩

/-- Asks for what goes before a resource, without its body. -/
def head : Method := ⟨"HEAD"⟩

/-- Hands something in. -/
def post : Method := ⟨"POST"⟩

/-- The method that a text names. Any token is one. -/
def ofText? (text : String) : Option Method := if isToken text then some ⟨text⟩ else none

end Method

/-- A header field. Its name is in lower case. -/
structure Header where
  name : String
  value : List UInt8
  deriving DecidableEq, Repr

namespace Header

/-- The most bytes a name may have. -/
def maxNameLength : Nat := 65535

/-- Whether a text can name a field. -/
def isName (text : String) : Bool := isToken text && text.length ≤ maxNameLength

/-- Whether a byte can stand in a value: control characters cannot, but for the tab. -/
def isValueByte (b : UInt8) : Bool := (0x20 ≤ b && b != 0x7F) || b == 0x09

/-- Whether a byte of a value can be read as text: it is visible ASCII, a space or a tab. -/
def isReadableByte (b : UInt8) : Bool := (0x20 ≤ b && b < 0x7F) || b == 0x09

/-- The text of a value, if every byte of it can be read. -/
def readable? (value : List UInt8) : Option String :=
  if value.all isReadableByte then Utf8.text? value else none

/-- The field with a text as its value. -/
def ofText (name value : String) : Header := ⟨name, Utf8.encode value.toList⟩

/-- The value of the first field of a name. -/
def first? (name : String) (headers : List Header) : Option (List UInt8) :=
  (headers.find? (·.name = name)).map Header.value

/-- The fields with a name replaced by one field. -/
def set (headers : List Header) (field : Header) : List Header :=
  headers.filter (·.name ≠ field.name) ++ [field]

end Header

end WaitingList

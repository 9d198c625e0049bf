import WaitingList.Submission.Number
import WaitingList.Text.Quoted

namespace WaitingList.Submission

/-- What a body breaks off inside of. -/
inductive Inside where
  | value
  | list
  | object
  | text
  deriving DecidableEq, Repr

/-- Why a body is no JSON. -/
inductive Malformed where
  | endsInside (inside : Inside)
  | expectedWord
  | expectedValue
  | expectedColon
  | expectedListEnd
  | expectedObjectEnd
  | expectedName
  | trailingComma
  | trailingCharacters
  | badNumber
  | numberOutOfRange
  | badEscape
  | controlCharacter
  | badText
  | loneSurrogate
  | cutSurrogate
  deriving DecidableEq, Repr

namespace Malformed

/-- The words for a fault of form. -/
def message : Malformed → String
  | endsInside .value => "EOF while parsing a value"
  | endsInside .list => "EOF while parsing a list"
  | endsInside .object => "EOF while parsing an object"
  | endsInside .text => "EOF while parsing a string"
  | expectedWord => "expected ident"
  | expectedValue => "expected value"
  | expectedColon => "expected `:`"
  | expectedListEnd => "expected `,` or `]`"
  | expectedObjectEnd => "expected `,` or `\x7d`"
  | expectedName => "key must be a string"
  | trailingComma => "trailing comma"
  | trailingCharacters => "trailing characters"
  | badNumber => "invalid number"
  | numberOutOfRange => "number out of range"
  | badEscape => "invalid escape"
  | controlCharacter => "control character (\\u0000-\\u001F) found while parsing a string"
  | badText => "invalid unicode code point"
  | loneSurrogate => "lone leading surrogate in hex escape"
  | cutSurrogate => "unexpected end of hex escape"

end Malformed

/-- A value that stands where another kind is needed. -/
inductive Found where
  | null
  | boolean (b : Bool)
  | number (n : Number)
  | text (s : String)
  | list
  | object
  deriving DecidableEq, Repr

namespace Found

/-- How a value is told of. -/
def describe : Found → String
  | null => "null"
  | boolean b => s!"boolean `{b}`"
  | number (.integer n) => s!"integer `{n}`"
  | number n => s!"floating point `{n.text}`"
  | text s => s!"string {Quoted.text s}"
  | list => "sequence"
  | object => "map"

end Found

/-- What a place of a submission needs. -/
inductive Needed where
  /-- The submission itself: an object, or a list in place of one. -/
  | submission
  /-- The address, which is a text. -/
  | email
  deriving DecidableEq, Repr

namespace Needed

def describe : Needed → String
  | submission => "struct DeserSubscriber"
  | email => "a string"

end Needed

/-- What is wrong with a body. -/
inductive Cause where
  | malformed (fault : Malformed)
  | wrongKind (found : Found) (needed : Needed)
  /-- The address is given twice. -/
  | repeated
  deriving DecidableEq, Repr

namespace Cause

def message : Cause → String
  | malformed fault => fault.message
  | wrongKind found needed => s!"invalid type: {found.describe}, expected {needed.describe}"
  | repeated => "duplicate field `email`"

/-- Whether the body is JSON as far as it was read, and only of the wrong shape. -/
def concernsShape : Cause → Bool
  | malformed _ => false
  | wrongKind _ _ | repeated => true

end Cause

/-- A place in a text of lines: the line, counted from one, and how many bytes of it come before
the place. -/
structure Position where
  line : Nat
  column : Nat
  deriving DecidableEq, Repr

namespace Position

/-- The place where a text begins. -/
def start : Position := ⟨1, 0⟩

/-- The place after one more byte. -/
def advance (p : Position) (b : UInt8) : Position :=
  if b == 0x0A then ⟨p.line + 1, 0⟩ else ⟨p.line, p.column + 1⟩

def after (bytes : List UInt8) : Position := bytes.foldl advance start

end Position

/-- What is wrong with a body, and where. -/
structure Fault where
  cause : Cause
  position : Position
  deriving DecidableEq, Repr

namespace Fault

def message (fault : Fault) : String :=
  s!"{fault.cause.message} at line {fault.position.line} column {fault.position.column}"

end Fault

end WaitingList.Submission

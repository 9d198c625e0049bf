import WaitingList.Log.Record
import WaitingList.Text.Blank

namespace WaitingList

/-- A field that a directive asks for, and the value that it has to have, if any. -/
structure FieldPattern where
  name : String
  value : Option String
  deriving DecidableEq, Repr

namespace FieldPattern

/-- The pattern that a text between braces writes: what stands before the first equals sign, and
what stands between it and the next. -/
def ofText (text : List Char) : FieldPattern :=
  match text.splitOn '=' with
  | name :: value :: _ => ⟨String.ofList name, some (String.ofList value)⟩
  | _ => ⟨String.ofList text, none⟩

/-- Whether a field of a span meets a pattern. A pattern matches the whole of a text. -/
def accepts (p : FieldPattern) : FieldValue → Bool
  | .text s => p.value.all (· == s)
  | .number n => p.value.all (·.toInt? == some n)

end FieldPattern

/-- For which records, or for the records of which spans, a threshold holds. -/
structure Directive where
  target : Option String
  span : Option String
  fields : List FieldPattern
  threshold : Threshold
  deriving DecidableEq, Repr

namespace Directive

/-- The directive that everything is left out of. It keeps all records. -/
def unrestricted : Directive := ⟨none, none, [], .atLeast .trace⟩

/-- Where in a directive its reader stands. A position is where the part that is being read
began. -/
inductive Place where
  | start
  | word (begun : Nat)
  | span (begun : Nat)
  | field (begun : Nat)
  | afterFields
  | afterSpan
  | level (begun : Nat)
  deriving DecidableEq, Repr

/-- Whether a character can begin a target. Beyond ASCII every character counts as a letter. -/
def isTargetStart (c : Char) : Bool :=
  c.isAlphanum || c == '-' || c == ':' || c == '_' || c.toNat ≥ 0x80

/-- What stands in a text from one position up to another. -/
def slice (text : List Char) (start stop : Nat) : List Char := (text.drop start).take (stop - start)

/-- The directive and the place after one more character. The parts are cut from `text` at the
positions of the characters. -/
def step (text : List Char) (d : Directive) (place : Place) (position : Nat) (c : Char) :
    Option (Directive × Place) :=
  let part (begun : Nat) := slice text begun position
  let name (begun : Nat) := some (String.ofList (part begun))
  let next := position + 1
  match place with
  | .start =>
    if c = '[' then some (d, .span next)
    else if isTargetStart c then some (d, .word position)
    else none
  | .word begun =>
    if c = '=' then some ({ d with target := name begun }, .level next)
    else if c = '[' then some ({ d with target := name begun }, .span next)
    else some (d, place)
  | .span begun =>
    if c = ']' then some ({ d with span := name begun }, .afterSpan)
    else if c = '\x7b' then
      some ({ d with span := if (part begun).isEmpty then none else name begun }, .field next)
    else some (d, place)
  | .field begun =>
    if c = '\x7d' then
      if (part begun).isEmpty then none
      else some ({ d with fields := d.fields ++ [.ofText (part begun)] }, .afterFields)
    else some (d, place)
  | .afterFields => if c = ']' then some (d, .afterSpan) else none
  | .afterSpan => if c = '=' then some (d, .level next) else none
  | .level _ => some (d, place)

/-- The directive and the place after a text whose characters stand at the positions given. -/
def scan (text : List Char) (d : Directive) (place : Place) :
    List (Char × Nat) → Option (Directive × Place)
  | [] => some (d, place)
  | (c, position) :: rest =>
    match step text d place position c with
    | some (d, place) => scan text d place rest
    | none => none

/-- The directive that is complete where a text ends. A word that is no level is a target, and a
level that is left out keeps all. -/
def finish (text : List Char) (d : Directive) : Place → Option Directive
  | .word begun =>
    let word := text.drop begun
    match Threshold.ofText? word with
    | some threshold => some { d with threshold }
    | none => some { d with target := some (String.ofList word) }
  | .level begun =>
    let word := text.drop begun
    if word.isEmpty then some d
    else (Threshold.ofText? word).map fun threshold => { d with threshold }
  | .afterSpan => some d
  | _ => none

/-- The directive that a text writes. Blanks at its ends are passed over, yet the parts are cut at
the positions that they have without them. -/
def ofText? (text : List Char) : Option Directive := do
  let (d, place) ← scan text unrestricted .start (trimBlanks text).zipIdx
  finish text d place

/-- Whether a directive may tell records apart by where they come from alone, without a look at
the values in the spans around them. -/
def isStatic (d : Directive) : Bool := d.span.isNone && d.fields.all (·.value.isNone)

/-- Whether a directive holds for the records of certain spans. -/
def isDynamic (d : Directive) : Bool := d.span.isSome || !d.fields.isEmpty

/-- Whether a directive's threshold hangs on the value of a field. -/
def asksForValue (d : Directive) : Bool := d.fields.any (·.value.isSome)

def coversTarget (d : Directive) (target : String) : Bool :=
  d.target.all fun start => start.toList.isPrefixOf target.toList

/-- Whether a directive, by its origin alone, is about a record. -/
def coversRecord (d : Directive) (r : LogRecord) : Bool :=
  d.coversTarget r.target && d.fields.all fun p => r.fieldNames.contains p.name

/-- Whether a directive is about a kind of span: the target, the name and the fields fit. -/
def coversSpan (d : Directive) (s : Span) : Bool :=
  d.coversTarget s.target && d.span.all (· == s.name)
    && d.fields.all fun p => (s.value? p.name).isSome

/-- Whether the fields of a span have the values that a directive asks for. -/
def acceptsValues (d : Directive) (s : Span) : Bool :=
  d.fields.all fun p => (s.value? p.name).any p.accepts

/-- Whether two directives are about the same, so that the later one replaces the earlier. -/
def sameScope (a b : Directive) : Bool :=
  a.target == b.target && a.span == b.span && a.fields == b.fields

/-- Whether names come no later than others in alphabetical order. -/
def namesInOrder : List String → List String → Bool
  | [], _ => true
  | _ :: _, [] => false
  | a :: as, b :: bs => if a == b then namesInOrder as bs else a.toList.lex b.toList

/-- How a directive compares with another in precision: the length of the target first, then the
number of fields, then their names. -/
def isAsPreciseAs (a b : Directive) : Bool :=
  let length (d : Directive) : Nat := (d.target.map (·.utf8ByteSize + 1)).getD 0
  let names (d : Directive) : List String := d.fields.map FieldPattern.name
  if length a ≠ length b then length b < length a
  else if a.fields.length ≠ b.fields.length then b.fields.length < a.fields.length
  else namesInOrder (names b) (names a)

end Directive

end WaitingList

import WaitingList.Submission.Text

namespace WaitingList.Submission

/-- Whether a byte is a blank. -/
def isBlank (b : UInt8) : Bool := b == 0x20 || b == 0x0A || b == 0x09 || b == 0x0D

/-- The address that a body gives: none may be given, and what is given may be null. -/
abbrev Given := Option String

/-- What the members so far say: whether the address was given, and which. -/
abbrev Seen := Option Given

/-- Where a value stands that is read for its own sake. -/
inductive Place where
  /-- The whole body. -/
  | whole
  /-- The only element of a list. -/
  | element
  /-- The member `email`. -/
  | member
  deriving DecidableEq, Repr

namespace Place

/-- What a place needs. -/
def needed : Place → Needed
  | whole => .submission
  | element | member => .email

end Place

/-- What encloses an ignored value. -/
inductive Frame where
  | list
  | object
  deriving DecidableEq, Repr

/-- Where in an ignored value the last byte stood. -/
inductive Ignored where
  /-- Before a value. -/
  | value
  /-- After the bracket that opens the innermost frame. -/
  | opened
  | text (isName : Bool) (phase : IgnoredPhase)
  | number (phase : NumberPhase)
  /-- Inside a word, before its letter `next`. -/
  | word (next : UInt8) (rest : List UInt8)
  /-- After a value inside the innermost frame. -/
  | after
  /-- Before the name of a further member. -/
  | name
  /-- After a name. -/
  | colon
  deriving DecidableEq, Repr

/-- Where in a body the last byte stood. -/
inductive Reader where
  /-- Before the body's value. -/
  | start
  /-- Inside a word that stands for `value`, before its letter `next`. -/
  | word (place : Place) (next : UInt8) (rest : List UInt8) (value : Found)
  | number (place : Place) (phase : NumberPhase) (value : NumberValue)
  | text (place : Place) (state : TextState)
  | name (seen : Seen) (state : TextState)
  /-- After the bracket that opens a list. -/
  | listOpened
  /-- After the element of a list. -/
  | element (given : Given)
  /-- After a comma behind the element. -/
  | elementComma
  /-- After the bracket that opens an object. -/
  | objectOpened
  /-- After a name. -/
  | colon (isEmail : Bool) (seen : Seen)
  /-- After the name `email` for the second time. -/
  | repeated
  /-- Before the value of the member `email`. -/
  | email
  /-- Inside the value of another member, with the frames around the place, innermost first. -/
  | ignored (inner : Ignored) (frames : List Frame) (seen : Seen)
  /-- After a member. -/
  | member (seen : Seen)
  /-- After a comma behind a member. -/
  | memberComma (seen : Seen)
  /-- After the body's value. -/
  | done (given : Given)
  deriving DecidableEq, Repr

/-- A cause, with how many bytes before the end of what has been read it is placed. -/
structure Stop where
  cause : Cause
  back : Nat
  deriving DecidableEq, Repr

/-- A cause, with how many bytes of the body come before its place. -/
structure Halt where
  cause : Cause
  offset : Nat
  deriving DecidableEq, Repr

namespace Stop

/-- A fault that counts the byte which shows it. -/
def behind (fault : Malformed) : Stop := ⟨.malformed fault, 0⟩

/-- A fault that does not count the byte which shows it. -/
def before (fault : Malformed) : Stop := ⟨.malformed fault, 1⟩

end Stop

def wordBytes (word : String) : List UInt8 := word.toList.map fun c => UInt8.ofNat c.toNat

/-- A word of JSON: its second letter, what follows that, and what the word stands for. -/
def word? (b : UInt8) : Option (UInt8 × List UInt8 × Found) :=
  if b == 0x6E then some (0x75, wordBytes "ll", .null)
  else if b == 0x74 then some (0x72, wordBytes "ue", .boolean true)
  else if b == 0x66 then some (0x61, wordBytes "lse", .boolean false)
  else none

namespace Reader

/-- The state after a value was read in its place. Only a list or an object can be the whole. -/
def close (place : Place) (given : Given) : Reader :=
  match place with
  | .whole => done given
  | .element => element given
  | .member => member (some given)

/-- What a complete value leads to. -/
def conclude (place : Place) (value : Found) : Except Stop Reader :=
  match place, value with
  | .whole, _ => .error ⟨.wrongKind value place.needed, 0⟩
  | _, .null => .ok (close place none)
  | _, .text s => .ok (close place (some s))
  | _, _ => .error ⟨.wrongKind value place.needed, 0⟩

/-- What a complete number amounts to. -/
def numberCause (place : Place) (value : NumberValue) : Cause :=
  match Number.ofValue? value with
  | some n => .wrongKind (.number n) place.needed
  | none => .malformed .numberOutOfRange

/-- What the first byte of a value leads to in a place. -/
def begin (place : Place) (b : UInt8) : Except Stop Reader :=
  match word? b, NumberPhase.first? b with
  | some (next, rest, value), _ => .ok (word place next rest value)
  | none, some phase => .ok (number place phase (NumberValue.empty.push phase b))
  | none, none =>
    if b == quote then .ok (text place .start)
    else if b == 0x5B then .error ⟨.wrongKind .list place.needed, 1⟩
    else if b == 0x7B then .error ⟨.wrongKind .object place.needed, 1⟩
    else .error (.behind .expectedValue)

/-- What a decoded name leads to. -/
def takeName (seen : Seen) (name : List Char) : Reader :=
  if name = "email".toList then if seen.isSome then repeated else colon true seen
  else colon false seen

/-- The text that bytes write. A fault in it is placed where the readable part of it would end if
the text ended with the body read so far. -/
def readText (bytes : List UInt8) : Except Stop (List Char) :=
  match Utf8.decode? bytes with
  | some chars => .ok chars
  | none => .error ⟨.malformed .badText, bytes.length - Utf8.readableLength bytes⟩

/-- The state after an ignored value inside frames. -/
def afterIgnored (frames : List Frame) (seen : Seen) : Reader :=
  if frames.isEmpty then member seen else ignored .after frames seen

/-- What the first byte of an ignored value leads to. -/
def beginIgnored (frames : List Frame) (seen : Seen) (b : UInt8) : Except Stop Reader :=
  match word? b, NumberPhase.first? b with
  | some (next, rest, _), _ => .ok (ignored (.word next rest) frames seen)
  | none, some phase => .ok (ignored (.number phase) frames seen)
  | none, none =>
    if b == quote then .ok (ignored (.text false .plain) frames seen)
    else if b == 0x5B then .ok (ignored .opened (.list :: frames) seen)
    else if b == 0x7B then .ok (ignored .opened (.object :: frames) seen)
    else .error (.behind .expectedValue)

/-- The step of a byte that is no blank after a member. -/
def stepMember (seen : Seen) (b : UInt8) : Except Stop Reader :=
  if b == 0x2C then .ok (memberComma seen)
  else if b == 0x7D then .ok (done seen.join)
  else .error (.behind .expectedObjectEnd)

/-- The step of a byte that is no blank after an ignored value inside frames. -/
def stepAfter (frames : List Frame) (seen : Seen) (b : UInt8) : Except Stop Reader :=
  match frames with
  | [] => stepMember seen b
  | .list :: outer =>
    if b == 0x2C then .ok (ignored .value frames seen)
    else if b == 0x5D then .ok (afterIgnored outer seen)
    else .error (.behind .expectedListEnd)
  | .object :: outer =>
    if b == 0x2C then .ok (ignored .name frames seen)
    else if b == 0x7D then .ok (afterIgnored outer seen)
    else .error (.behind .expectedObjectEnd)

/-- The step of a byte that is no blank where a name inside an ignored object has to begin. -/
def stepIgnoredName (frames : List Frame) (seen : Seen) (b : UInt8) : Except Stop Reader :=
  if b == quote then .ok (ignored (.text true .plain) frames seen)
  else .error (.behind .expectedName)

/-- The step of a byte that is no blank after the bracket that opens an ignored frame. -/
def stepOpened (frames : List Frame) (seen : Seen) (b : UInt8) : Except Stop Reader :=
  match frames with
  | .object :: outer =>
    if b == 0x7D then .ok (afterIgnored outer seen) else stepIgnoredName frames seen b
  | .list :: outer =>
    if b == 0x5D then .ok (afterIgnored outer seen) else beginIgnored frames seen b
  | [] => beginIgnored frames seen b

/-- The step of a byte inside an ignored value. A number ends with the byte after it. -/
def stepIgnored (inner : Ignored) (frames : List Frame) (seen : Seen) (b : UInt8) :
    Except Stop Reader :=
  match inner with
  | .value => if isBlank b then .ok (ignored .value frames seen) else beginIgnored frames seen b
  | .opened => if isBlank b then .ok (ignored .opened frames seen) else stepOpened frames seen b
  | .text isName phase =>
    match phase.next b with
    | .more phase => .ok (ignored (.text isName phase) frames seen)
    | .closed => .ok (if isName then ignored .colon frames seen else afterIgnored frames seen)
    | .bad .controlCharacter => .error (.before .controlCharacter)
    | .bad fault => .error (.behind fault)
  | .number phase =>
    match phase.next b with
    | .more phase => .ok (ignored (.number phase) frames seen)
    | .ended => if isBlank b then .ok (afterIgnored frames seen) else stepAfter frames seen b
    | .bad => .error (.behind .badNumber)
  | .word next rest =>
    if b != next then .error (.behind .expectedWord)
    else
      match rest with
      | [] => .ok (afterIgnored frames seen)
      | next :: rest => .ok (ignored (.word next rest) frames seen)
  | .after => if isBlank b then .ok (ignored .after frames seen) else stepAfter frames seen b
  | .name => if isBlank b then .ok (ignored .name frames seen) else stepIgnoredName frames seen b
  | .colon =>
    if isBlank b then .ok (ignored .colon frames seen)
    else if b == 0x3A then .ok (ignored .value frames seen)
    else .error (.behind .expectedColon)

/-- The step of a byte inside a number. -/
def stepNumber (place : Place) (phase : NumberPhase) (value : NumberValue) (b : UInt8) :
    Except Stop Reader :=
  match phase.next b with
  | .more phase =>
    let value := value.push phase b
    if value.overflows then .error (.behind .numberOutOfRange) else .ok (number place phase value)
  | .ended => .error ⟨numberCause place value, 1⟩
  | .bad => .error (.behind .badNumber)

/-- The step of a byte inside a word. -/
def stepWord (place : Place) (next : UInt8) (rest : List UInt8) (value : Found) (b : UInt8) :
    Except Stop Reader :=
  if b != next then .error (.behind .expectedWord)
  else
    match rest with
    | [] => conclude place value
    | next :: rest => .ok (word place next rest value)

/-- The step of one more byte. -/
def step (reader : Reader) (b : UInt8) : Except Stop Reader :=
  match reader with
  | start =>
    if isBlank b then .ok start
    else if b == 0x5B then .ok listOpened
    else if b == 0x7B then .ok objectOpened
    else begin .whole b
  | word place next rest value => stepWord place next rest value b
  | number place phase value => stepNumber place phase value b
  | text place state =>
    match state.next b with
    | .more state => .ok (text place state)
    | .closed bytes => do conclude place (.text (String.ofList (← readText bytes)))
    | .bad fault => .error (.behind fault)
  | name seen state =>
    match state.next b with
    | .more state => .ok (name seen state)
    | .closed bytes => do return takeName seen (← readText bytes)
    | .bad fault => .error (.behind fault)
  | listOpened =>
    if isBlank b then .ok listOpened
    else if b == 0x5D then .ok (done none)
    else begin .element b
  | element given =>
    if isBlank b then .ok (element given)
    else if b == 0x2C then .ok elementComma
    else if b == 0x5D then .ok (done given)
    else .error (.behind .trailingCharacters)
  | elementComma =>
    if isBlank b then .ok elementComma
    else if b == 0x5D then .error (.behind .trailingComma)
    else .error (.behind .trailingCharacters)
  | objectOpened =>
    if isBlank b then .ok objectOpened
    else if b == 0x7D then .ok (done none)
    else if b == quote then .ok (name none .start)
    else .error (.behind .expectedName)
  | colon isEmail seen =>
    if isBlank b then .ok (colon isEmail seen)
    else if b == 0x3A then .ok (if isEmail then email else ignored .value [] seen)
    else .error (.behind .expectedColon)
  | repeated =>
    if isBlank b then .ok repeated else .error ⟨.repeated, if b == 0x7D then 0 else 1⟩
  | email => if isBlank b then .ok email else begin .member b
  | ignored inner frames seen => stepIgnored inner frames seen b
  | member seen => if isBlank b then .ok (member seen) else stepMember seen b
  | memberComma seen =>
    if isBlank b then .ok (memberComma seen)
    else if b == quote then .ok (name seen .start)
    else if b == 0x7D then .error (.behind .trailingComma)
    else .error (.behind .expectedName)
  | done given => if isBlank b then .ok (done given) else .error (.behind .trailingCharacters)

/-- What a body breaks off inside of when it ends after an ignored value. -/
def insideOf : List Frame → Inside
  | .list :: _ => .list
  | .object :: _ | [] => .object

/-- What is wrong with a body that ends inside an ignored value. -/
def finishIgnored (inner : Ignored) (frames : List Frame) : Malformed :=
  match inner with
  | .value | .word _ _ => .endsInside .value
  | .text _ _ => .endsInside .text
  | .number phase => if phase.isComplete then .endsInside (insideOf frames) else .badNumber
  | .opened | .after => .endsInside (insideOf frames)
  | .name | .colon => .endsInside .object

/-- What the end of the body means. -/
def finish : Reader → Except Cause Given
  | done given => .ok given
  | start | word _ _ _ _ | email | memberComma _ => .error (.malformed (.endsInside .value))
  | number place phase value =>
    .error (if phase.isComplete then numberCause place value
      else .malformed (.endsInside .value))
  | text _ _ | name _ _ => .error (.malformed (.endsInside .text))
  | listOpened | element _ => .error (.malformed (.endsInside .list))
  | elementComma => .error (.malformed .trailingCharacters)
  | objectOpened | colon _ _ | member _ => .error (.malformed (.endsInside .object))
  | repeated => .error .repeated
  | ignored inner frames _ => .error (.malformed (finishIgnored inner frames))

/-- What the rest of a body gives, of which `offset` bytes have been read. -/
def run (reader : Reader) (offset : Nat) : List UInt8 → Except Halt Given
  | [] =>
    match reader.finish with
    | .ok given => .ok given
    | .error cause => .error ⟨cause, offset⟩
  | b :: rest =>
    match reader.step b with
    | .ok next => run next (offset + 1) rest
    | .error stop => .error ⟨stop.cause, offset + 1 - stop.back⟩

end Reader

/-- The address that a body gives, or what is wrong with the body. -/
def read (body : List UInt8) : Except Fault Given :=
  match Reader.run .start 0 body with
  | .ok given => .ok given
  | .error halt => .error ⟨halt.cause, Position.after (body.take halt.offset)⟩

end WaitingList.Submission

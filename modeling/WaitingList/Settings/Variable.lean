import WaitingList.Decimal.Binary64
import WaitingList.Net.IpAddress
import WaitingList.Settings.Setting
import WaitingList.Text.Blank
import WaitingList.Text.Utf8

namespace WaitingList

/-- A variable of the process. Its value may be any bytes. -/
structure Variable where
  name : String
  value : List UInt8
  deriving DecidableEq, Repr

namespace VariableSyntax

/-- The greatest unsigned word. -/
def maxUnsigned : Nat := twoTo 64 - 1

/-- The unsigned word that a text writes. A plus may stand in front. -/
def unsigned? (text : List Char) : Option Nat :=
  let digits := if text.head? = some '+' then text.drop 1 else text
  let n := IpAddress.decimalValue digits
  if !digits.isEmpty && digits.all Char.isDigit && n ≤ maxUnsigned then some n else none

/-- The signed word that a text writes. -/
def signed? (text : List Char) : Option Int :=
  let (negative, digits) := FloatNumber.splitSign text
  let n := FloatNumber.digitsValue digits
  let limit : Nat := if negative then twoTo 63 else twoTo 63 - 1
  if !digits.isEmpty && digits.all Char.isDigit && n ≤ limit then
    some (if negative then -(n : Int) else n)
  else none

/-- What a plain word stands for: a number, if it is one, else a text. Only a word with a point
can be a floating number. -/
def word (text : List Char) : Scalar :=
  let text := trimBlanks text
  match if text.contains '.' then FloatNumber.ofText? text else none with
  | some x => .floating x
  | none =>
    match unsigned? text, signed? text with
    | some n, _ => .unsigned n
    | none, some n => .signed n
    | none, none => .text (String.ofList text)

/-- Whether a character ends a plain word. -/
def isSeparator (c : Char) : Bool :=
  c == ',' || c == '[' || c == ']' || c == '\x7b' || c == '\x7d'

/-- Whether a character may stand in a key without quotes. -/
def isKeyChar (c : Char) : Bool := c.isAlphanum || c == '_' || c == '-'

/-- What stands before the quote that ends a text, and after it. An escaped quote does not. -/
def quoted? (escaped : Bool) : List Char → Option (List Char × List Char)
  | [] => none
  | c :: rest =>
    if !escaped && c == '"' then some ([], rest)
    else (quoted? (!escaped && c == '\\') rest).map fun (inner, after) => (c :: inner, after)

/-- The character that an escape of one letter stands for. -/
def shortEscape? (c : Char) : Option Char :=
  if c == '"' || c == '\\' then some c
  else if c == 'b' then some '\x08'
  else if c == 'f' then some '\x0C'
  else if c == 'n' then some '\n'
  else if c == 'r' then some '\r'
  else if c == 't' then some '\t'
  else none

/-- The character whose code hexadecimal digits give. -/
def charOfCode? (digits : List Char) : Option Char := do
  let code ← (digits.mapM IpAddress.hexValue?).map (·.foldl (fun n d => n * 16 + d) 0)
  if code.isValidChar then some (Char.ofNat code) else none

/-- Whether a character may stand in quotes as it is. Of the controls only the tab may. -/
def isPlain (c : Char) : Bool := c == '\t' || (0x20 ≤ c.toNat && c.toNat != 0x7F)

/-- What the inside of quotes stands for. -/
def unescape? : List Char → Option (List Char)
  | [] => some []
  | '\\' :: 'u' :: a :: b :: c :: d :: rest => do
    let code ← charOfCode? [a, b, c, d]
    some (code :: (← unescape? rest))
  | '\\' :: 'U' :: a :: b :: c :: d :: e :: f :: g :: h :: rest => do
    let code ← charOfCode? [a, b, c, d, e, f, g, h]
    some (code :: (← unescape? rest))
  | '\\' :: c :: rest => do
    let short ← shortEscape? c
    some (short :: (← unescape? rest))
  | c :: rest =>
    if c != '\\' && isPlain c then (unescape? rest).map (c :: ·) else none

/-- A text in quotes behind the first of them, and what follows it. -/
def text? (text : List Char) : Option (String × List Char) := do
  let (inner, rest) ← quoted? false text
  some (String.ofList (← unescape? inner), rest)

def key? (text : List Char) : Option (String × List Char) :=
  match text with
  | '"' :: rest => text? rest
  | _ =>
    let bare := text.takeWhile isKeyChar
    if bare.isEmpty then none else some (String.ofList bare, text.drop bare.length)

/-- The items of a list up to its closing bracket, and what follows it. A comma may stand behind
the last one. `fuel` bounds their number. -/
def items? (value : List Char → Option (Setting × List Char)) :
    Nat → List Char → Option (List Setting × List Char)
  | 0, _ => none
  | _ + 1, ']' :: rest => some ([], rest)
  | fuel + 1, text => do
    let (item, rest) ← value text
    match rest with
    | ',' :: rest => do
      let (items, rest) ← items? value fuel rest
      some (item :: items, rest)
    | ']' :: rest => some ([item], rest)
    | _ => none

/-- The pairs of a table up to its closing brace, and what follows it. A comma may stand behind the
last one, and the last value of a key counts. `fuel` bounds their number. -/
def pairs? (value : List Char → Option (Setting × List Char)) :
    Nat → List (String × Setting) → List Char → Option (List (String × Setting) × List Char)
  | 0, _, _ => none
  | _ + 1, entries, '\x7d' :: rest => some (entries, rest)
  | fuel + 1, entries, text => do
    let (key, rest) ← key? (text.dropWhile isAsciiBlank)
    match rest.dropWhile isAsciiBlank with
    | '=' :: rest => do
      let (inner, rest) ← value rest
      match rest with
      | ',' :: rest => pairs? value fuel (Setting.put key inner entries) rest
      | '\x7d' :: rest => some (Setting.put key inner entries, rest)
      | _ => none
    | _ => none

/-- The value that a text begins with, and what follows it. `fuel` bounds how deep lists and tables
are nested. -/
def value? : Nat → List Char → Option (Setting × List Char)
  | 0, _ => none
  | fuel + 1, text => do
    let scalar := Setting.scalar .process
    let (read, rest) ←
      match text.dropWhile isAsciiBlank with
      | 't' :: 'r' :: 'u' :: 'e' :: rest => some (scalar (.boolean true), rest)
      | 'f' :: 'a' :: 'l' :: 's' :: 'e' :: rest => some (scalar (.boolean false), rest)
      | '\x7b' :: rest =>
        (pairs? (value? fuel) (rest.length + 1) [] rest).map fun (entries, rest) =>
          (.table .process entries, rest)
      | '[' :: rest =>
        (items? (value? fuel) (rest.length + 1) rest).map fun (items, rest) =>
          (.list .process items, rest)
      | '"' :: rest => (text? rest).map fun (s, rest) => (scalar (.text s), rest)
      | '\x27' :: rest =>
        match rest with
        | c :: '\x27' :: rest => some (scalar (.char c), rest)
        | _ => none
      | text =>
        some (scalar (word (text.takeWhile (!isSeparator ·))), text.dropWhile (!isSeparator ·))
    some (read, rest.dropWhile isAsciiBlank)

/-- What a value stands for. A text that the syntax does not cover to its end stands for itself. -/
def read (text : List Char) : Setting :=
  match value? (text.length + 1) text with
  | some (value, []) => value
  | _ => .scalar .process (.text (String.ofList text))

end VariableSyntax

namespace Variable

/-- What the names of all variables begin with that are settings, in any case. -/
def mark : List Char := "app_".toList

/-- The parts of a text between dots and double underscores. -/
def parts : List Char → List (List Char)
  | [] => [[]]
  | '_' :: '_' :: rest => [] :: parts rest
  | '.' :: rest => [] :: parts rest
  | c :: rest =>
    match parts rest with
    | part :: more => (c :: part) :: more
    | [] => [[c]]

/-- The path of keys that a variable's name gives, if the variable is a setting: its parts in lower
case, none of them empty. -/
def path? (name : String) : Option (List String) :=
  let name := (trimBlanks name.toList).map Char.toLower
  if mark.isPrefixOf name then
    let path := parts (trimBlanks (name.drop mark.length))
    if path.any List.isEmpty then none else some (path.map String.ofList)
  else none

/-- The value of a variable as a setting. Bytes that are not text are marked. -/
def setting (v : Variable) : Setting := VariableSyntax.read (Utf8.decodeLossy v.value)

def layer? (v : Variable) : Option Setting :=
  (path? v.name).map fun path => Setting.nest .process v.setting path

/-- The variables that are set in the end when names are assigned in order. A name that is assigned
again keeps its place and takes the new value. -/
def assign (vs : List Variable) : List Variable :=
  vs.foldl
    (fun done v =>
      if done.any (·.name = v.name) then
        done.map fun old => if old.name = v.name then v else old
      else done ++ [v])
    []

end Variable

/-- The layer that variables write, the later ones over the earlier ones. -/
def Setting.ofVariables (vs : List Variable) : Setting :=
  (vs.filterMap Variable.layer?).foldl Setting.merge (.table .process [])

end WaitingList

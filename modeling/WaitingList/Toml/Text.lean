import WaitingList.Net.IpAddress

namespace WaitingList.Toml

/-- Whether a character is a blank within a line. -/
def isLineBlank (c : Char) : Bool := c == ' ' || c == '\t'

/-- Whether a character may stand in a comment, and in a text within one line: all but controls. -/
def isPlain (c : Char) : Bool := c == '\t' || (0x20 ≤ c.toNat && c.toNat != 0x7F)

/-- The character that an escape of one letter stands for. -/
def shortEscape? (c : Char) : Option Char :=
  if c == 'b' then some '\x08'
  else if c == 't' then some '\t'
  else if c == 'n' then some '\n'
  else if c == 'f' then some '\x0C'
  else if c == 'r' then some '\r'
  else if c == '"' then some '"'
  else if c == '\\' then some '\\'
  else none

/-- The character whose code hexadecimal digits give. -/
def charOfCode? (digits : List Char) : Option Char := do
  let code ← (digits.mapM IpAddress.hexValue?).map (·.foldl (fun n d => n * 16 + d) 0)
  if code.isValidChar then some (Char.ofNat code) else none

/-- One more character in front of a text that was read. -/
def withChar (c : Option Char) (text : Option (List Char × List Char)) :
    Option (List Char × List Char) :=
  match c, text with
  | some c, some (read, rest) => some (c :: read, rest)
  | _, _ => none

/-- The rest of a text in double quotes within one line, and what follows it. -/
def basicText : List Char → Option (List Char × List Char)
  | '"' :: rest => some ([], rest)
  | '\\' :: 'u' :: a :: b :: c :: d :: rest =>
    withChar (charOfCode? [a, b, c, d]) (basicText rest)
  | '\\' :: 'U' :: a :: b :: c :: d :: e :: f :: g :: h :: rest =>
    withChar (charOfCode? [a, b, c, d, e, f, g, h]) (basicText rest)
  | '\\' :: c :: rest => withChar (shortEscape? c) (basicText rest)
  | c :: rest => if isPlain c then withChar (some c) (basicText rest) else none
  | [] => none

/-- The rest of a text in single quotes within one line, and what follows it. -/
def literalText : List Char → Option (List Char × List Char)
  | [] => none
  | c :: rest =>
    if c == '\x27' then some ([], rest)
    else if isPlain c then withChar (some c) (literalText rest)
    else none

/-- Whether a line breaks off here, with nothing but blanks before. -/
def breaksLine (text : List Char) : Bool :=
  match text.dropWhile isLineBlank with
  | '\n' :: _ | '\r' :: '\n' :: _ => true
  | _ => false

/-- The rest of a text in three double quotes, and what follows it. Up to two quotes more may stand
before the closing ones. `skipping` says that a backslash at the end of a line has joined the
lines, so blanks are passed over until something else comes. -/
def basicBlock (skipping : Bool) : List Char → Option (List Char × List Char)
  | '"' :: '"' :: '"' :: '"' :: '"' :: rest => some (['"', '"'], rest)
  | '"' :: '"' :: '"' :: '"' :: rest => some (['"'], rest)
  | '"' :: '"' :: '"' :: rest => some ([], rest)
  | '\r' :: '\n' :: rest =>
    if skipping then basicBlock true rest else withChar (some '\n') (basicBlock false rest)
  | '\n' :: rest =>
    if skipping then basicBlock true rest else withChar (some '\n') (basicBlock false rest)
  | '\\' :: 'u' :: a :: b :: c :: d :: rest =>
    withChar (charOfCode? [a, b, c, d]) (basicBlock false rest)
  | '\\' :: 'U' :: a :: b :: c :: d :: e :: f :: g :: h :: rest =>
    withChar (charOfCode? [a, b, c, d, e, f, g, h]) (basicBlock false rest)
  | '\\' :: c :: rest =>
    if breaksLine (c :: rest) then basicBlock true (c :: rest)
    else withChar (shortEscape? c) (basicBlock false rest)
  | c :: rest =>
    if skipping && isLineBlank c then basicBlock true rest
    else if isPlain c then withChar (some c) (basicBlock false rest)
    else none
  | [] => none

/-- The rest of a text in three single quotes, and what follows it. -/
def literalBlock : List Char → Option (List Char × List Char)
  | '\x27' :: '\x27' :: '\x27' :: '\x27' :: '\x27' :: rest => some (['\x27', '\x27'], rest)
  | '\x27' :: '\x27' :: '\x27' :: '\x27' :: rest => some (['\x27'], rest)
  | '\x27' :: '\x27' :: '\x27' :: rest => some ([], rest)
  | '\r' :: '\n' :: rest => withChar (some '\n') (literalBlock rest)
  | '\n' :: rest => withChar (some '\n') (literalBlock rest)
  | c :: rest => if isPlain c then withChar (some c) (literalBlock rest) else none
  | [] => none

/-- A text without the line break that it begins with. -/
def dropFirstBreak : List Char → List Char
  | '\n' :: rest | '\r' :: '\n' :: rest => rest
  | text => text

/-- A text of any sort, and what follows it. -/
def quoted? : List Char → Option (List Char × List Char)
  | '"' :: '"' :: '"' :: rest => basicBlock false (dropFirstBreak rest)
  | '\x27' :: '\x27' :: '\x27' :: rest => literalBlock (dropFirstBreak rest)
  | '"' :: rest => basicText rest
  | '\x27' :: rest => literalText rest
  | _ => none

/-- Whether a character may stand in a key without quotes. -/
def isKeyChar (c : Char) : Bool := c.isAlphanum || c == '_' || c == '-'

def keyPart? : List Char → Option (List Char × List Char)
  | '"' :: rest => basicText rest
  | '\x27' :: rest => literalText rest
  | text =>
    let bare := text.takeWhile isKeyChar
    if bare.isEmpty then none else some (bare, text.drop bare.length)

/-- The parts of a key with dots between them, and what follows the key and the blanks behind it.
`fuel` bounds the number of parts. -/
def keyParts? : Nat → List Char → Option (List String × List Char)
  | 0, _ => none
  | fuel + 1, text => do
    let (part, rest) ← keyPart? (text.dropWhile isLineBlank)
    match rest.dropWhile isLineBlank with
    | '.' :: rest => do
      let (parts, rest) ← keyParts? fuel rest
      some (String.ofList part :: parts, rest)
    | rest => some ([String.ofList part], rest)

/-- The most parts that a key may have. -/
def maxKeyParts : Nat := 79

/-- A key: the path to its table, its last part, and what follows it. -/
def key? (text : List Char) : Option (List String × String × List Char) := do
  let (parts, rest) ← keyParts? maxKeyParts text
  let last ← parts.getLast?
  some (parts.dropLast, last, rest)

end WaitingList.Toml

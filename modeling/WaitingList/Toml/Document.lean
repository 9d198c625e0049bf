import WaitingList.Toml.Scalar
import WaitingList.Toml.Text

namespace WaitingList.Toml

/-- What follows blanks, line breaks and comments. `inComment` says that a comment has begun. -/
def skipTrivia? (inComment : Bool) : List Char → Option (List Char)
  | [] => some []
  | '\n' :: rest => skipTrivia? false rest
  | '\r' :: '\n' :: rest => skipTrivia? false rest
  | c :: rest =>
    if inComment then if isPlain c then skipTrivia? true rest else none
    else if isLineBlank c then skipTrivia? false rest
    else if c == '#' then skipTrivia? true rest
    else some (c :: rest)

/-- The items of a list up to its closing bracket, and what follows it. A comma may stand behind
the last item. `fuel` bounds the number of items. -/
def items? (item : List Char → Option (Value × List Char)) :
    Nat → List Char → Option (List Value × List Char)
  | 0, _ => none
  | fuel + 1, text => do
    match ← skipTrivia? false text with
    | ']' :: rest => some ([], rest)
    | text =>
      let (value, rest) ← item text
      match ← skipTrivia? false rest with
      | ',' :: rest => do
        let (values, rest) ← items? item fuel rest
        some (value :: values, rest)
      | ']' :: rest => some ([value], rest)
      | _ => none

/-- The pairs of an inline table up to its closing brace, and what follows it. `fuel` bounds the
number of pairs. -/
def pairs? (item : List Char → Option (Value × List Char)) :
    Nat → Entries → List Char → Option (Entries × List Char)
  | 0, _, _ => none
  | fuel + 1, entries, text => do
    let (path, key, rest) ← key? text
    let rest ← expect? '=' rest
    let (value, rest) ← item (rest.dropWhile isLineBlank)
    let entries ← add path key value .inline entries
    match rest.dropWhile isLineBlank with
    | ',' :: rest => pairs? item fuel entries rest
    | '\x7d' :: rest => some (entries, rest)
    | _ => none

/-- The value that a text begins with, if it is neither a list nor a table, and what follows it. -/
def flatValue? (text : List Char) : Option (Value × List Char) :=
  if text.head? = some '"' || text.head? = some '\x27' then
    (quoted? text).map fun (read, rest) => (.text (String.ofList read), rest)
  else scalar? text

/-- The value that a text begins with, and what follows it. Lists and inline tables may be nested
`depth` times. -/
def value? : Nat → List Char → Option (Value × List Char)
  | 0, text => flatValue? text
  | depth + 1, text =>
    match text with
    | '[' :: rest =>
      (items? (value? depth) (rest.length + 1) rest).map fun (items, rest) => (.list items, rest)
    | '\x7b' :: rest =>
      match rest.dropWhile isLineBlank with
      | '\x7d' :: rest => some (.table .inline [], rest)
      | rest =>
        (pairs? (value? depth) (rest.length + 1) [] rest).map fun (entries, rest) =>
          (.table .inline entries, rest)
    | text => flatValue? text

/-- How deep lists and inline tables may be nested. -/
def maxDepth : Nat := 79

/-- What follows the end of a line, which may hold blanks and a comment. -/
def endLine? (text : List Char) : Option (List Char) :=
  let text := text.dropWhile isLineBlank
  let text := if text.head? = some '#' then (text.drop 1).dropWhile isPlain else text
  match text with
  | [] => some []
  | '\n' :: rest | '\r' :: '\n' :: rest => some rest
  | _ => none

/-- A document that is being read: the table so far, and the header that the next lines belong
to. -/
structure Draft where
  root : Entries
  header : List String

namespace Draft

/-- Reads a header behind its bracket. -/
def header? (draft : Draft) (text : List Char) : Option (Draft × List Char) := do
  let (path, key, rest) ← key? text
  let rest ← endLine? (← expect? ']' rest)
  some (⟨← openTable path key draft.root, path ++ [key]⟩, rest)

/-- Reads a header of a list of tables behind its brackets. -/
def itemHeader? (draft : Draft) (text : List Char) : Option (Draft × List Char) := do
  let (path, key, rest) ← key? text
  let rest ← endLine? (← expect? ']' (← expect? ']' rest))
  some (⟨← openItem path key draft.root, path ++ [key]⟩, rest)

/-- Reads a key and its value. -/
def pair? (draft : Draft) (text : List Char) : Option (Draft × List Char) := do
  let (path, key, rest) ← key? text
  let rest ← expect? '=' rest
  let (value, rest) ← value? maxDepth (rest.dropWhile isLineBlank)
  let rest ← endLine? rest
  some (⟨← addUnder draft.header path key value draft.root, draft.header⟩, rest)

/-- Reads the lines of a document. `fuel` bounds their number. -/
def lines? : Nat → Draft → List Char → Option Entries
  | 0, _, _ => none
  | fuel + 1, draft, text =>
    match text.dropWhile isLineBlank with
    | [] => some draft.root
    | '\n' :: rest | '\r' :: '\n' :: rest => lines? fuel draft rest
    | '#' :: rest => do lines? fuel draft (← endLine? ('#' :: rest))
    | '[' :: '[' :: rest => do
      let (draft, rest) ← draft.itemHeader? rest
      lines? fuel draft rest
    | '[' :: rest => do
      let (draft, rest) ← draft.header? rest
      lines? fuel draft rest
    | text => do
      let (draft, rest) ← draft.pair? text
      lines? fuel draft rest

end Draft

/-- A text without the mark of its byte order. -/
def dropByteOrderMark : List Char → List Char
  | '\uFEFF' :: rest => rest
  | text => text

/-- The table that a document writes. -/
def parse? (text : String) : Option Entries :=
  let text := dropByteOrderMark text.toList
  Draft.lines? (text.length + 1) ⟨[], []⟩ text

end WaitingList.Toml

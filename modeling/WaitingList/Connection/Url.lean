import WaitingList.Net.IpAddress
import WaitingList.Text.Percent

namespace WaitingList

/-- The parts of a URL with an authority. User, password, path and options are still
percent-encoded. -/
structure ConnectionUrl where
  /-- In lower case. -/
  scheme : List Char
  user : List Char
  password : List Char
  host : List Char
  port : Option Nat
  /-- The path as its segments. A URL without a path has none. -/
  path : List (List Char)
  query : List Char
  deriving DecidableEq, Repr

namespace ConnectionUrl

/-- Whether a character may be lost at the ends of a URL. -/
def isMargin (c : Char) : Bool := c.toNat ≤ 0x20

/-- Whether a character is lost anywhere in a URL. -/
def isLineBreak (c : Char) : Bool := c == '\t' || c == '\n' || c == '\r'

/-- A text without the characters that a URL loses. -/
def clean (text : List Char) : List Char :=
  let left := text.dropWhile isMargin
  (left.reverse.dropWhile isMargin).reverse.filter (!isLineBreak ·)

/-- What stands before and after the first character that satisfies `p`. -/
def splitAtFirst? (p : Char → Bool) (text : List Char) : Option (List Char × List Char) :=
  match text.dropWhile (!p ·) with
  | [] => none
  | _ :: rest => some (text.takeWhile (!p ·), rest)

/-- What stands before and after the last character that is `c`. -/
def splitAtLast? (c : Char) (text : List Char) : Option (List Char × List Char) :=
  (splitAtFirst? (· == c) text.reverse).map fun (after, before) => (before.reverse, after.reverse)

/-- Whether a character may follow the first letter of a scheme. -/
def isSchemeChar (c : Char) : Bool := c.isAlphanum || c == '+' || c == '-' || c == '.'

/-- The scheme in lower case, and what follows its colon. -/
def splitScheme? (text : List Char) : Option (List Char × List Char) := do
  let (scheme, rest) ← splitAtFirst? (· == ':') text
  let first ← scheme.head?
  if first.isAlpha && scheme.all isSchemeChar then some (scheme.map Char.toLower, rest) else none

/-- Whether a character ends the authority. -/
def endsAuthority (c : Char) : Bool := c == '/' || c == '?' || c == '#'

/-- The user and the password in front of a host. The first colon parts them. -/
def credentials (text : List Char) : List Char × List Char :=
  (splitAtFirst? (· == ':') text).getD (text, [])

/-- What a text holds before the colon of its port. Colons in brackets belong to a host. -/
def hostEnd (inBrackets : Bool) : List Char → List Char
  | [] => []
  | c :: rest =>
    if c == ':' && !inBrackets then []
    else c :: hostEnd (c == '[' || (inBrackets && c != ']')) rest

/-- Characters that no host may hold outside brackets. -/
def forbiddenInHost : List Char :=
  ['\x00', ' ', '#', '/', ':', '<', '>', '?', '@', '[', '\\', ']', '^', '|']

/-- Whether a character of a host is written percent-encoded. -/
def isEncodedInHost (c : Char) : Bool := c.toNat < 0x20 || 0x7F ≤ c.toNat

/-- A host in its settled form: an address in brackets in its shortest form, any other text as it
is, as long as it can be a host. -/
def host? (text : List Char) : Option (List Char) :=
  if text.head? = some '[' then
    if text.getLast? = some ']' then
      (IpAddress.version6? (text.drop 1).dropLast).map fun groups =>
        '[' :: IpAddress.version6Text groups ++ [']']
    else none
  else if text.any forbiddenInHost.contains then none
  else some (Percent.encode isEncodedInHost text)

/-- The greatest number of a port. -/
def maxPort : Nat := 65535

/-- The port that digits write. No digits write none. -/
def port? (digits : List Char) : Option (Option Nat) :=
  if !digits.all Char.isDigit then none
  else if digits.isEmpty then some none
  else if IpAddress.decimalValue digits ≤ maxPort then some (some (IpAddress.decimalValue digits))
  else none

/-- The host and the port of an authority without its credentials, and what follows them. A port
also ends at a backslash, which then begins the path. -/
def splitHost? (text : List Char) : Option (List Char × Option Nat × List Char) := do
  let hostText := hostEnd false (text.takeWhile (!endsAuthority ·))
  let host ← host? hostText
  match text.drop hostText.length with
  | ':' :: rest =>
    if host.isEmpty then none
    else
      let isEnd := fun c => endsAuthority c || c == '\\'
      let port ← port? (rest.takeWhile (!isEnd ·))
      some (host, port, rest.dropWhile (!isEnd ·))
  | rest => some (host, none, rest)

/-- Whether a segment stands for its own directory. Its dot may be percent-encoded. -/
def isSingleDot (segment : List Char) : Bool :=
  segment.map Char.toLower ∈ [".", "%2e"].map String.toList

/-- Whether a segment stands for the directory above. -/
def isDoubleDot (segment : List Char) : Bool :=
  segment.map Char.toLower ∈ ["..", ".%2e", "%2e.", "%2e%2e"].map String.toList

/-- Whether a segment names a drive, which no step upward leaves. -/
def isDrive : List Char → Bool
  | [letter, sign] => letter.isAlpha && (sign == ':' || sign == '|')
  | _ => false

/-- The segments above the last one, given last first. -/
def stepUp : List (List Char) → List (List Char)
  | [] => []
  | last :: above => if isDrive last then last :: above else above

/-- The segments of a path without dot segments. `done` is what has been settled, last first. A
dot segment at the end leaves an empty one. -/
def settle (done : List (List Char)) : List (List Char) → List (List Char)
  | [] => done.reverse
  | segment :: rest =>
    let left := if isDoubleDot segment then stepUp done else done
    if isDoubleDot segment || isSingleDot segment then
      settle (if rest.isEmpty then [] :: left else left) rest
    else settle (segment :: left) rest

/-- The segments of a written path. The slash in front may be missing behind a port. -/
def pathOf (text : List Char) : List (List Char) :=
  match text with
  | [] => []
  | '/' :: rest => settle [] (rest.splitOn '/')
  | _ => settle [] (text.splitOn '/')

/-- The parts of a URL, if the text is one that names a user and a server. -/
def ofText? (text : String) : Option ConnectionUrl := do
  let (scheme, rest) ← splitScheme? (clean text.toList)
  match rest with
  | '/' :: '/' :: rest =>
    let authority := rest.takeWhile (!endsAuthority ·)
    let (login, serverText) ← splitAtLast? '@' authority
    let (user, password) := credentials login
    let (host, port, rest) ← splitHost? (serverText ++ rest.drop authority.length)
    let beforeFragment := rest.takeWhile (· != '#')
    let path := pathOf (beforeFragment.takeWhile (· != '?'))
    let query := (beforeFragment.dropWhile (· != '?')).drop 1
    some { scheme, user, password, host, port, path, query }
  | _ => none

/-- What a written option stands for: a plus is a blank, and bytes that are not text are marked. -/
def decodeOption (text : List Char) : String :=
  let spaced := text.map fun c => if c == '+' then ' ' else c
  Utf8.textLossy (Percent.decodeBytes (Utf8.encode spaced))

/-- The options of a URL in order, each a name and a value. -/
def options (url : ConnectionUrl) : List (String × String) :=
  ((url.query.splitOn '&').filter (!·.isEmpty)).map fun pair =>
    let (name, value) := (splitAtFirst? (· == '=') pair).getD (pair, [])
    (decodeOption name, decodeOption value)

end ConnectionUrl

end WaitingList

import WaitingList.Text.Utf8

namespace WaitingList

/-- What a request is for. A fragment is no part of it. -/
structure Uri where
  scheme : Option String
  authority : Option String
  path : String
  query : Option String
  deriving DecidableEq, Repr

/-- Why a byte string is no request target. -/
inductive UriFault where
  | empty
  | tooLong
  | badCharacter
  | badAuthority
  | badForm
  | schemeTooLong
  deriving DecidableEq, Repr

namespace UriFault

def message : UriFault → String
  | empty => "empty string"
  | tooLong => "uri too long"
  | badCharacter => "invalid uri character"
  | badAuthority => "invalid authority"
  | badForm => "invalid format"
  | schemeTooLong => "scheme too long"

end UriFault

namespace Uri

/-- A target in writing. -/
def text (u : Uri) : String :=
  (u.scheme.map (· ++ "://")).getD "" ++ u.authority.getD "" ++ u.path
    ++ (u.query.map ("?" ++ ·)).getD ""

/-- The most bytes a target may have. -/
def maxLength : Nat := 65534

/-- The most bytes a scheme may have. -/
def maxSchemeLength : Nat := 64

def byte (c : Char) : UInt8 := UInt8.ofNat c.toNat

/-- Whether a byte is a letter or a digit. -/
def isAlphanumeric (b : UInt8) : Bool := b < 0x80 && (Char.ofNat b.toNat).isAlphanum

/-- Whether a byte can stand in a path. Quotes and braces should be encoded, yet are common. -/
def isPathByte (b : UInt8) : Bool :=
  b == 0x21 || b == 0x22 || (0x24 ≤ b && b ≤ 0x3B) || b == 0x3D || (0x40 ≤ b && b ≤ 0x5F)
    || (0x61 ≤ b && b ≤ 0x7E) || 0x80 ≤ b

/-- Whether a byte can stand in a query. -/
def isQueryByte (b : UInt8) : Bool :=
  b == 0x21 || (0x24 ≤ b && b ≤ 0x3B) || b == 0x3D || (0x3F ≤ b && b ≤ 0x7E) || 0x80 ≤ b

/-- Whether a byte can stand in a scheme. -/
def isSchemeByte (b : UInt8) : Bool := isAlphanumeric b || "+-.~".toList.any (byte · == b)

/-- Whether a byte can stand in an authority. -/
def isAuthorityByte (b : UInt8) : Bool :=
  isAlphanumeric b || "!$&'()*+,-.:;=@[]_~%".toList.any (byte · == b)

/-- Whether a byte ends an authority. -/
def endsAuthority (b : UInt8) : Bool := b == byte '/' || b == byte '?' || b == byte '#'

/-- What a reader of an authority has seen since the last `@` or closing bracket, and whether it
has seen an opening and a closing bracket at all. -/
structure AuthorityReader where
  colons : Nat
  hasPercent : Bool
  hasOpened : Bool
  hasClosed : Bool
  endsInAt : Bool

namespace AuthorityReader

/-- The reader before the first byte. -/
def start : AuthorityReader := ⟨0, false, false, false, false⟩

/-- The most colons that may follow each other without a bracket or an `@` between them. -/
def maxColons : Nat := 8

/-- The reader after one more byte. What stands before an `@` names a user, where colons and
percent signs are of no concern; the same holds between brackets. -/
def next (r : AuthorityReader) (b : UInt8) : Except UriFault AuthorityReader :=
  let r := { r with endsInAt := false }
  if !isAuthorityByte b then .error .badCharacter
  else if b == byte ':' then
    if r.colons ≥ maxColons then .error .badAuthority else .ok { r with colons := r.colons + 1 }
  else if b == byte '[' then
    if r.hasPercent || r.hasOpened then .error .badAuthority else .ok { r with hasOpened := true }
  else if b == byte ']' then
    if !r.hasOpened || r.hasClosed then .error .badAuthority
    else .ok { r with hasClosed := true, colons := 0, hasPercent := false }
  else if b == byte '@' then .ok { r with endsInAt := true, colons := 0, hasPercent := false }
  else if b == byte '%' then .ok { r with hasPercent := true }
  else .ok r

/-- Whether an authority may end here: brackets are closed, at most one colon is left for the
port, and a host follows the user. -/
def isComplete (r : AuthorityReader) : Bool :=
  r.hasOpened == r.hasClosed && r.colons ≤ 1 && !r.endsInAt && !r.hasPercent

end AuthorityReader

/-- The authority that a byte string begins with, and what follows it. -/
def splitAuthority (bytes : List UInt8) : Except UriFault (List UInt8 × List UInt8) := do
  if bytes.isEmpty then .error .empty
  let authority := bytes.takeWhile (!endsAuthority ·)
  let reader ← authority.foldlM AuthorityReader.next .start
  if !reader.isComplete then .error .badAuthority
  return (authority, bytes.drop authority.length)

/-- The scheme that a byte string begins with, and what follows `://`. Only the two schemes of the
web are brought to lower case. -/
def splitScheme (bytes : List UInt8) : Except UriFault (Option (List UInt8) × List UInt8) :=
  let word := bytes.takeWhile isSchemeByte
  let rest := bytes.drop word.length
  if rest.take 3 ≠ "://".toList.map byte then .ok (none, bytes)
  else
    let lower := word.map fun b => if 0x41 ≤ b && b ≤ 0x5A then b + 0x20 else b
    let isOfWeb := lower = "http".toList.map byte || lower = "https".toList.map byte
    if bytes.length ≤ 3 then .ok (none, bytes)
    else if word.length > maxSchemeLength then .error .schemeTooLong
    else .ok (some (if isOfWeb then lower else word), rest.drop 3)

/-- The text of bytes that have to be one. -/
def textOf (bytes : List UInt8) : Except UriFault String :=
  match Utf8.text? bytes with
  | some text => .ok text
  | none => .error .badCharacter

/-- The path and the query of a byte string, whatever follows a `#` left out. -/
def pathAndQuery (bytes : List UInt8) : Except UriFault (String × Option String) := do
  let bytes := bytes.takeWhile (· != byte '#')
  let path := bytes.takeWhile (· != byte '?')
  let rest := bytes.drop path.length
  if !path.all isPathByte || !(rest.drop 1).all isQueryByte then .error .badCharacter
  let query ← if rest.isEmpty then pure none else some <$> textOf (rest.drop 1)
  return (← textOf path, query)

/-- The target that is an authority and nothing else. `trailing` is the fault of further bytes. -/
def authorityOnly (trailing : UriFault) (bytes : List UInt8) : Except UriFault Uri := do
  let (authority, rest) ← splitAuthority bytes
  if !rest.isEmpty then .error trailing
  return ⟨none, some (← textOf authority), "", none⟩

/-- The target with a scheme. An authority has to follow, and a path that is left out is the
root. -/
def absolute (scheme bytes : List UInt8) : Except UriFault Uri := do
  let (authority, rest) ← splitAuthority bytes
  if authority.isEmpty then .error .badForm
  let (path, query) ← pathAndQuery rest
  return ⟨some (← textOf scheme), some (← textOf authority),
    if path.isEmpty then "/" else path, query⟩

/-- The target that a byte string writes. -/
def ofBytes (bytes : List UInt8) : Except UriFault Uri := do
  if bytes.length > maxLength then .error .tooLong
  match bytes with
  | [] => .error .empty
  | [b] =>
    if b == byte '/' then return ⟨none, none, "/", none⟩
    else if b == byte '*' then return ⟨none, none, "*", none⟩
    else authorityOnly .badCharacter [b]
  | b :: _ =>
    if b == byte '/' then
      let (path, query) ← pathAndQuery bytes
      return ⟨none, none, path, query⟩
    else
      match ← splitScheme bytes with
      | (none, _) => authorityOnly .badForm bytes
      | (some scheme, rest) => absolute scheme rest

end Uri

end WaitingList

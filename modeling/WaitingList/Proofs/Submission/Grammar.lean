import WaitingList.Submission.Reader

namespace WaitingList.Submission.Grammar

/-- Any number of blanks: spaces, tabs, and ends of lines. As in every relation here, the first byte
string begins with them, and the last one is what is left behind them. -/
inductive Blanks : List UInt8 → List UInt8 → Prop where
  | nil {t : List UInt8} : Blanks t t
  | cons {b : UInt8} {t r : List UInt8} (hblank : b ∈ [0x20, 0x09, 0x0A, 0x0D]) (h : Blanks t r) :
      Blanks (b :: t) r

/-- Any number of digits. -/
inductive Digits : List UInt8 → List UInt8 → Prop where
  | nil {t : List UInt8} : Digits t t
  | cons {b : UInt8} {t r : List UInt8} (hdigit : 0x30 ≤ b ∧ b ≤ 0x39) (h : Digits t r) :
      Digits (b :: t) r

/-- A digit, and any number of further ones. -/
inductive SomeDigits : List UInt8 → List UInt8 → Prop where
  | mk {b : UInt8} {t r : List UInt8} (hdigit : 0x30 ≤ b ∧ b ≤ 0x39) (h : Digits t r) :
      SomeDigits (b :: t) r

/-- The digits before the point, which begin with a zero only if it is the only one. -/
inductive Whole : List UInt8 → List UInt8 → Prop where
  | zero {r : List UInt8} : Whole (0x30 :: r) r
  | digits {b : UInt8} {t r : List UInt8} (hdigit : 0x31 ≤ b ∧ b ≤ 0x39) (h : Digits t r) :
      Whole (b :: t) r

/-- A point and the digits behind it, if there is a point. -/
inductive Fraction : List UInt8 → List UInt8 → Prop where
  | absent {t : List UInt8} : Fraction t t
  | digits {t r : List UInt8} (h : SomeDigits t r) : Fraction (0x2E :: t) r

/-- A power of ten with its letter and perhaps a sign, if there is one. -/
inductive Exponent : List UInt8 → List UInt8 → Prop where
  | absent {t : List UInt8} : Exponent t t
  | plain {m : UInt8} {t r : List UInt8} (hmark : m ∈ [0x45, 0x65]) (h : SomeDigits t r) :
      Exponent (m :: t) r
  | signed {m s : UInt8} {t r : List UInt8} (hmark : m ∈ [0x45, 0x65]) (hsign : s ∈ [0x2B, 0x2D])
      (h : SomeDigits t r) : Exponent (m :: s :: t) r

/-- A number without a sign. -/
inductive Magnitude : List UInt8 → List UInt8 → Prop where
  | mk {t u v r : List UInt8} (hwhole : Whole t u) (hfraction : Fraction u v)
      (hexponent : Exponent v r) : Magnitude t r

/-- A number. -/
inductive Number : List UInt8 → List UInt8 → Prop where
  | plain {t r : List UInt8} (h : Magnitude t r) : Number t r
  | negative {t r : List UInt8} (h : Magnitude t r) : Number (0x2D :: t) r

/-- A hexadecimal digit in either case, and its value. -/
inductive HexDigit : UInt8 → Nat → Prop where
  | decimal {b : UInt8} (hdigit : 0x30 ≤ b ∧ b ≤ 0x39) : HexDigit b (b.toNat - 0x30)
  | upper {b : UInt8} (hletter : 0x41 ≤ b ∧ b ≤ 0x46) : HexDigit b (b.toNat - 0x41 + 10)
  | lower {b : UInt8} (hletter : 0x61 ≤ b ∧ b ≤ 0x66) : HexDigit b (b.toNat - 0x61 + 10)

/-- Four hexadecimal digits, and the code that they give. -/
inductive Code : List UInt8 → Nat → List UInt8 → Prop where
  | mk {a b c d : UInt8} {v w x y : Nat} {r : List UInt8} (ha : HexDigit a v) (hb : HexDigit b w)
      (hc : HexDigit c x) (hd : HexDigit d y) :
      Code (a :: b :: c :: d :: r) (v * 0x1000 + w * 0x100 + x * 0x10 + y) r

/-- The letters of short escapes, and the characters that they stand for. -/
def shorts : List (UInt8 × Char) :=
  [(0x22, '"'), (0x5C, '\\'), (0x2F, '/'), (0x62, '\x08'), (0x66, '\x0C'), (0x6E, '\n'),
    (0x72, '\r'), (0x74, '\t')]

/-- The rest of a text behind its opening quote, with its closing quote and the characters that it
stands for. Characters that are not escaped are written in UTF-8. One that is escaped has its own
code or, beyond the codes, the codes of a pair. -/
inductive Chars : List UInt8 → List Char → List UInt8 → Prop where
  | close {r : List UInt8} : Chars (quote :: r) [] r
  | plain {c : Char} {t r : List UInt8} {cs : List Char} (hcontrol : 0x20 ≤ c.toNat)
      (hquote : c ≠ '"') (hbackslash : c ≠ '\\') (h : Chars t cs r) :
      Chars (String.utf8EncodeChar c ++ t) (c :: cs) r
  | short {b : UInt8} {c : Char} {t r : List UInt8} {cs : List Char} (hshort : (b, c) ∈ shorts)
      (h : Chars t cs r) : Chars (backslash :: b :: t) (c :: cs) r
  | code {c : Char} {t u r : List UInt8} {cs : List Char} (hcode : Code t c.toNat u)
      (h : Chars u cs r) : Chars (backslash :: codeLetter :: t) (c :: cs) r
  | pair {c : Char} {m n : Nat} {t u v r : List UInt8} {cs : List Char}
      (hfirst : Code t m (backslash :: codeLetter :: u)) (hhigh : 0xD800 ≤ m ∧ m ≤ 0xDBFF)
      (hsecond : Code u n v) (hlow : 0xDC00 ≤ n ∧ n ≤ 0xDFFF)
      (hpair : c.toNat = 0x10000 + (m - 0xD800) * 0x400 + (n - 0xDC00)) (h : Chars v cs r) :
      Chars (backslash :: codeLetter :: t) (c :: cs) r

/-- The rest of a text that nobody decodes. It need not be UTF-8, and its codes need not be those
of characters. -/
inductive Skipped : List UInt8 → List UInt8 → Prop where
  | close {r : List UInt8} : Skipped (quote :: r) r
  | plain {b : UInt8} {t r : List UInt8} (hcontrol : 0x20 ≤ b) (hquote : b ≠ quote)
      (hbackslash : b ≠ backslash) (h : Skipped t r) : Skipped (b :: t) r
  | short {b : UInt8} {c : Char} {t r : List UInt8} (hshort : (b, c) ∈ shorts)
      (h : Skipped t r) : Skipped (backslash :: b :: t) r
  | code {n : Nat} {t u r : List UInt8} (hcode : Code t n u) (h : Skipped u r) :
      Skipped (backslash :: codeLetter :: t) r

/-- What JSON is made of. An element is a value between blanks, a member is a name and an element,
and of elements and members there is at least one, with commas between. -/
inductive Part where
  | value
  | element
  | elements
  | member
  | members
  deriving DecidableEq, Repr

/-- JSON of any depth, with `text` for the rest of a text behind its opening quote. -/
inductive Json (text : List UInt8 → List UInt8 → Prop) : Part → List UInt8 → List UInt8 → Prop where
  | word {word : String} {r : List UInt8} (hword : word ∈ ["null", "true", "false"]) :
      Json text .value (Utf8.encode word.toList ++ r) r
  | number {t r : List UInt8} (h : Number t r) : Json text .value t r
  | text {t r : List UInt8} (h : text t r) : Json text .value (quote :: t) r
  | emptyList {t r : List UInt8} (h : Blanks t (0x5D :: r)) : Json text .value (0x5B :: t) r
  | list {t r : List UInt8} (h : Json text .elements t (0x5D :: r)) :
      Json text .value (0x5B :: t) r
  | emptyObject {t r : List UInt8} (h : Blanks t (0x7D :: r)) : Json text .value (0x7B :: t) r
  | object {t r : List UInt8} (h : Json text .members t (0x7D :: r)) :
      Json text .value (0x7B :: t) r
  | element {t u v r : List UInt8} (hbefore : Blanks t u) (h : Json text .value u v)
      (hafter : Blanks v r) : Json text .element t r
  | lastElement {t r : List UInt8} (h : Json text .element t r) : Json text .elements t r
  | elements {t u r : List UInt8} (h : Json text .element t (0x2C :: u))
      (hrest : Json text .elements u r) : Json text .elements t r
  | member {t u v w r : List UInt8} (hbefore : Blanks t (quote :: u)) (hname : text u v)
      (hafter : Blanks v (0x3A :: w)) (h : Json text .element w r) : Json text .member t r
  | lastMember {t r : List UInt8} (h : Json text .member t r) : Json text .members t r
  | members {t u r : List UInt8} (h : Json text .member t (0x2C :: u))
      (hrest : Json text .members u r) : Json text .members t r

/-- What stands where an address is needed: null, or a text that is decoded. -/
inductive Address : List UInt8 → Given → List UInt8 → Prop where
  | null {r : List UInt8} : Address (Utf8.encode "null".toList ++ r) none r
  | text {t r : List UInt8} {cs : List Char} (h : Chars t cs r) :
      Address (quote :: t) (some (String.ofList cs)) r

/-- A member of the submitted object, with the address that it gives if it is named `email`. Names
are compared as what they are decoded to. -/
inductive Member : List UInt8 → List Given → List UInt8 → Prop where
  | email {t u v w x y r : List UInt8} {given : Given} (hbefore : Blanks t (quote :: u))
      (hname : Chars u "email".toList v) (hafter : Blanks v (0x3A :: w)) (hblanks : Blanks w x)
      (haddress : Address x given y) (hend : Blanks y r) : Member t [given] r
  | other {t u v w r : List UInt8} {cs : List Char} (hbefore : Blanks t (quote :: u))
      (hname : Chars u cs v) (hother : cs ≠ "email".toList) (hafter : Blanks v (0x3A :: w))
      (h : Json Skipped .element w r) : Member t [] r

/-- The members of the submitted object, with the addresses that those named `email` give. -/
inductive Members : List UInt8 → List Given → List UInt8 → Prop where
  | last {t r : List UInt8} {given : List Given} (h : Member t given r) : Members t given r
  | more {t u r : List UInt8} {given rest : List Given} (h : Member t given (0x2C :: u))
      (hrest : Members u rest r) : Members t (given ++ rest) r

/-- A body that is an object, with the addresses that its members named `email` give. -/
inductive Object : List UInt8 → List Given → Prop where
  | empty {body t r : List UInt8} (hbefore : Blanks body (0x7B :: t)) (h : Blanks t (0x7D :: r))
      (hafter : Blanks r []) : Object body []
  | members {body t r : List UInt8} {given : List Given} (hbefore : Blanks body (0x7B :: t))
      (h : Members t given (0x7D :: r)) (hafter : Blanks r []) : Object body given

/-- A body that is a list of at most one address. -/
inductive Listed : List UInt8 → List Given → Prop where
  | empty {body t r : List UInt8} (hbefore : Blanks body (0x5B :: t)) (h : Blanks t (0x5D :: r))
      (hafter : Blanks r []) : Listed body []
  | one {body t u v r : List UInt8} {given : Given} (hbefore : Blanks body (0x5B :: t))
      (hblanks : Blanks t u) (haddress : Address u given v) (h : Blanks v (0x5D :: r))
      (hafter : Blanks r []) : Listed body [given]

end WaitingList.Submission.Grammar

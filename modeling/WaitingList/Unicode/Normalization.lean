import WaitingList.Unicode.NormalizationData

namespace WaitingList.Unicode

/-- The class by which a mark is ordered among the marks on one character, zero for all that is
not ordered. -/
def combiningClass (c : Char) : Nat :=
  ((NormalizationData.combiningClasses.get? c).bind List.head?).getD 0

/-- Hangul syllables are composed by arithmetic: 19 leading letters, 21 vowels, and 27 trailing
letters or none. -/
def decomposeHangul? (c : Char) : Option (List Char) :=
  let n := c.toNat
  if 0xAC00 ≤ n ∧ n ≤ 0xD7A3 then
    let place := n - 0xAC00
    let pair := [Char.ofNat (0x1100 + place / 588), Char.ofNat (0x1161 + place % 588 / 28)]
    some (if place % 28 = 0 then pair else pair ++ [Char.ofNat (0x11A7 + place % 28)])
  else none

/-- The parts of a character: one or two of a composed one, the letters of a Hangul syllable, and
else the character itself. No character of ASCII is composed. -/
def partsOf (c : Char) : List Char :=
  if c.toNat < 0x80 then [c]
  else
    match NormalizationData.decompositions.get? c with
    | some parts => parts.map Char.ofNat
    | none => (decomposeHangul? c).getD [c]

/-- The parts of a text, looking into the parts `depth` times. -/
def takeApart : Nat → List Char → List Char
  | 0, text => text
  | depth + 1, text => takeApart depth (text.flatMap partsOf)

/-- The base and marks of each character of a text. No composed character nests deeper than four
times. -/
def decompose (text : List Char) : List Char := takeApart 4 text

/-- A text that is written last character first, with one more character put behind the marks of
higher class that end it. -/
def insertMark (c : Char) : List Char → List Char
  | [] => [c]
  | d :: rest =>
    if combiningClass c ≠ 0 ∧ combiningClass c < combiningClass d then d :: insertMark c rest
    else c :: d :: rest

/-- A text with the marks on each character in the order of their classes. Marks of one class keep
their order. -/
def orderMarks (text : List Char) : List Char :=
  (text.foldl (fun done c => insertMark c done) []).reverse

/-- The Hangul syllable that two characters make. -/
def composeHangul? (a b : Char) : Option Char :=
  let m := a.toNat
  let n := b.toNat
  if 0x1100 ≤ m ∧ m ≤ 0x1112 ∧ 0x1161 ≤ n ∧ n ≤ 0x1175 then
    some (Char.ofNat (0xAC00 + ((m - 0x1100) * 21 + (n - 0x1161)) * 28))
  else if 0xAC00 ≤ m ∧ m ≤ 0xD7A3 ∧ (m - 0xAC00) % 28 = 0 ∧ 0x11A8 ≤ n ∧ n ≤ 0x11C2 then
    some (Char.ofNat (m + (n - 0x11A7)))
  else none

/-- Whether a character can be the base of a composed one. Of ASCII the letters can, and three
signs. -/
def isBase (c : Char) : Bool :=
  0x80 ≤ c.toNat || c.isAlpha || c == '<' || c == '=' || c == '>'

/-- The character that a base and a mark make, if there is one. No mark is of ASCII. -/
def compose? (a b : Char) : Option Char :=
  if !isBase a || b.toNat < 0x80 then none
  else
    (composeHangul? a b).or <|
      (NormalizationData.decompositions.entries.find? fun e =>
          e.image = [a.toNat, b.toNat]
            && !NormalizationData.compositionExclusions.contains (Char.ofNat e.low)).map
        fun e => Char.ofNat e.low

/-- The composed form of a text that begins with `base` and the marks `marks` (last first), none
of which could be joined to it. A character joins the base unless a mark of its own class or of a
higher one stands between them. -/
def composeFrom (base : Char) (marks : List Char) : List Char → List Char
  | [] => base :: marks.reverse
  | c :: rest =>
    let blocked := marks.head?.any fun mark => combiningClass c ≤ combiningClass mark
    match if blocked then none else compose? base c with
    | some whole => composeFrom whole marks rest
    | none =>
      if combiningClass c = 0 then base :: (marks.reverse ++ composeFrom c [] rest)
      else composeFrom base (c :: marks) rest

/-- The composed form of a text whose marks are in order. Marks that the text begins with have
nothing to join. -/
def compose : List Char → List Char
  | [] => []
  | c :: rest => if combiningClass c = 0 then composeFrom c [] rest else c :: compose rest

def normalize (text : List Char) : List Char := compose (orderMarks (decompose text))

end WaitingList.Unicode

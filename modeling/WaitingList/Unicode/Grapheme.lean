import WaitingList.Unicode.GraphemeData

namespace WaitingList.Unicode

/-- The kinds of character that the division tells apart. -/
inductive GraphemeKind where
  | carriageReturn
  | lineFeed
  | control
  /-- A mark that belongs to the character before it. -/
  | extending
  /-- A mark that ties a consonant to the one after it. -/
  | linker
  /-- The sign that keeps two letters from joining. It belongs to the character before it and ends
  a conjunct. -/
  | nonJoiner
  | joiner
  | spacing
  | prepended
  | regional
  | leadingJamo
  | vowelJamo
  | trailingJamo
  /-- A Hangul syllable that ends in its vowel. -/
  | openSyllable
  /-- A Hangul syllable that ends in a consonant. -/
  | closedSyllable
  | pictograph
  | consonant
  | other
  deriving DecidableEq, Repr

namespace GraphemeKind

def ofAscii (c : Char) : GraphemeKind :=
  if c = '\r' then carriageReturn
  else if c = '\n' then lineFeed
  else if c.toNat < 0x20 ∨ c.toNat = 0x7F then control
  else other

/-- The kind of a Hangul letter or syllable, if the character is one. -/
def ofHangul? (c : Char) : Option GraphemeKind :=
  let n := c.toNat
  if 0x1100 ≤ n ∧ n ≤ 0x115F ∨ 0xA960 ≤ n ∧ n ≤ 0xA97C then some leadingJamo
  else if 0x1160 ≤ n ∧ n ≤ 0x11A7 ∨ 0xD7B0 ≤ n ∧ n ≤ 0xD7C6 then some vowelJamo
  else if 0x11A8 ≤ n ∧ n ≤ 0x11FF ∨ 0xD7CB ≤ n ∧ n ≤ 0xD7FB then some trailingJamo
  else if 0xAC00 ≤ n ∧ n ≤ 0xD7A3 then
    some (if (n - 0xAC00) % 28 = 0 then openSyllable else closedSyllable)
  else none

/-- The kind of a character beyond ASCII, from the tables. -/
def ofTables (c : Char) : GraphemeKind :=
  if GraphemeData.conjunctLinkers.contains c then linker
  else if c = '\u200C' then nonJoiner
  else if c = '\u200D' then joiner
  else if GraphemeData.extending.contains c then extending
  else if GraphemeData.spacing.contains c then spacing
  else if GraphemeData.control.contains c then control
  else if GraphemeData.prepended.contains c then prepended
  else if 0x1F1E6 ≤ c.toNat ∧ c.toNat ≤ 0x1F1FF then regional
  else if GraphemeData.pictographs.contains c then pictograph
  else if GraphemeData.conjunctConsonants.contains c then consonant
  else other

def of (c : Char) : GraphemeKind :=
  if c.toNat < 0x80 then ofAscii c else (ofHangul? c).getD (ofTables c)

/-- Whether a kind belongs to whatever character stands before it. -/
def attaches : GraphemeKind → Bool
  | extending | linker | nonJoiner | joiner | spacing => true
  | _ => false

/-- Whether a kind stands apart from everything on both sides. -/
def standsApart : GraphemeKind → Bool
  | carriageReturn | lineFeed | control => true
  | _ => false

/-- Whether two kinds next to each other belong to one Hangul syllable. -/
def syllabic : GraphemeKind → GraphemeKind → Bool
  | leadingJamo, .leadingJamo | leadingJamo, .vowelJamo | leadingJamo, .openSyllable
  | leadingJamo, .closedSyllable => true
  | openSyllable, .vowelJamo | openSyllable, .trailingJamo => true
  | vowelJamo, .vowelJamo | vowelJamo, .trailingJamo => true
  | closedSyllable, .trailingJamo | trailingJamo, .trailingJamo => true
  | _, _ => false

end GraphemeKind

/-- How far a sequence that reaches over several characters has come. -/
inductive SequenceProgress where
  | absent
  /-- Its first member has been read, and only marks since. -/
  | begun
  /-- The next member may follow. -/
  | tied
  deriving DecidableEq, Repr

/-- What the characters so far leave to the decision at the next one. -/
structure GraphemeState where
  last : GraphemeKind
  /-- Whether the text ends in a regional indicator that has no partner yet. -/
  unpaired : Bool
  /-- Pictographs that joiners tie together. -/
  pictographs : SequenceProgress
  /-- Consonants that linkers tie together. -/
  conjunct : SequenceProgress

namespace GraphemeState

/-- How far a sequence of tied pictographs has come after one more character. -/
def nextPictographs (progress : SequenceProgress) : GraphemeKind → SequenceProgress
  | .pictograph => .begun
  | .extending | .linker | .nonJoiner => if progress = .begun then .begun else .absent
  | .joiner => if progress = .begun then .tied else .absent
  | _ => .absent

/-- How far a conjunct has come after one more character. -/
def nextConjunct (progress : SequenceProgress) : GraphemeKind → SequenceProgress
  | .consonant => .begun
  | .linker => if progress = .absent then .absent else .tied
  | .extending | .joiner => progress
  | _ => .absent

/-- The state after the first character of a text. -/
def start (kind : GraphemeKind) : GraphemeState :=
  ⟨kind, kind = .regional, nextPictographs .absent kind, nextConjunct .absent kind⟩

/-- The state after one more character. -/
def next (state : GraphemeState) (kind : GraphemeKind) : GraphemeState where
  last := kind
  unpaired := kind = .regional ∧ !state.unpaired
  pictographs := nextPictographs state.pictographs kind
  conjunct := nextConjunct state.conjunct kind

/-- Whether a character of the given kind continues the part that the text ends in. -/
def continuesWith (state : GraphemeState) (kind : GraphemeKind) : Bool :=
  if state.last = .carriageReturn ∧ kind = .lineFeed then true
  else if state.last.standsApart || kind.standsApart then false
  else
    kind.attaches || state.last = .prepended || state.last.syllabic kind
      || (kind = .regional ∧ state.unpaired)
      || (kind = .pictograph ∧ state.pictographs = .tied)
      || (kind = .consonant ∧ state.conjunct = .tied)

end GraphemeState

/-- How many further parts begin in a text that follows what `state` sums up. -/
def graphemeCountFrom (state : GraphemeState) : List Char → Nat
  | [] => 0
  | c :: rest =>
    let kind := GraphemeKind.of c
    (if state.continuesWith kind then 0 else 1) + graphemeCountFrom (state.next kind) rest

/-- The number of characters that a reader perceives in a text. -/
def graphemeCount : List Char → Nat
  | [] => 0
  | c :: rest => 1 + graphemeCountFrom (.start (GraphemeKind.of c)) rest

end WaitingList.Unicode

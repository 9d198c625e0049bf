import WaitingList.Unicode.DirectionData

namespace WaitingList.DomainName

open Unicode

/-- The writing direction of a character. -/
inductive Direction where
  | leftToRight
  | rightToLeft
  | arabicLetter
  | arabicNumber
  | europeanNumber
  | europeanSeparator
  | commonSeparator
  | europeanTerminator
  | otherNeutral
  | boundaryNeutral
  | nonspacingMark
  /-- Blanks, separators and direction controls, which no label may hold beside text that is
  written from right to left. -/
  | separator
  deriving DecidableEq, Repr

namespace Direction

/-- The direction of a character. -/
def of (c : Char) : Direction :=
  if DirectionData.rightToLeft.contains c then rightToLeft
  else if DirectionData.arabicLetter.contains c then arabicLetter
  else if DirectionData.arabicNumber.contains c then arabicNumber
  else if DirectionData.europeanNumber.contains c then europeanNumber
  else if DirectionData.europeanSeparator.contains c then europeanSeparator
  else if DirectionData.commonSeparator.contains c then commonSeparator
  else if DirectionData.europeanTerminator.contains c then europeanTerminator
  else if DirectionData.nonspacingMark.contains c then nonspacingMark
  else if DirectionData.boundaryNeutral.contains c then boundaryNeutral
  else if DirectionData.otherNeutral.contains c then otherNeutral
  else if DirectionData.separator.contains c then separator
  else leftToRight

/-- Whether a label that holds this direction makes its whole name one of mixed direction. -/
def runsRightToLeft : Direction → Bool
  | rightToLeft | arabicLetter | arabicNumber => true
  | _ => false

/-- What a label that begins with a letter from right to left may hold. -/
def allowedRightToLeft : Direction → Bool
  | leftToRight | separator => false
  | _ => true

/-- What a label that begins with a letter from left to right may hold. -/
def allowedLeftToRight : Direction → Bool
  | rightToLeft | arabicLetter | arabicNumber | separator => false
  | _ => true

end Direction

/-- The direction that a label ends in, marks disregarded. -/
def lastDirection? (directions : List Direction) : Option Direction :=
  (directions.filter (· != .nonspacingMark)).getLast?

/-- Whether the characters of a label fit one direction that its ends show. A label without
characters fits. -/
def hasOneDirection (label : List Char) : Bool :=
  let directions := label.map Direction.of
  match directions.head?, lastDirection? directions with
  | none, _ => true
  | some .rightToLeft, some last | some .arabicLetter, some last =>
    directions.all Direction.allowedRightToLeft
      && last ∈ [.rightToLeft, .arabicLetter, .europeanNumber, .arabicNumber]
      && !(.europeanNumber ∈ directions && .arabicNumber ∈ directions)
  | some .leftToRight, some last =>
    directions.all Direction.allowedLeftToRight && last ∈ [.leftToRight, .europeanNumber]
  | _, _ => false

/-- Whether the labels of a name fit together: as soon as one of them holds text from right to
left, each has to have one direction. -/
def directionsAgree (labels : List (List Char)) : Bool :=
  !labels.any (·.any fun c => (Direction.of c).runsRightToLeft) || labels.all hasOneDirection

end WaitingList.DomainName

import WaitingList.DomainName.Direction
import WaitingList.DomainName.Punycode
import WaitingList.Text.Blank
import WaitingList.Unicode.DomainNameData
import WaitingList.Unicode.JoiningData
import WaitingList.Unicode.Normalization

namespace WaitingList.DomainName

open Unicode

/-- Whether a blank may not appear in a domain name: it parts lines or paragraphs, or is drawn as a
stroke. -/
def isForbiddenBlank (c : Char) : Bool := c == '\u1680' || c == '\u2028' || c == '\u2029'

/-- What a character becomes in a domain name, or nothing if it may not appear. All of ASCII may
appear; its letters become lower case. A blank becomes a space, and a control character beyond ASCII
may not appear. -/
def mapChar? (c : Char) : Option (List Char) :=
  if c.toNat < 0x80 then some [c.toLower]
  else if c.toNat < 0xA0 || isForbiddenBlank c then none
  else if isBlankChar c then some [' ']
  else if DomainNameData.valid.contains c then some [c]
  else if DomainNameData.ignored.contains c then some []
  else (DomainNameData.mapped.get? c).map (·.map Char.ofNat)

/-- Whether a character may appear in a label as it is. -/
def isValidChar (c : Char) : Bool :=
  if c.toNat < 0x80 then !c.isUpper else DomainNameData.valid.contains c

/-- Whether text that ends in `before` (last first) ends in a letter that joins onward, with
nothing behind it that joining does not look through. -/
def joinsOnward (before : List Char) : Bool :=
  (before.dropWhile JoiningData.transparent.contains).head?.any fun c =>
    JoiningData.joiningLeft.contains c || JoiningData.joiningDual.contains c

/-- Whether text begins with a letter that joins backward, with nothing before it that joining
does not look through. -/
def joinsBackward (after : List Char) : Bool :=
  (after.dropWhile JoiningData.transparent.contains).head?.any fun c =>
    JoiningData.joiningRight.contains c || JoiningData.joiningDual.contains c

/-- Whether text that ends in `before` (last first) ends in a sign that strips a consonant of its
vowel. -/
def endsInVirama (before : List Char) : Bool := before.head?.any (combiningClass · == 9)

/-- Whether each joiner and non-joiner of a label stands where it changes how the label looks.
`before` is what has been seen, last first. -/
def joinersFit (before : List Char) : List Char → Bool
  | [] => true
  | c :: after =>
    (if c = '\u200D' then endsInVirama before
      else if c = '\u200C' then
        endsInVirama before || (joinsOnward before && joinsBackward after)
      else true)
      && joinersFit (c :: before) after

/-- Whether a label in its own script is well formed. -/
def isWellFormed (label : List Char) : Bool :=
  label.all isValidChar && normalize label == label
    && !label.head?.any JoiningData.marks.contains && joinersFit [] label

/-- What marks a label as one in Punycode. -/
def punycodeMark : List Char := ['x', 'n', '-', '-']

/-- The label in its own script, which a written label stands for. A label in Punycode has to need
it. -/
def readLabel? (label : List Char) : Option (List Char) :=
  if punycodeMark.isPrefixOf label then
    match Punycode.decode? (label.drop 4) with
    | some read => if read.all (·.toNat < 0x80) then none else some read
    | none => none
  else some label

def writeLabel (label : List Char) : List Char :=
  if label.all (·.toNat < 0x80) then label else punycodeMark ++ Punycode.encode label

/-- The labels of a name, each in its own script, once characters are written as domain names
write them. -/
def labels? (name : List Char) : Option (List (List Char)) := do
  let mapped ← name.mapM mapChar?
  ((normalize mapped.flatten).splitOn '.').mapM readLabel?

/-- The ASCII form of a name, if each of its labels is well formed. -/
def toAscii? (name : List Char) : Option (List Char) := do
  let labels ← labels? name
  if labels.all isWellFormed && directionsAgree labels then
    some (['.'].intercalate (labels.map writeLabel))
  else none

end WaitingList.DomainName

import WaitingList.DomainName.Ascii
import WaitingList.Net.IpAddress

namespace WaitingList.EmailSyntax

/-- Two signs beyond ASCII that count as letters because they fold to one: the long `s` and the
sign of the unit kelvin. -/
def foldsToLetter (c : Char) : Bool := c == '\u017F' || c == '\u212A'

/-- Letters and digits, in either case. -/
def isLetterOrDigit (c : Char) : Bool := c.isAlphanum || foldsToLetter c

/-- The signs that a local part may hold beside letters and digits. -/
def localSigns : List Char := ".!#$%&'*+/=?^_\x60\x7b|\x7d~-".toList

/-- The characters of a local part. -/
def isLocalChar (c : Char) : Bool := isLetterOrDigit c || localSigns.contains c

/-- Whether a text can be a local part, its length aside. -/
def isLocalPart (text : List Char) : Bool := !text.isEmpty && text.all isLocalChar

/-- Whether a text can be a label: at most 63 letters, digits and hyphens, without a hyphen at
either end. -/
def isLabel (label : List Char) : Bool :=
  !label.isEmpty && label.length ≤ 63 && label.all (fun c => isLetterOrDigit c || c == '-')
    && label.head? != some '-' && label.getLast? != some '-'

/-- Whether a text is a name of labels with dots between them. -/
def isHostName (text : List Char) : Bool := (text.splitOn '.').all isLabel

/-- What stands in the brackets that a text ends in, if it ends in a closing one. -/
def bracketed? (text : List Char) : Option (List Char) :=
  match text.reverse with
  | ']' :: rest =>
    if rest.contains '[' then some (rest.takeWhile (· != '[')).reverse else none
  | _ => none

/-- Whether a text ends in an address in brackets. -/
def endsInAddress (text : List Char) : Bool := (bracketed? text).any IpAddress.isAddress

/-- Whether a text is a domain without recourse to other scripts. -/
def isPlainDomain (text : List Char) : Bool := isHostName text || endsInAddress text

/-- Whether a text is a domain, if need be in its ASCII form. -/
def isDomain (text : List Char) : Bool :=
  isPlainDomain text || (DomainName.toAscii? text).any isPlainDomain

/-- What stands before and after the last `@`, if there is one. -/
def splitAtLastAt (text : List Char) : Option (List Char × List Char) :=
  if text.contains '@' then
    let domain := (text.reverse.takeWhile (· != '@')).reverse
    some (text.take (text.length - domain.length - 1), domain)
  else none

/-- The most characters a local part may have. -/
def maxLocalLength : Nat := 64

/-- The most characters a domain may have. -/
def maxDomainLength : Nat := 255

/-- Whether a text is a local part, an `@` and a domain. -/
def isAddress (text : List Char) : Bool :=
  match splitAtLastAt text with
  | none => false
  | some (localPart, domain) =>
    localPart.length ≤ maxLocalLength && domain.length ≤ maxDomainLength
      && isLocalPart localPart && isDomain domain

end WaitingList.EmailSyntax

import WaitingList.Email.Policy
import WaitingList.Email.Syntax
import WaitingList.Unicode.Grapheme

namespace WaitingList

/-- Why a text is refused as an address. -/
inductive EmailFault where
  | missing
  | invalid
  | tooLong
  deriving DecidableEq, Repr

namespace EmailFault

def message : EmailFault → String
  | missing => "email missing"
  | invalid => "email invalid"
  | tooLong => "email too long"

end EmailFault

/-- An address that some policy has accepted, as it was submitted. -/
structure EmailAddress where
  text : String
  deriving DecidableEq, Repr

namespace EmailAddress

/-- The most bytes an address may have, well below what an index of the store can hold. -/
def maxBytes : Nat := 320

/-- The most characters, as a reader perceives them, that a strictly checked address may have. -/
def maxGraphemes : Nat := 256

/-- The check under the minimal policy: the address holds an `@` and no NUL, and is not too long
for the store. -/
def parseMinimal (text : String) : Except EmailFault EmailAddress :=
  if text.isEmpty then .error .missing
  else if !text.toList.contains '@' || text.toList.contains '\x00' then .error .invalid
  else if text.utf8ByteSize > maxBytes then .error .tooLong
  else .ok ⟨text⟩

/-- The check under the strict policy: beyond the minimal check, a limit on the perceived length
and the syntax of an address. -/
def parseStrict (text : String) : Except EmailFault EmailAddress :=
  match parseMinimal text with
  | .error fault => .error fault
  | .ok address =>
    if Unicode.graphemeCount text.toList > maxGraphemes then .error .tooLong
    else if !EmailSyntax.isAddress text.toList then .error .invalid
    else .ok address

/-- The check under a policy. -/
def parse : EmailPolicy → String → Except EmailFault EmailAddress
  | .minimal => parseMinimal
  | .strict => parseStrict

end EmailAddress

end WaitingList

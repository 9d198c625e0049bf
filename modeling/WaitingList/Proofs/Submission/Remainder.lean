import WaitingList.Proofs.Submission.Ignored
import WaitingList.Proofs.Submission.Shape

namespace WaitingList.Submission

open Grammar

/-- The address that a value gives where an address is needed. -/
def Found.given? : Found → Option Given
  | null => some none
  | text s => some (some s)
  | _ => none

namespace Reader

/-- What a body comes to whose grammar is known: it submits something, or is of the wrong shape. -/
inductive Outcome where
  | gives (given : Given)
  | misfits

/-- The end of the body from where a bracket has to close it. -/
def Ends (closing : UInt8) (t : List UInt8) : Prop :=
  ∃ u, Blanks t (closing :: u) ∧ Blanks u []

/-- Members up to one whose name or value is of the wrong shape. -/
def Stops (seen : Seen) (t : List UInt8) : Prop :=
  ∃ found u v, Leading t found u ∧ Naming u v ∧
    (seen ≠ none ∨ found ≠ [] ∨ AfterName (fun w => ∃ x, Blanks w x ∧ Unfit .member x) v)

section

variable (outcome : Outcome)

/-- Members that give an address at most once in all, counting those seen before. -/
def Settles (seen : Seen) (further : List Given) : Prop :=
  (seen.toList ++ further).length ≤ 1 ∧ outcome = .gives (seen.toList ++ further).head?.join

/-- Further members of the submitted object. -/
def FurtherMembers (seen : Seen) (t : List UInt8) : Prop :=
  (∃ further u, Members t further (0x7D :: u) ∧ Blanks u [] ∧ Settles outcome seen further) ∨
    outcome = .misfits ∧ Stops seen t

/-- What follows a member of the submitted object. -/
def AfterMember (seen : Seen) (t : List UInt8) : Prop :=
  Ends 0x7D t ∧ outcome = .gives seen.join ∨ ∃ u, Blanks t (0x2C :: u) ∧
    FurtherMembers outcome seen u

/-- What follows an address in its place. -/
def AfterAddress (found : Given) : Place → List UInt8 → Prop
  | .whole, _ => outcome = .misfits
  | .element, t => Ends 0x5D t ∧ outcome = .gives found
  | .member, t => AfterMember outcome (some found) t

/-- What follows a value where an address is needed. -/
def AfterValue (value : Found) (place : Place) (t : List UInt8) : Prop :=
  match value.given? with
  | some found => AfterAddress outcome found place t
  | none => outcome = .misfits

/-- What stands where an address is needed. -/
def AtAddress (place : Place) (t : List UInt8) : Prop :=
  (∃ u found, Address t found u ∧ AfterAddress outcome found place u) ∨
    outcome = .misfits ∧ Unfit place t

def BeforeAddress (place : Place) (t : List UInt8) : Prop :=
  ∃ u, Blanks t u ∧ AtAddress outcome place u

/-- What follows the bracket that opens a list. -/
def InList (t : List UInt8) : Prop :=
  Ends 0x5D t ∧ outcome = .gives none ∨ BeforeAddress outcome .element t

/-- What follows the bracket that opens an object. -/
def InObject (t : List UInt8) : Prop :=
  Ends 0x7D t ∧ outcome = .gives none ∨ FurtherMembers outcome none t

/-- What the grammar lets follow in a state of the reader, for the body to come to an outcome. A byte
that is read takes what may follow behind it to what may follow before it. -/
def Remainder (t : List UInt8) : Reader → Prop
  | start => (∃ u, Blanks t (0x7B :: u) ∧ InObject outcome u) ∨
      (∃ u, Blanks t (0x5B :: u) ∧ InList outcome u) ∨ BeforeAddress outcome .whole t
  | word place next rest value => ∃ u, t = next :: (rest ++ u) ∧ AfterValue outcome value place u
  | number _ phase value => outcome = .misfits ∧ (value.overflows = false →
      ∃ last, phase.worth? value t = some last ∧ last.inRange = true)
  | text place state => ∃ text u, state.Reads t (Utf8.encode text) u ∧
      AfterValue outcome (.text (String.ofList text)) place u
  | name seen state => ∃ text u, state.Reads t (Utf8.encode text) u ∧
      if text = "email".toList then
        seen = none ∧ AfterName (BeforeAddress outcome .member) u ∨
          seen ≠ none ∧ outcome = .misfits
      else AfterName (BeforeIgnored (AfterMember outcome seen) []) u
  | listOpened => InList outcome t
  | element found => AfterAddress outcome found .element t
  | elementComma => False
  | objectOpened => InObject outcome t
  | colon isEmail seen => AfterName (if isEmail then BeforeAddress outcome .member
      else BeforeIgnored (AfterMember outcome seen) []) t
  | repeated => outcome = .misfits
  | email => BeforeAddress outcome .member t
  | ignored inner frames seen => IgnoredRemainder (AfterMember outcome seen) frames t inner
  | member seen => AfterMember outcome seen t
  | memberComma seen => FurtherMembers outcome seen t
  | done found => Blanks t [] ∧ outcome = .gives found

end

-- A blank in front changes nothing where blanks may stand.

section

variable {b : UInt8} {t r : List UInt8} {outcome : Outcome} {seen : Seen}

theorem Ends.blank {closing : UInt8} (hblank : isBlank b = true) (h : Ends closing t) :
    Ends closing (b :: t) := by
  obtain ⟨u, hclosing, hend⟩ := h
  exact ⟨u, .skip hblank hclosing, hend⟩

private theorem member_blank {found : List Given} (hblank : isBlank b = true)
    (h : Member t found r) : Member (b :: t) found r := by
  cases h with
  | email hbefore hname hafter hblanks haddress hend =>
    exact .email (.skip hblank hbefore) hname hafter hblanks haddress hend
  | other hbefore hname hother hafter h =>
    exact .other (.skip hblank hbefore) hname hother hafter h

private theorem stops_blank (hblank : isBlank b = true) (h : Stops seen t) :
    Stops seen (b :: t) := by
  obtain ⟨found, u, v, hleading, hnaming, hstop⟩ := h
  cases hleading with
  | nil =>
    obtain ⟨hbefore, hname⟩ := hnaming
    exact ⟨[], b :: t, v, .nil, ⟨.skip hblank hbefore, hname⟩, hstop⟩
  | cons h hrest => exact ⟨_, u, v, .cons (member_blank hblank h) hrest, hnaming, hstop⟩

theorem FurtherMembers.blank (hblank : isBlank b = true) (h : FurtherMembers outcome seen t) :
    FurtherMembers outcome seen (b :: t) := by
  rcases h with ⟨further, u, hmembers, hend⟩ | ⟨rfl, hstops⟩
  · refine .inl ⟨further, u, ?_, hend⟩
    cases hmembers with
    | last h => exact .last (member_blank hblank h)
    | more h hrest => exact .more (member_blank hblank h) hrest
  · exact .inr ⟨rfl, stops_blank hblank hstops⟩

theorem AfterMember.blank (hblank : isBlank b = true) (h : AfterMember outcome seen t) :
    AfterMember outcome seen (b :: t) := by
  rcases h with ⟨hends, hgiven⟩ | ⟨u, hcomma, hfurther⟩
  · exact .inl ⟨hends.blank hblank, hgiven⟩
  · exact .inr ⟨u, .skip hblank hcomma, hfurther⟩

theorem BeforeAddress.blank {place : Place} (hblank : isBlank b = true)
    (h : BeforeAddress outcome place t) : BeforeAddress outcome place (b :: t) := by
  obtain ⟨u, hblanks, hat⟩ := h
  exact ⟨u, .skip hblank hblanks, hat⟩

theorem InList.blank (hblank : isBlank b = true) (h : InList outcome t) :
    InList outcome (b :: t) := by
  rcases h with ⟨hends, hgiven⟩ | hbefore
  · exact .inl ⟨hends.blank hblank, hgiven⟩
  · exact .inr (hbefore.blank hblank)

theorem InObject.blank (hblank : isBlank b = true) (h : InObject outcome t) :
    InObject outcome (b :: t) := by
  rcases h with ⟨hends, hgiven⟩ | hfurther
  · exact .inl ⟨hends.blank hblank, hgiven⟩
  · exact .inr (hfurther.blank hblank)

end

end Reader

end WaitingList.Submission

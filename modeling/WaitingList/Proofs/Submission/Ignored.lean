import WaitingList.Proofs.Submission.Number
import WaitingList.Proofs.Submission.Run
import WaitingList.Proofs.Submission.Text

namespace WaitingList.Submission

open Grammar

/-- The bracket that ends what encloses a value. -/
def Frame.closing : Frame → UInt8
  | list => 0x5D
  | object => 0x7D

/-- What stands between the brackets. -/
def Frame.parts : Frame → Part
  | list => .elements
  | object => .members

/-- What follows a value up to the end of what encloses it. -/
def Frame.Rest (frame : Frame) (t r : List UInt8) : Prop :=
  Blanks t (frame.closing :: r) ∨
    ∃ u, Blanks t (0x2C :: u) ∧ Json Skipped frame.parts u (frame.closing :: r)

section

variable {t u v w x y r : List UInt8}

private theorem elements_of_rest (hblanks : Blanks t u) (hvalue : Json Skipped .value u v)
    (hrest : Frame.list.Rest v r) : Json Skipped .elements t (0x5D :: r) := by
  rcases hrest with hclosing | ⟨w, hcomma, hmore⟩
  · exact .lastElement (.element hblanks hvalue hclosing)
  · exact .elements (.element hblanks hvalue hcomma) hmore

private theorem members_of_rest (hbefore : Blanks t (quote :: u)) (hname : Skipped u v)
    (hafter : Blanks v (0x3A :: w)) (hblanks : Blanks w x) (hvalue : Json Skipped .value x y)
    (hrest : Frame.object.Rest y r) : Json Skipped .members t (0x7D :: r) := by
  rcases hrest with hclosing | ⟨w, hcomma, hmore⟩
  · exact .lastMember (.member hbefore hname hafter (.element hblanks hvalue hclosing))
  · exact .members (.member hbefore hname hafter (.element hblanks hvalue hcomma)) hmore

end

namespace Reader

/-- What follows a name, the value first that it names. -/
def AfterName (named : List UInt8 → Prop) (t : List UInt8) : Prop :=
  ∃ u, Blanks t (0x3A :: u) ∧ named u

section

-- What may follow the member that the ignored value belongs to.
variable (after : List UInt8 → Prop)

/-- What follows an ignored value inside frames. -/
def AfterIgnored : List Frame → List UInt8 → Prop
  | [], t => after t
  | frame :: outer, t => ∃ u, frame.Rest t u ∧ AfterIgnored outer u

/-- An ignored value inside frames, and what follows it. -/
def BeforeIgnored (frames : List Frame) (t : List UInt8) : Prop :=
  ∃ u v, Blanks t u ∧ Json Skipped .value u v ∧ AfterIgnored after frames v

/-- What the grammar lets follow inside an ignored value. -/
def IgnoredRemainder (frames : List Frame) (t : List UInt8) : Ignored → Prop
  | .value => BeforeIgnored after frames t
  | .opened =>
    match frames with
    | [] => BeforeIgnored after [] t
    | frame :: outer => ∃ u, (Blanks t (frame.closing :: u) ∨
        Json Skipped frame.parts t (frame.closing :: u)) ∧ AfterIgnored after outer u
  | .text isName phase => ∃ u, phase.Closes t u ∧
      if isName then AfterName (BeforeIgnored after frames) u else AfterIgnored after frames u
  | .number phase => ∃ u, phase.Ends t u ∧ AfterIgnored after frames u
  | .word next rest => ∃ u, t = next :: (rest ++ u) ∧ AfterIgnored after frames u
  | .after => AfterIgnored after frames t
  | .name => ∃ u v, Blanks t (quote :: u) ∧ Skipped u v ∧
      AfterName (BeforeIgnored after frames) v
  | .colon => AfterName (BeforeIgnored after frames) t

end

-- A blank in front changes nothing where blanks may stand.

section

variable {after : List UInt8 → Prop} {frames : List Frame} {b : UInt8} {t r : List UInt8}

theorem AfterIgnored.blank (hafter : ∀ t, after t → after (b :: t)) (hblank : isBlank b = true)
    (h : AfterIgnored after frames t) : AfterIgnored after frames (b :: t) := by
  cases frames with
  | nil => exact hafter t h
  | cons frame outer =>
    obtain ⟨u, hrest, houter⟩ := h
    refine ⟨u, ?_, houter⟩
    rcases hrest with hclosing | ⟨v, hcomma, hparts⟩
    · exact .inl (.skip hblank hclosing)
    · exact .inr ⟨v, .skip hblank hcomma, hparts⟩

theorem BeforeIgnored.blank (hblank : isBlank b = true) (h : BeforeIgnored after frames t) :
    BeforeIgnored after frames (b :: t) := by
  obtain ⟨u, v, hblanks, hrest⟩ := h
  exact ⟨u, v, .skip hblank hblanks, hrest⟩

theorem AfterName.blank {named : List UInt8 → Prop} (hblank : isBlank b = true)
    (h : AfterName named t) : AfterName named (b :: t) := by
  obtain ⟨u, hcolon, hnamed⟩ := h
  exact ⟨u, .skip hblank hcolon, hnamed⟩

private theorem parts_blank {text : List UInt8 → List UInt8 → Prop} {part : Part}
    (hblank : isBlank b = true) (hpart : part ≠ .value) (h : Json text part t r) :
    Json text part (b :: t) r := by
  induction h with
  | element hbefore h hafter => exact .element (.skip hblank hbefore) h hafter
  | member hbefore hname hafter h => exact .member (.skip hblank hbefore) hname hafter h
  | lastElement _ ih => exact .lastElement (ih (by decide))
  | lastMember _ ih => exact .lastMember (ih (by decide))
  | elements _ hrest ih => exact .elements (ih (by decide)) hrest
  | members _ hrest ih => exact .members (ih (by decide)) hrest
  | _ => exact absurd rfl hpart

private theorem opened_blank (hblank : isBlank b = true)
    (h : IgnoredRemainder after frames t .opened) :
    IgnoredRemainder after frames (b :: t) .opened := by
  cases frames with
  | nil => exact BeforeIgnored.blank hblank h
  | cons frame outer =>
    obtain ⟨u, hclosing | hparts, hafter⟩ := h
    · exact ⟨u, .inl (.skip hblank hclosing), hafter⟩
    · exact ⟨u, .inr (parts_blank hblank (by cases frame <;> decide) hparts), hafter⟩

end

section

variable {next reader : Reader} {other : Except Stop Reader} {b : UInt8}

theorem ok_of_ite {c : Prop} [Decidable c] (h : (if c then .ok reader else other) = .ok next) :
    c ∧ next = reader ∨ ¬ c ∧ other = .ok next := by
  by_cases hc : c
  · rw [if_pos hc] at h
    exact .inl ⟨hc, (Except.ok.inj h).symm⟩
  · rw [if_neg hc] at h
    exact .inr ⟨hc, h⟩

theorem ok_of_beq {c : UInt8} (h : (if b == c then .ok reader else other) = .ok next) :
    b = c ∧ next = reader ∨ b ≠ c ∧ other = .ok next := by
  rcases ok_of_ite h with ⟨hc, hnext⟩ | ⟨hc, hother⟩
  · exact .inl ⟨eq_of_beq hc, hnext⟩
  · exact .inr ⟨by simpa using hc, hother⟩

/-- A word of JSON is its first letter and the letters that `word?` tells. -/
theorem word_cases {first : UInt8} {rest : List UInt8} {value : Found}
    (hword : word? b = some (first, rest, value)) :
    ∃ word, Utf8.encode word.toList = b :: first :: rest ∧
      (word = "null" ∧ value = .null ∨ word = "true" ∧ value = .boolean true ∨
        word = "false" ∧ value = .boolean false) := by
  unfold word? at hword
  split at hword
  next hletter =>
    cases hword
    exact ⟨"null", by rw [eq_of_beq hletter]; decide, .inl ⟨rfl, rfl⟩⟩
  split at hword
  next hletter =>
    cases hword
    exact ⟨"true", by rw [eq_of_beq hletter]; decide, .inr (.inl ⟨rfl, rfl⟩)⟩
  split at hword
  next hletter =>
    cases hword
    exact ⟨"false", by rw [eq_of_beq hletter]; decide, .inr (.inr ⟨rfl, rfl⟩)⟩
  next => cases hword

end

/-- What may follow in each state, if inside an ignored value it is what completes the value and
may follow its member. -/
structure Enclosing (Rem : Reader → List UInt8 → Prop) : Prop where
  ignored : ∀ {inner frames seen t}, Rem (ignored inner frames seen) t →
    IgnoredRemainder (Rem (member seen)) frames t inner
  blank : ∀ {seen b t}, isBlank b = true → Rem (member seen) t → Rem (member seen) (b :: t)
  stepMember : ∀ {seen b t next}, stepMember seen b = .ok next → Rem next t →
    Rem (member seen) (b :: t)

namespace Enclosing

variable {Rem : Reader → List UInt8 → Prop} (hrem : Enclosing Rem) {seen : Seen}
  {frames : List Frame} {b : UInt8} {t : List UInt8} {next : Reader}

include hrem

private theorem afterIgnored (h : Rem (Reader.afterIgnored frames seen) t) :
    AfterIgnored (Rem (member seen)) frames t := by
  cases frames with
  | nil => exact h
  | cons frame outer => exact hrem.ignored h

private theorem json_of_beginIgnored (hstep : beginIgnored frames seen b = .ok next)
    (h : Rem next t) :
    ∃ u, Json Skipped .value (b :: t) u ∧ AfterIgnored (Rem (member seen)) frames u := by
  unfold beginIgnored at hstep
  split at hstep
  next first rest value hword =>
    obtain rfl := Except.ok.inj hstep
    obtain ⟨u, rfl, hafter⟩ := hrem.ignored h
    obtain ⟨word, hbytes, hcases⟩ := word_cases hword
    have hmem : word ∈ ["null", "true", "false"] := by
      rcases hcases with ⟨rfl, _⟩ | ⟨rfl, _⟩ | ⟨rfl, _⟩ <;> simp
    refine ⟨u, ?_, hafter⟩
    have hvalue : Json Skipped .value (Utf8.encode word.toList ++ u) u := .word hmem
    rw [hbytes] at hvalue
    exact hvalue
  next phase _ hfirst =>
    obtain rfl := Except.ok.inj hstep
    obtain ⟨u, hends, hafter⟩ := hrem.ignored h
    exact ⟨u, .number (NumberPhase.number_iff.mpr ⟨b, t, phase, rfl, hfirst, hends⟩), hafter⟩
  next =>
    rcases ok_of_beq hstep with ⟨rfl, rfl⟩ | ⟨_, hstep⟩
    · obtain ⟨u, hcloses, hafter⟩ := hrem.ignored h
      exact ⟨u, .text (IgnoredPhase.closes_plain_iff.mp hcloses), hafter⟩
    rcases ok_of_beq hstep with ⟨rfl, rfl⟩ | ⟨_, hstep⟩
    · obtain ⟨u, hclosing | helements, hafter⟩ := hrem.ignored h
      · exact ⟨u, .emptyList hclosing, hafter⟩
      · exact ⟨u, .list helements, hafter⟩
    rcases ok_of_beq hstep with ⟨rfl, rfl⟩ | ⟨_, hstep⟩
    · obtain ⟨u, hclosing | hmembers, hafter⟩ := hrem.ignored h
      · exact ⟨u, .emptyObject hclosing, hafter⟩
      · exact ⟨u, .object hmembers, hafter⟩
    · cases hstep

private theorem afterIgnored_of_stepAfter (hstep : stepAfter frames seen b = .ok next)
    (h : Rem next t) : AfterIgnored (Rem (member seen)) frames (b :: t) := by
  unfold stepAfter at hstep
  split at hstep
  · exact hrem.stepMember hstep h
  · rcases ok_of_beq hstep with ⟨rfl, rfl⟩ | ⟨_, hstep⟩
    · obtain ⟨u, v, hblanks, hvalue, w, hrest, hafter⟩ := hrem.ignored h
      exact ⟨w, .inr ⟨t, .nil, elements_of_rest hblanks hvalue hrest⟩, hafter⟩
    rcases ok_of_beq hstep with ⟨rfl, rfl⟩ | ⟨_, hstep⟩
    · exact ⟨t, .inl .nil, hrem.afterIgnored h⟩
    · cases hstep
  · rcases ok_of_beq hstep with ⟨rfl, rfl⟩ | ⟨_, hstep⟩
    · obtain ⟨u, v, hbefore, hname, w, hcolon, x, y, hblanks, hvalue, z, hrest, hafter⟩ :=
        hrem.ignored h
      exact ⟨z, .inr ⟨t, .nil, members_of_rest hbefore hname hcolon hblanks hvalue hrest⟩, hafter⟩
    rcases ok_of_beq hstep with ⟨rfl, rfl⟩ | ⟨_, hstep⟩
    · exact ⟨t, .inl .nil, hrem.afterIgnored h⟩
    · cases hstep

private theorem name_of_stepIgnoredName (hstep : stepIgnoredName frames seen b = .ok next)
    (h : Rem next t) : IgnoredRemainder (Rem (member seen)) frames (b :: t) .name := by
  unfold stepIgnoredName at hstep
  rcases ok_of_beq hstep with ⟨rfl, rfl⟩ | ⟨_, hstep⟩
  · obtain ⟨u, hcloses, hafter⟩ := hrem.ignored h
    exact ⟨t, u, .nil, IgnoredPhase.closes_plain_iff.mp hcloses, hafter⟩
  · cases hstep

private theorem opened_of_stepOpened (hstep : stepOpened frames seen b = .ok next)
    (h : Rem next t) : IgnoredRemainder (Rem (member seen)) frames (b :: t) .opened := by
  unfold stepOpened at hstep
  split at hstep
  · rcases ok_of_beq hstep with ⟨rfl, rfl⟩ | ⟨_, hstep⟩
    · exact ⟨t, .inl .nil, hrem.afterIgnored h⟩
    · obtain ⟨u, v, hbefore, hname, w, hcolon, x, y, hblanks, hvalue, z, hrest, hafter⟩ :=
        hrem.name_of_stepIgnoredName hstep h
      exact ⟨z, .inr (members_of_rest hbefore hname hcolon hblanks hvalue hrest), hafter⟩
  · rcases ok_of_beq hstep with ⟨rfl, rfl⟩ | ⟨_, hstep⟩
    · exact ⟨t, .inl .nil, hrem.afterIgnored h⟩
    · obtain ⟨u, hvalue, v, hrest, hafter⟩ := hrem.json_of_beginIgnored hstep h
      exact ⟨v, .inr (elements_of_rest .nil hvalue hrest), hafter⟩
  · obtain ⟨u, hvalue, hafter⟩ := hrem.json_of_beginIgnored hstep h
    exact ⟨_, u, .nil, hvalue, hafter⟩

/-- What may follow behind a byte of an ignored value may follow before it, if the byte is read. -/
theorem remainder_of_stepIgnored {inner : Ignored}
    (hstep : stepIgnored inner frames seen b = .ok next) (h : Rem next t) :
    IgnoredRemainder (Rem (member seen)) frames (b :: t) inner := by
  unfold stepIgnored at hstep
  cases inner with
  | value =>
    rcases ok_of_ite hstep with ⟨hblank, rfl⟩ | ⟨_, hstep⟩
    · exact BeforeIgnored.blank hblank (hrem.ignored h)
    · obtain ⟨u, hvalue, hafter⟩ := hrem.json_of_beginIgnored hstep h
      exact ⟨_, u, .nil, hvalue, hafter⟩
  | opened =>
    rcases ok_of_ite hstep with ⟨hblank, rfl⟩ | ⟨_, hstep⟩
    · exact opened_blank hblank (hrem.ignored h)
    · exact hrem.opened_of_stepOpened hstep h
  | text isName phase =>
    dsimp only at hstep
    split at hstep
    next hnext =>
      obtain rfl := Except.ok.inj hstep
      obtain ⟨u, hcloses, hafter⟩ := hrem.ignored h
      exact ⟨u, .more hnext hcloses, hafter⟩
    next hnext =>
      obtain rfl := Except.ok.inj hstep
      refine ⟨t, .closed hnext, ?_⟩
      cases isName with
      | true => exact hrem.ignored h
      | false => exact hrem.afterIgnored h
    · cases hstep
    · cases hstep
  | number phase =>
    dsimp only at hstep
    split at hstep
    next hnext =>
      obtain rfl := Except.ok.inj hstep
      obtain ⟨u, hends, hafter⟩ := hrem.ignored h
      exact ⟨u, .more hnext hends, hafter⟩
    next hnext =>
      -- The byte that ends the number is not part of it and is read again.
      refine ⟨b :: t, .ended (NumberPhase.isComplete_of_ended hnext), ?_⟩
      rcases ok_of_ite hstep with ⟨hblank, rfl⟩ | ⟨_, hstep⟩
      · exact (hrem.afterIgnored h).blank (fun _ => hrem.blank hblank) hblank
      · exact hrem.afterIgnored_of_stepAfter hstep h
    · cases hstep
  | word first rest =>
    dsimp only at hstep
    split at hstep
    · cases hstep
    next hletter =>
      obtain rfl : b = first := by simpa using hletter
      split at hstep
      · obtain rfl := Except.ok.inj hstep
        exact ⟨t, rfl, hrem.afterIgnored h⟩
      · obtain rfl := Except.ok.inj hstep
        obtain ⟨u, rfl, hafter⟩ := hrem.ignored h
        exact ⟨u, rfl, hafter⟩
  | after =>
    rcases ok_of_ite hstep with ⟨hblank, rfl⟩ | ⟨_, hstep⟩
    · exact AfterIgnored.blank (fun _ => hrem.blank hblank) hblank (hrem.ignored h)
    · exact hrem.afterIgnored_of_stepAfter hstep h
  | name =>
    rcases ok_of_ite hstep with ⟨hblank, rfl⟩ | ⟨_, hstep⟩
    · obtain ⟨u, v, hbefore, hrest⟩ := hrem.ignored h
      exact ⟨u, v, .skip hblank hbefore, hrest⟩
    · exact hrem.name_of_stepIgnoredName hstep h
  | colon =>
    rcases ok_of_ite hstep with ⟨hblank, rfl⟩ | ⟨_, hstep⟩
    · exact AfterName.blank hblank (hrem.ignored h)
    rcases ok_of_beq hstep with ⟨rfl, rfl⟩ | ⟨_, hstep⟩
    · exact ⟨t, .nil, hrem.ignored h⟩
    · cases hstep

end Enclosing

end Reader

end WaitingList.Submission

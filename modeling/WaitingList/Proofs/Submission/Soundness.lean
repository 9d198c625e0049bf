import WaitingList.Proofs.Submission.Remainder

namespace WaitingList.Submission

open Grammar

namespace Reader

section

variable {outcome : Outcome} {given : Given} {seen : Seen} {frames outer : List Frame} {b : UInt8}
  {t u v r : List UInt8} {reader next : Reader}

/-- A member and what follows it are further members, in view of the addresses that it gives. -/
private theorem furtherMembers_of_member {seen' : Seen} {found : List Given}
    (hmember : ∀ r, Blanks v r → Member t found r)
    (hseen : seen'.toList = seen.toList ++ found) (h : AfterMember outcome seen' v) :
    FurtherMembers outcome seen t := by
  rcases h with ⟨⟨u, hclosing, hend⟩, rfl⟩ | ⟨u, hcomma, hmembers | ⟨rfl, hstops⟩⟩
  · refine .inl ⟨found, u, .last (hmember _ hclosing), hend, ?_⟩
    rw [Settles, ← hseen]
    cases seen' <;> simp
  · obtain ⟨further, w, hfurther, hend, hsettles⟩ := hmembers
    refine .inl ⟨found ++ further, w, .more (hmember _ hcomma) hfurther, hend, ?_⟩
    rw [Settles, ← List.append_assoc, ← hseen]
    exact hsettles
  · obtain ⟨further, w, x, hleading, hnaming, hstop⟩ := hstops
    refine .inr ⟨rfl, found ++ further, w, x, .cons (hmember _ hcomma) hleading, hnaming, ?_⟩
    rcases hstop with hgiven | hgiven | hunfit
    · -- What was seen behind the member was seen before it, or is what the member gives.
      cases seen with
      | some before => exact .inl (by simp)
      | none =>
        have hfound : found ≠ [] := by
          rintro rfl
          cases seen' <;> simp_all
        exact .inr (.inl (by simp [hfound]))
    · exact .inr (.inl (by simp [hgiven]))
    · exact .inr (.inr hunfit)

/-- The name of a member of the submitted object begins further members if what follows it does. -/
private theorem furtherMembers_of_name {text : List Char} (hbefore : Blanks t (quote :: u))
    (hname : Chars u text v)
    (h : if text = "email".toList then
        seen = none ∧ AfterName (BeforeAddress outcome .member) v ∨
          seen ≠ none ∧ outcome = .misfits
      else AfterName (BeforeIgnored (AfterMember outcome seen) []) v) :
    FurtherMembers outcome seen t := by
  split at h
  next hemail =>
    subst hemail
    rcases h with ⟨rfl, w, hcolon, x, hblanks, haddress | ⟨rfl, hunfit⟩⟩ | ⟨hseen, rfl⟩
    · obtain ⟨y, found, haddress, hafter⟩ := haddress
      exact furtherMembers_of_member
        (fun r hend => .email hbefore hname hcolon hblanks haddress hend) rfl hafter
    · refine .inr ⟨rfl, [], t, v, .nil, ⟨hbefore, hname⟩, ?_⟩
      exact .inr (.inr ⟨w, hcolon, x, hblanks, hunfit⟩)
    · exact .inr ⟨rfl, [], t, v, .nil, ⟨hbefore, hname⟩, .inl hseen⟩
  next hother =>
    obtain ⟨w, hcolon, x, y, hblanks, hvalue, hafter⟩ := h
    refine furtherMembers_of_member
      (fun r hend => .other hbefore hname hother hcolon (.element hblanks hvalue hend)) ?_ hafter
    rw [List.append_nil]

private theorem afterValue_of_conclude {place : Place} {value : Found}
    (hconclude : conclude place value = .ok next) (h : next.Remainder outcome t) :
    AfterValue outcome value place t := by
  unfold conclude at hconclude
  split at hconclude
  · cases hconclude
  next hplace =>
    obtain rfl := Except.ok.inj hconclude
    cases place with
    | whole => exact absurd rfl hplace
    | element => exact h
    | member => exact h
  next s hplace =>
    obtain rfl := Except.ok.inj hconclude
    cases place with
    | whole => exact absurd rfl hplace
    | element => exact h
    | member => exact h
  next => cases hconclude

private theorem atAddress_of_begin {place : Place} (hbegin : begin place b = .ok next)
    (h : next.Remainder outcome t) : AtAddress outcome place (b :: t) := by
  unfold begin at hbegin
  split at hbegin
  next first rest value hword =>
    obtain rfl := Except.ok.inj hbegin
    obtain ⟨u, rfl, hafter⟩ := h
    obtain ⟨word, hbytes, hcases⟩ := word_cases hword
    have hunfit (hmem : word ∈ ["true", "false"]) : Unfit place (b :: first :: (rest ++ u)) := by
      have hvalue : Unfit place (Utf8.encode word.toList ++ u) := .word hmem
      rw [hbytes] at hvalue
      exact hvalue
    rcases hcases with ⟨rfl, rfl⟩ | ⟨rfl, rfl⟩ | ⟨rfl, rfl⟩
    · refine .inl ⟨u, none, ?_, hafter⟩
      have hnull : Address (Utf8.encode "null".toList ++ u) none u := .null
      rw [hbytes] at hnull
      exact hnull
    · exact .inr ⟨hafter, hunfit (by simp)⟩
    · exact .inr ⟨hafter, hunfit (by simp)⟩
  next phase _ hfirst =>
    obtain rfl := Except.ok.inj hbegin
    obtain ⟨rfl, hworth⟩ := h
    have hpower := NumberPhase.power_first hfirst
    obtain ⟨last, hworth, hrange⟩ := hworth (NumberValue.overflows_of_power_eq_zero hpower)
    refine .inr ⟨rfl, .number ?_ hrange⟩
    rw [numberWorth?, hfirst]
    exact hworth
  next =>
    rcases ok_of_beq hbegin with ⟨rfl, rfl⟩ | ⟨_, hbegin⟩
    · obtain ⟨text, u, hreads, hafter⟩ := h
      exact .inl ⟨u, _, .text (TextState.reads_start_iff.mp hreads), hafter⟩
    · repeat' split at hbegin
      all_goals cases hbegin

private theorem remainder_of_stepWord {place : Place} {first : UInt8} {rest : List UInt8}
    {value : Found} (hstep : stepWord place first rest value b = .ok next)
    (h : next.Remainder outcome t) : (word place first rest value).Remainder outcome (b :: t) := by
  unfold stepWord at hstep
  split at hstep
  · cases hstep
  next hletter =>
    obtain rfl : b = first := by simpa using hletter
    cases rest with
    | nil => exact ⟨t, rfl, afterValue_of_conclude hstep h⟩
    | cons second rest =>
      obtain rfl := Except.ok.inj hstep
      obtain ⟨u, rfl, hrest⟩ := h
      exact ⟨u, rfl, hrest⟩

private theorem remainder_of_stepNumber {place : Place} {phase : NumberPhase} {value : NumberValue}
    (hstep : stepNumber place phase value b = .ok next) (h : next.Remainder outcome t) :
    (number place phase value).Remainder outcome (b :: t) := by
  unfold stepNumber at hstep
  split at hstep
  next hnext =>
    dsimp only at hstep
    split at hstep
    · cases hstep
    next hrange =>
      obtain rfl := Except.ok.inj hstep
      obtain ⟨rfl, hworth⟩ := h
      refine ⟨rfl, fun _ => ?_⟩
      obtain ⟨last, hworth, hlast⟩ := hworth (by simpa using hrange)
      refine ⟨last, ?_, hlast⟩
      rw [NumberPhase.worth?, hnext]
      exact hworth
  · cases hstep
  · cases hstep

private theorem afterMember_of_stepMember (hstep : stepMember seen b = .ok next)
    (h : next.Remainder outcome t) : AfterMember outcome seen (b :: t) := by
  unfold stepMember at hstep
  rcases ok_of_beq hstep with ⟨rfl, rfl⟩ | ⟨_, hstep⟩
  · exact .inr ⟨t, .nil, h⟩
  rcases ok_of_beq hstep with ⟨rfl, rfl⟩ | ⟨_, hstep⟩
  · exact .inl ⟨⟨t, .nil, h.1⟩, h.2⟩
  · cases hstep

/-- Inside an ignored value the member that it belongs to is all that counts of the rest. -/
private theorem enclosing_remainder : Enclosing fun reader t => reader.Remainder outcome t where
  ignored h := h
  blank hblank h := AfterMember.blank hblank h
  stepMember := afterMember_of_stepMember

private theorem readText_cases (bytes : List UInt8) :
    (∃ text, bytes = Utf8.encode text ∧ readText bytes = .ok text) ∨
      ∃ fault back, readText bytes = .error ⟨.malformed fault, back⟩ := by
  cases hdecode : Utf8.decode? bytes with
  | some text => exact .inl ⟨text, Utf8.decode?_eq_some_iff.mp hdecode, by rw [readText, hdecode]⟩
  | none => exact .inr ⟨.badText, _, by rw [readText, hdecode]⟩

/-- A byte goes on with a text, or ends it and makes it the value of its place, or shows that it is
none. -/
theorem step_text_cases (place : Place) (state : TextState) (b : UInt8) :
    (∃ state', state.next b = .more state' ∧
      (text place state).step b = .ok (text place state')) ∨
    (∃ chars, state.next b = .closed (Utf8.encode chars) ∧
      (text place state).step b = conclude place (.text (String.ofList chars))) ∨
    ∃ fault back, (text place state).step b = .error ⟨.malformed fault, back⟩ := by
  cases hnext : state.next b with
  | more state' => exact .inl ⟨state', rfl, by simp only [step, hnext]⟩
  | bad fault => exact .inr (.inr ⟨fault, 0, by simp only [step, hnext]; rfl⟩)
  | closed bytes =>
    rcases readText_cases bytes with ⟨chars, rfl, hread⟩ | ⟨fault, back, hread⟩
    · exact .inr (.inl ⟨chars, rfl, by simp only [step, hnext, hread]; rfl⟩)
    · exact .inr (.inr ⟨fault, back, by simp only [step, hnext, hread]; rfl⟩)

theorem step_name_cases (seen : Seen) (state : TextState) (b : UInt8) :
    (∃ state', state.next b = .more state' ∧
      (name seen state).step b = .ok (name seen state')) ∨
    (∃ chars, state.next b = .closed (Utf8.encode chars) ∧
      (name seen state).step b = .ok (takeName seen chars)) ∨
    ∃ fault back, (name seen state).step b = .error ⟨.malformed fault, back⟩ := by
  cases hnext : state.next b with
  | more state' => exact .inl ⟨state', rfl, by simp only [step, hnext]⟩
  | bad fault => exact .inr (.inr ⟨fault, 0, by simp only [step, hnext]; rfl⟩)
  | closed bytes =>
    rcases readText_cases bytes with ⟨chars, rfl, hread⟩ | ⟨fault, back, hread⟩
    · exact .inr (.inl ⟨chars, rfl, by simp only [step, hnext, hread]; rfl⟩)
    · exact .inr (.inr ⟨fault, back, by simp only [step, hnext, hread]; rfl⟩)

private theorem remainder_of_text {place : Place} {state : TextState}
    (hstep : (text place state).step b = .ok next) (h : next.Remainder outcome t) :
    (text place state).Remainder outcome (b :: t) := by
  rcases step_text_cases place state b with
    ⟨state', hnext, hmore⟩ | ⟨chars, hnext, hclosed⟩ | ⟨fault, back, herror⟩
  · rw [hmore] at hstep
    obtain rfl := Except.ok.inj hstep
    obtain ⟨chars, u, hreads, hafter⟩ := h
    exact ⟨chars, u, .more hnext hreads, hafter⟩
  · rw [hclosed] at hstep
    exact ⟨chars, t, .closed hnext, afterValue_of_conclude hstep h⟩
  · rw [herror] at hstep
    cases hstep

private theorem remainder_of_name {state : TextState}
    (hstep : (name seen state).step b = .ok next) (h : next.Remainder outcome t) :
    (name seen state).Remainder outcome (b :: t) := by
  rcases step_name_cases seen state b with
    ⟨state', hnext, hmore⟩ | ⟨chars, hnext, hclosed⟩ | ⟨fault, back, herror⟩
  · rw [hmore] at hstep
    obtain rfl := Except.ok.inj hstep
    obtain ⟨chars, u, hreads, hafter⟩ := h
    exact ⟨chars, u, .more hnext hreads, hafter⟩
  · rw [hclosed] at hstep
    obtain rfl := Except.ok.inj hstep
    refine ⟨chars, t, .closed hnext, ?_⟩
    unfold takeName at h
    split at h
    next hemail =>
      rw [if_pos hemail]
      cases seen with
      | none => exact .inl ⟨rfl, h⟩
      | some found => exact .inr ⟨Option.some_ne_none found, h⟩
    next hother =>
      rw [if_neg hother]
      exact h
  · rw [herror] at hstep
    cases hstep

private theorem furtherMembers_of_quote (h : (name seen .start).Remainder outcome t) :
    FurtherMembers outcome seen (quote :: t) := by
  obtain ⟨text, u, hreads, hafter⟩ := h
  exact furtherMembers_of_name .nil (TextState.reads_start_iff.mp hreads) hafter

private theorem remainder_of_start (hstep : start.step b = .ok next)
    (h : next.Remainder outcome t) : start.Remainder outcome (b :: t) := by
  unfold step at hstep
  rcases ok_of_ite hstep with ⟨hblank, rfl⟩ | ⟨_, hstep⟩
  · rcases h with ⟨u, hbrace, hrest⟩ | ⟨u, hbracket, hrest⟩ | hbefore
    · exact .inl ⟨u, .skip hblank hbrace, hrest⟩
    · exact .inr (.inl ⟨u, .skip hblank hbracket, hrest⟩)
    · exact .inr (.inr (hbefore.blank hblank))
  rcases ok_of_beq hstep with ⟨rfl, rfl⟩ | ⟨_, hstep⟩
  · exact .inr (.inl ⟨t, .nil, h⟩)
  rcases ok_of_beq hstep with ⟨rfl, rfl⟩ | ⟨_, hstep⟩
  · exact .inl ⟨t, .nil, h⟩
  · exact .inr (.inr ⟨_, .nil, atAddress_of_begin hstep h⟩)

private theorem remainder_of_listOpened (hstep : listOpened.step b = .ok next)
    (h : next.Remainder outcome t) : listOpened.Remainder outcome (b :: t) := by
  unfold step at hstep
  rcases ok_of_ite hstep with ⟨hblank, rfl⟩ | ⟨_, hstep⟩
  · exact InList.blank hblank h
  rcases ok_of_beq hstep with ⟨rfl, rfl⟩ | ⟨_, hstep⟩
  · exact .inl ⟨⟨t, .nil, h.1⟩, h.2⟩
  · exact .inr ⟨_, .nil, atAddress_of_begin hstep h⟩

private theorem remainder_of_element {found : Given} (hstep : (element found).step b = .ok next)
    (h : next.Remainder outcome t) : (element found).Remainder outcome (b :: t) := by
  unfold step at hstep
  rcases ok_of_ite hstep with ⟨hblank, rfl⟩ | ⟨_, hstep⟩
  · exact ⟨h.1.blank hblank, h.2⟩
  rcases ok_of_beq hstep with ⟨_, rfl⟩ | ⟨_, hstep⟩
  · cases h
  rcases ok_of_beq hstep with ⟨rfl, rfl⟩ | ⟨_, hstep⟩
  · exact ⟨⟨t, .nil, h.1⟩, h.2⟩
  · cases hstep

private theorem remainder_of_objectOpened (hstep : objectOpened.step b = .ok next)
    (h : next.Remainder outcome t) : objectOpened.Remainder outcome (b :: t) := by
  unfold step at hstep
  rcases ok_of_ite hstep with ⟨hblank, rfl⟩ | ⟨_, hstep⟩
  · exact InObject.blank hblank h
  rcases ok_of_beq hstep with ⟨rfl, rfl⟩ | ⟨_, hstep⟩
  · exact .inl ⟨⟨t, .nil, h.1⟩, h.2⟩
  rcases ok_of_beq hstep with ⟨rfl, rfl⟩ | ⟨_, hstep⟩
  · exact .inr (furtherMembers_of_quote h)
  · cases hstep

private theorem remainder_of_memberComma (hstep : (memberComma seen).step b = .ok next)
    (h : next.Remainder outcome t) : (memberComma seen).Remainder outcome (b :: t) := by
  unfold step at hstep
  rcases ok_of_ite hstep with ⟨hblank, rfl⟩ | ⟨_, hstep⟩
  · exact FurtherMembers.blank hblank h
  rcases ok_of_beq hstep with ⟨rfl, rfl⟩ | ⟨_, hstep⟩
  · exact furtherMembers_of_quote h
  · split at hstep <;> cases hstep

private theorem remainder_of_colon {isEmail : Bool} (hstep : (colon isEmail seen).step b = .ok next)
    (h : next.Remainder outcome t) : (colon isEmail seen).Remainder outcome (b :: t) := by
  unfold step at hstep
  rcases ok_of_ite hstep with ⟨hblank, rfl⟩ | ⟨_, hstep⟩
  · exact AfterName.blank hblank h
  rcases ok_of_beq hstep with ⟨rfl, rfl⟩ | ⟨_, hstep⟩
  · cases isEmail with
    | true => exact ⟨t, .nil, h⟩
    | false => exact ⟨t, .nil, h⟩
  · cases hstep

/-- What the grammar lets follow behind a byte it lets follow before it, if the byte is read. -/
theorem remainder_of_step (hstep : reader.step b = .ok next) (h : next.Remainder outcome t) :
    reader.Remainder outcome (b :: t) := by
  cases reader with
  | start => exact remainder_of_start hstep h
  | word place first rest value => exact remainder_of_stepWord hstep h
  | number place phase value => exact remainder_of_stepNumber hstep h
  | text place state => exact remainder_of_text hstep h
  | name seen state => exact remainder_of_name hstep h
  | listOpened => exact remainder_of_listOpened hstep h
  | element found => exact remainder_of_element hstep h
  | elementComma =>
    unfold step at hstep
    rcases ok_of_ite hstep with ⟨_, rfl⟩ | ⟨_, hstep⟩
    · cases h
    · split at hstep <;> cases hstep
  | objectOpened => exact remainder_of_objectOpened hstep h
  | colon isEmail seen => exact remainder_of_colon hstep h
  | repeated =>
    unfold step at hstep
    rcases ok_of_ite hstep with ⟨_, rfl⟩ | ⟨_, hstep⟩
    · exact h
    · cases hstep
  | email =>
    unfold step at hstep
    rcases ok_of_ite hstep with ⟨hblank, rfl⟩ | ⟨_, hstep⟩
    · exact BeforeAddress.blank hblank h
    · exact ⟨_, .nil, atAddress_of_begin hstep h⟩
  | ignored inner frames seen => exact enclosing_remainder.remainder_of_stepIgnored hstep h
  | member seen =>
    unfold step at hstep
    rcases ok_of_ite hstep with ⟨hblank, rfl⟩ | ⟨_, hstep⟩
    · exact AfterMember.blank hblank h
    · exact afterMember_of_stepMember hstep h
  | memberComma seen => exact remainder_of_memberComma hstep h
  | done found =>
    unfold step at hstep
    rcases ok_of_ite hstep with ⟨hblank, rfl⟩ | ⟨_, hstep⟩
    · exact ⟨.skip hblank h.1, h.2⟩
    · cases hstep

/-- What is read to the end of the body is what the grammar lets follow. -/
theorem Gives.remainder (h : reader.Gives t given) : reader.Remainder (.gives given) t := by
  -- The reader keeps no stack of what it has read, so the grammar is found from the end on.
  induction h with
  | done => exact ⟨.nil, rfl⟩
  | step hstep _ ih => exact remainder_of_step hstep ih

end

end Reader

end WaitingList.Submission

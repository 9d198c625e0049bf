import WaitingList.Proofs.Submission.Soundness

namespace WaitingList.Submission

open Grammar

namespace Reader

section

variable {seen : Seen} {frames : List Frame} {b : UInt8} {t : List UInt8} {reader : Reader}

private theorem inRange_of_numberCause {place : Place} {value : NumberValue}
    (hcause : (numberCause place value).concernsShape = true) (hrange : value.overflows = false) :
    value.inRange = true := by
  unfold numberCause at hcause
  split at hcause
  next hworth => simp [NumberValue.inRange, hrange, hworth]
  next => cases hcause

section Fault

variable {stop : Stop} (hshape : stop.cause.concernsShape = true)

include hshape

private theorem bracket_of_begin {place : Place} (hbegin : begin place b = .error stop) :
    b = 0x5B ∨ b = 0x7B := by
  unfold begin at hbegin
  grind [Stop.behind, Cause.concernsShape]

private theorem unfit_of_begin {place : Place} (hplace : place ≠ .whole)
    (hbegin : begin place b = .error stop) : Unfit place (b :: t) := by
  rcases bracket_of_begin hshape hbegin with rfl | rfl
  · exact .list hplace
  · exact .object hplace

/-- Inside an ignored value every fault is one of form. -/
private theorem not_stepIgnored_eq_error {inner : Ignored} :
    stepIgnored inner frames seen b ≠ .error stop := by
  intro hstep
  unfold stepIgnored beginIgnored stepAfter stepMember stepOpened stepIgnoredName beginIgnored
    at hstep
  grind [Stop.behind, Stop.before, Cause.concernsShape]

omit hshape in
private theorem afterValue_of_fault {place : Place} {value : Found}
    (hconclude : conclude place value = .error stop) : AfterValue .misfits value place t := by
  cases value with
  | null | text _ =>
    cases place with
    | whole => rfl
    | element | member => cases hconclude
  | boolean _ | number _ | list | object => rfl

private theorem remainder_of_word_fault {place : Place} {first : UInt8} {rest : List UInt8}
    {value : Found} (hstep : stepWord place first rest value b = .error stop) :
    (word place first rest value).Remainder .misfits (b :: t) := by
  unfold stepWord at hstep
  split at hstep
  next =>
    obtain rfl := Except.error.inj hstep
    cases hshape
  next hletter =>
    obtain rfl : b = first := by simpa using hletter
    cases rest with
    | nil => exact ⟨t, rfl, afterValue_of_fault hstep⟩
    | cons second rest => cases hstep

private theorem remainder_of_number_fault {place : Place} {phase : NumberPhase}
    {value : NumberValue} (hstep : stepNumber place phase value b = .error stop) :
    (number place phase value).Remainder .misfits (b :: t) := by
  unfold stepNumber at hstep
  split at hstep
  next =>
    dsimp only at hstep
    split at hstep
    · obtain rfl := Except.error.inj hstep
      cases hshape
    · cases hstep
  next hnext =>
    obtain rfl := Except.error.inj hstep
    refine ⟨rfl, fun hrange => ⟨value, ?_, inRange_of_numberCause hshape hrange⟩⟩
    rw [NumberPhase.worth?, hnext]
  next =>
    obtain rfl := Except.error.inj hstep
    cases hshape

private theorem remainder_of_text_fault {place : Place} {state : TextState}
    (hstep : (text place state).step b = .error stop) :
    (text place state).Remainder .misfits (b :: t) := by
  rcases step_text_cases place state b with
    ⟨state', hnext, hmore⟩ | ⟨chars, hnext, hclosed⟩ | ⟨fault, back, herror⟩
  · rw [hmore] at hstep
    cases hstep
  · rw [hclosed] at hstep
    exact ⟨chars, t, .closed hnext, afterValue_of_fault hstep⟩
  · obtain rfl := Except.error.inj (herror.symm.trans hstep)
    cases hshape

private theorem not_name_eq_error {state : TextState} :
    (name seen state).step b ≠ .error stop := by
  intro hstep
  rcases step_name_cases seen state b with
    ⟨state', hnext, hmore⟩ | ⟨chars, hnext, hclosed⟩ | ⟨fault, back, herror⟩
  · cases hmore.symm.trans hstep
  · cases hclosed.symm.trans hstep
  · obtain rfl := Except.error.inj (herror.symm.trans hstep)
    cases hshape

private theorem remainder_of_fault (hstep : reader.step b = .error stop) :
    reader.Remainder .misfits (b :: t) := by
  cases reader with
  | start =>
    -- A bracket opens the whole body, so no fault of shape begins here.
    exfalso
    simp only [step] at hstep
    grind [bracket_of_begin hshape]
  | word place first rest value => exact remainder_of_word_fault hshape hstep
  | number place phase value => exact remainder_of_number_fault hshape hstep
  | text place state => exact remainder_of_text_fault hshape hstep
  | name seen state => exact absurd hstep (not_name_eq_error hshape)
  | listOpened =>
    simp only [step] at hstep
    split at hstep
    · cases hstep
    split at hstep
    · cases hstep
    · exact .inr ⟨_, .nil, .inr ⟨rfl, unfit_of_begin hshape (by decide) hstep⟩⟩
  | repeated => rfl
  | email =>
    simp only [step] at hstep
    split at hstep
    · cases hstep
    · exact ⟨_, .nil, .inr ⟨rfl, unfit_of_begin hshape (by decide) hstep⟩⟩
  | ignored inner frames seen => exact absurd hstep (not_stepIgnored_eq_error hshape)
  | element _ | elementComma | objectOpened | colon _ _ | member _ | memberComma _ | done _ =>
    exfalso
    unfold step at hstep
    grind [stepMember, Stop.behind, Cause.concernsShape]

end Fault

private theorem remainder_of_finish {cause : Cause} (hfinish : reader.finish = .error cause)
    (hshape : cause.concernsShape = true) : reader.Remainder .misfits [] := by
  cases reader with
  | number place phase value =>
    obtain rfl := Except.error.inj hfinish
    split at hshape
    next hcomplete =>
      refine ⟨rfl, fun hrange => ⟨value, ?_, inRange_of_numberCause hshape hrange⟩⟩
      rw [NumberPhase.worth?, if_pos hcomplete]
    next => cases hshape
  | repeated => rfl
  | done found => cases hfinish
  | _ =>
    obtain rfl := Except.error.inj hfinish
    cases hshape

/-- A run that fails for the shape of the body fails on what the grammar knows to be of the wrong
shape. -/
theorem Fails.remainder {cause : Cause} (h : reader.Fails t cause)
    (hshape : cause.concernsShape = true) : reader.Remainder .misfits t := by
  induction h with
  | finish hfinish => exact remainder_of_finish hfinish hshape
  | stop hstep => exact remainder_of_fault hshape hstep
  | step hstep _ ih => exact remainder_of_step hstep (ih hshape)

end

end Reader

end WaitingList.Submission

import WaitingList.Proofs.Submission.Number

namespace WaitingList.Submission

namespace NumberValue

/-- Whether a number has a magnitude that a floating number can have. -/
def inRange (value : NumberValue) : Bool :=
  !value.overflows && (Number.ofValue? value).isSome

theorem overflows_of_power_eq_zero {value : NumberValue} (hpower : value.power = 0) :
    value.overflows = false := by
  simp [overflows, hpower, powerBound, twoTo]

/-- No further digit of the power brings a number back into range. -/
theorem overflows_pushPower {value : NumberValue} (hover : value.overflows = true) (d : Nat) :
    (value.pushPower d).overflows = true := by
  have hbound : value.power = powerBound := by
    unfold overflows at hover
    grind
  have hpower : (value.pushPower d).power = value.power := by
    simp only [pushPower, hbound]
    omega
  unfold overflows at *
  rw [hpower]
  exact hover

end NumberValue

namespace NumberPhase

/-- What a number is worth in the end, of which the bytes so far are worth `value`. It takes in
every byte that can belong to it. -/
def worth? (phase : NumberPhase) (value : NumberValue) : List UInt8 → Option NumberValue
  | [] => if phase.isComplete then some value else none
  | b :: t =>
    match phase.next b with
    | .more next => next.worth? (value.push next b) t
    | .ended => some value
    | .bad => none

private theorem power_push {next : NumberPhase} {value : NumberValue} {b : UInt8}
    (hnext : next ≠ power) : (value.push next b).power = value.power := by
  cases next with
  | power => exact absurd rfl hnext
  | sign | point | mark | markSign => rfl
  | zero | integer =>
    simp only [NumberValue.push, NumberValue.pushInteger]
    split <;> rfl
  | fraction =>
    simp only [NumberValue.push, NumberValue.pushFraction]
    split <;> rfl

/-- A number does not begin with its power. -/
theorem power_first {b : UInt8} {phase : NumberPhase} (hfirst : first? b = some phase) :
    (NumberValue.empty.push phase b).power = 0 := by
  have hnext : phase ≠ power := by
    unfold first? at hfirst
    grind
  rw [power_push hnext]
  rfl

private theorem eq_power_of_next {b : UInt8} {next : NumberPhase}
    (hnext : power.next b = .more next) : next = power := by
  simp only [NumberPhase.next] at hnext
  split at hnext
  · exact (NumberStep.more.inj hnext).symm
  · cases hnext

/-- The power is written last, so in front of it nothing of it has been read. -/
theorem power_push_eq_zero {phase next : NumberPhase} {value : NumberValue} {b : UInt8}
    (hplain : phase ≠ power → value.power = 0) (hnext : phase.next b = .more next)
    (hne : next ≠ power) : (value.push next b).power = 0 := by
  rw [power_push hne]
  apply hplain
  rintro rfl
  exact hne (eq_power_of_next hnext)

/-- A number that its power has put out of range stays so to its end. -/
theorem overflows_of_worth? {value last : NumberValue} {t : List UInt8}
    (hover : value.overflows = true) (hworth : power.worth? value t = some last) :
    last.overflows = true := by
  induction t generalizing value with
  | nil =>
    obtain rfl := Option.some.inj hworth
    exact hover
  | cons b t ih =>
    rw [worth?] at hworth
    split at hworth
    next next hnext =>
      obtain rfl := eq_power_of_next hnext
      exact ih (NumberValue.overflows_pushPower hover _) hworth
    next =>
      obtain rfl := Option.some.inj hworth
      exact hover
    next => cases hworth

end NumberPhase

/-- What a number is worth that bytes begin with. -/
def numberWorth? : List UInt8 → Option NumberValue
  | [] => none
  | b :: t => (NumberPhase.first? b).bind fun phase =>
    phase.worth? (NumberValue.empty.push phase b) t

namespace Grammar

/-- What may stand behind a value, if anything does: a blank, a comma, or a bracket that closes. -/
def Delimited (r : List UInt8) : Prop :=
  ∀ b u, r = b :: u → b ∈ [0x20, 0x09, 0x0A, 0x0D, 0x2C, 0x5D, 0x7D]

variable {b : UInt8} {t r : List UInt8}

theorem Delimited.cons (hb : b ∈ [0x20, 0x09, 0x0A, 0x0D, 0x2C, 0x5D, 0x7D]) :
    Delimited (b :: t) := by
  rintro _ _ ⟨⟩
  exact hb

theorem Delimited.of_blanks (hblanks : Blanks t r) (h : Delimited r) : Delimited t := by
  cases hblanks with
  | nil => exact h
  | cons hblank _ => exact .cons (List.mem_append_left [0x2C, 0x5D, 0x7D] hblank)

private theorem exists_worth_of_ends {phase : NumberPhase} (hends : phase.Ends t r)
    (hdelimited : Delimited r) (value : NumberValue) :
    ∃ last, phase.worth? value t = some last := by
  induction hends generalizing value with
  | @ended phase t hcomplete =>
    cases t with
    | nil => exact ⟨value, if_pos hcomplete⟩
    | cons b t =>
      have hended := NumberPhase.ended_of_delimiter hcomplete (hdelimited b t rfl)
      exact ⟨value, by rw [NumberPhase.worth?, hended]⟩
  | @more phase next b t r hnext _ ih =>
    obtain ⟨last, hworth⟩ := ih hdelimited (value.push next b)
    exact ⟨last, by rw [NumberPhase.worth?, hnext]; exact hworth⟩

/-- A number with nothing behind it that could belong to it is worth something. -/
theorem Number.exists_worth (h : Number t r) (hdelimited : Delimited r) :
    ∃ value, numberWorth? t = some value := by
  obtain ⟨b, u, phase, rfl, hfirst, hends⟩ := NumberPhase.number_iff.mp h
  obtain ⟨last, hworth⟩ :=
    exists_worth_of_ends hends hdelimited (NumberValue.empty.push phase b)
  exact ⟨last, by rw [numberWorth?, hfirst]; exact hworth⟩

end Grammar

end WaitingList.Submission

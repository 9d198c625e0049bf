import WaitingList.Proofs.Submission.Grammar

namespace WaitingList.Submission

theorem isDigit_iff {b : UInt8} : isDigit b = true ↔ 0x30 ≤ b ∧ b ≤ 0x39 := by
  simp [isDigit]

theorem isMark_iff {b : UInt8} : isMark b = true ↔ b ∈ [0x45, 0x65] := by
  simp [isMark]

theorem isSign_iff {b : UInt8} : isSign b = true ↔ b ∈ [0x2B, 0x2D] := by
  simp [isSign]

namespace NumberPhase

open Grammar

/-- A number of which the last byte read has a phase ends before what is left. -/
inductive Ends : NumberPhase → List UInt8 → List UInt8 → Prop where
  | ended {phase : NumberPhase} {t : List UInt8} (hcomplete : phase.isComplete = true) :
      Ends phase t t
  | more {phase phase' : NumberPhase} {b : UInt8} {t r : List UInt8}
      (hnext : phase.next b = .more phase') (h : Ends phase' t r) : Ends phase (b :: t) r

theorem Ends.isSuffix {phase : NumberPhase} {t r : List UInt8} (h : phase.Ends t r) : r <:+ t := by
  induction h with
  | ended => exact List.suffix_rfl
  | more _ _ ih => exact ih.trans (List.suffix_cons ..)

/-- What the grammar lets follow in a phase. -/
def Remainder (t r : List UInt8) : NumberPhase → Prop
  | sign => Magnitude t r
  | zero => ∃ u, Fraction t u ∧ Exponent u r
  | integer => ∃ u v, Digits t u ∧ Fraction u v ∧ Exponent v r
  | point => ∃ u, SomeDigits t u ∧ Exponent u r
  | fraction => ∃ u, Digits t u ∧ Exponent u r
  | mark => SomeDigits t r ∨ ∃ s u, t = s :: u ∧ s ∈ [0x2B, 0x2D] ∧ SomeDigits u r
  | markSign => SomeDigits t r
  | power => Digits t r

section

variable {b : UInt8} {t r : List UInt8} {phase phase' : NumberPhase}

/-- A number that may end needs nothing to follow. -/
theorem remainder_of_isComplete (hcomplete : phase.isComplete = true) : phase.Remainder t t := by
  cases phase with
  | zero => exact ⟨t, .absent, .absent⟩
  | integer => exact ⟨t, t, .nil, .absent, .absent⟩
  | fraction => exact ⟨t, .nil, .absent⟩
  | power => exact .nil
  | sign | point | mark | markSign => cases hcomplete

private theorem exponent_of_mark (hmark : isMark b = true) (h : mark.Remainder t r) :
    Exponent (b :: t) r := by
  rcases h with hdigits | ⟨s, u, rfl, hsign, hdigits⟩
  · exact .plain (isMark_iff.mp hmark) hdigits
  · exact .signed (isMark_iff.mp hmark) hsign hdigits

private theorem remainder_of_afterInteger (hnext : afterInteger b = .more phase')
    (h : phase'.Remainder t r) : ∃ u, Fraction (b :: t) u ∧ Exponent u r := by
  unfold afterInteger at hnext
  split at hnext
  next hpoint =>
    obtain rfl := NumberStep.more.inj hnext
    obtain rfl := eq_of_beq hpoint
    obtain ⟨u, hdigits, hexponent⟩ := h
    exact ⟨u, .digits hdigits, hexponent⟩
  next =>
    split at hnext
    next hmark =>
      obtain rfl := NumberStep.more.inj hnext
      exact ⟨b :: t, .absent, exponent_of_mark hmark h⟩
    next => cases hnext

/-- A byte begins a number as a minus sign or as what may follow one. -/
theorem first?_eq_some_iff :
    first? b = some phase ↔ b = 0x2D ∧ phase = sign ∨ sign.next b = .more phase := by
  by_cases hminus : b = 0x2D
  · subst hminus
    have hnext : sign.next 0x2D = .bad := rfl
    have hfirst : first? 0x2D = some sign := rfl
    simp [hnext, hfirst, eq_comm]
  · simp only [first?, next, beq_iff_eq, hminus, if_false, false_and, false_or]
    split
    · simp
    · split <;> simp

private theorem magnitude_of_next_sign (hnext : sign.next b = .more phase)
    (h : phase.Remainder t r) : Magnitude (b :: t) r := by
  simp only [next] at hnext
  split at hnext
  next hzero =>
    obtain rfl := NumberStep.more.inj hnext
    obtain rfl := eq_of_beq hzero
    obtain ⟨u, hfraction, hexponent⟩ := h
    exact ⟨.zero, hfraction, hexponent⟩
  next hzero =>
    split at hnext
    next hdigit =>
      obtain rfl := NumberStep.more.inj hnext
      obtain ⟨u, v, hdigits, hfraction, hexponent⟩ := h
      have hrange : 0x31 ≤ b ∧ b ≤ 0x39 := by
        rw [isDigit_iff] at hdigit
        grind
      exact ⟨.digits hrange hdigits, hfraction, hexponent⟩
    next => cases hnext

/-- What can follow behind a byte can follow before it, if the byte is read. -/
theorem remainder_of_next (hnext : phase.next b = .more phase') (h : phase'.Remainder t r) :
    phase.Remainder (b :: t) r := by
  cases phase with
  | sign => exact magnitude_of_next_sign hnext h
  | zero =>
    simp only [next] at hnext
    split at hnext
    · cases hnext
    · exact remainder_of_afterInteger hnext h
  | integer =>
    simp only [next] at hnext
    split at hnext
    next hdigit =>
      obtain rfl := NumberStep.more.inj hnext
      obtain ⟨u, v, hdigits, hrest⟩ := h
      exact ⟨u, v, .cons (isDigit_iff.mp hdigit) hdigits, hrest⟩
    next =>
      obtain ⟨u, hrest⟩ := remainder_of_afterInteger hnext h
      exact ⟨b :: t, u, .nil, hrest⟩
  | point =>
    simp only [next] at hnext
    split at hnext
    next hdigit =>
      obtain rfl := NumberStep.more.inj hnext
      obtain ⟨u, hdigits, hexponent⟩ := h
      exact ⟨u, ⟨isDigit_iff.mp hdigit, hdigits⟩, hexponent⟩
    next => cases hnext
  | fraction =>
    simp only [next] at hnext
    split at hnext
    next hdigit =>
      obtain rfl := NumberStep.more.inj hnext
      obtain ⟨u, hdigits, hexponent⟩ := h
      exact ⟨u, .cons (isDigit_iff.mp hdigit) hdigits, hexponent⟩
    next =>
      split at hnext
      next hmark =>
        obtain rfl := NumberStep.more.inj hnext
        exact ⟨b :: t, .nil, exponent_of_mark hmark h⟩
      next => cases hnext
  | mark =>
    simp only [next] at hnext
    split at hnext
    next hsign =>
      obtain rfl := NumberStep.more.inj hnext
      exact .inr ⟨b, t, rfl, isSign_iff.mp hsign, h⟩
    next =>
      split at hnext
      next hdigit =>
        obtain rfl := NumberStep.more.inj hnext
        exact .inl ⟨isDigit_iff.mp hdigit, h⟩
      next => cases hnext
  | markSign =>
    simp only [next] at hnext
    split at hnext
    next hdigit =>
      obtain rfl := NumberStep.more.inj hnext
      exact ⟨isDigit_iff.mp hdigit, h⟩
    next => cases hnext
  | power =>
    simp only [next] at hnext
    split at hnext
    next hdigit =>
      obtain rfl := NumberStep.more.inj hnext
      exact .cons (isDigit_iff.mp hdigit) h
    next => cases hnext

/-- A number ends before a byte only where it may end. -/
theorem isComplete_of_ended (hnext : phase.next b = .ended) : phase.isComplete = true := by
  cases phase with
  | zero | integer | fraction | power => rfl
  | sign | point | mark | markSign =>
    simp only [next] at hnext
    repeat' split at hnext
    all_goals cases hnext

/-- A blank, a comma or a bracket that closes ends a number that may end. -/
theorem ended_of_delimiter (hcomplete : phase.isComplete = true)
    (hb : b ∈ [0x20, 0x09, 0x0A, 0x0D, 0x2C, 0x5D, 0x7D]) : phase.next b = .ended := by
  simp only [List.mem_cons, List.not_mem_nil, or_false] at hb
  cases phase with
  | zero | integer | fraction | power =>
    rcases hb with rfl | rfl | rfl | rfl | rfl | rfl | rfl <;> rfl
  | sign | point | mark | markSign => cases hcomplete

/-- The machine reads nothing that the grammar does not let follow. -/
theorem Ends.remainder (h : phase.Ends t r) : phase.Remainder t r := by
  induction h with
  | ended hcomplete => exact remainder_of_isComplete hcomplete
  | more hnext _ ih => exact remainder_of_next hnext ih

private theorem isSign_of_isDigit (hdigit : isDigit b = true) : isSign b = false := by
  unfold isDigit at hdigit
  unfold isSign
  grind

/-- A phase in which digits may follow reads them, and goes on in the phase that they lead to. -/
private theorem ends_of_digits {u : List UInt8}
    (hstay : ∀ d, isDigit d = true → phase.next d = .more phase)
    (hdigits : Digits t u) (h : phase.Ends u r) : phase.Ends t r := by
  induction hdigits with
  | nil => exact h
  | cons hdigit _ ih => exact .more (hstay _ (isDigit_iff.mpr hdigit)) (ih h)

private theorem power_ends (hdigits : Digits t r) : power.Ends t r :=
  ends_of_digits (fun d hdigit => by simp [next, hdigit]) hdigits (.ended rfl)

private theorem ends_of_exponent (hcomplete : phase.isComplete = true)
    (hmark : ∀ m ∈ [0x45, 0x65], phase.next m = .more .mark) (h : Exponent t r) :
    phase.Ends t r := by
  cases h with
  | absent => exact .ended hcomplete
  | plain hm hdigits =>
    obtain ⟨hrange, hrest⟩ := hdigits
    have hdigit := isDigit_iff.mpr hrange
    refine .more (hmark _ hm) (.more ?_ (power_ends hrest))
    simp [next, isSign_of_isDigit hdigit, hdigit]
  | signed hm hsign hdigits =>
    obtain ⟨hrange, hrest⟩ := hdigits
    have hsigned : next _ .mark = .more .markSign := if_pos (isSign_iff.mpr hsign)
    have hpower : next _ .markSign = .more .power := if_pos (isDigit_iff.mpr hrange)
    exact .more (hmark _ hm) (.more hsigned (.more hpower (power_ends hrest)))

private theorem ends_of_fraction {u : List UInt8} (hcomplete : phase.isComplete = true)
    (hafter : ∀ c, isDigit c = false → phase.next c = afterInteger c) (hfraction : Fraction t u)
    (hexponent : Exponent u r) : phase.Ends t r := by
  cases hfraction with
  | absent =>
    refine ends_of_exponent hcomplete ?_ hexponent
    simp only [List.forall_mem_cons]
    exact ⟨hafter _ rfl, hafter _ rfl, by simp⟩
  | digits hdigits =>
    obtain ⟨hrange, hrest⟩ := hdigits
    have hpoint : phase.next 0x2E = .more .point := hafter _ rfl
    have hfraction : next _ .point = .more .fraction := if_pos (isDigit_iff.mpr hrange)
    refine .more hpoint (.more hfraction ?_)
    refine ends_of_digits (fun d hdigit => by simp [next, hdigit]) hrest ?_
    refine ends_of_exponent rfl ?_ hexponent
    simp only [List.forall_mem_cons]
    exact ⟨rfl, rfl, by simp⟩

private theorem ends_of_magnitude (h : Magnitude t r) :
    ∃ b u phase, t = b :: u ∧ sign.next b = .more phase ∧ phase.Ends u r := by
  obtain ⟨hwhole, hfraction, hexponent⟩ := h
  cases hwhole with
  | zero =>
    refine ⟨0x30, _, .zero, rfl, rfl, ?_⟩
    exact ends_of_fraction rfl (fun c hc => by simp [next, hc]) hfraction hexponent
  | @digits b u _ hrange hdigits =>
    have hnext : sign.next b = .more .integer := by
      have hzero : b ≠ 0x30 := by grind
      have hdigit : isDigit b = true := isDigit_iff.mpr (by grind)
      simp [next, hzero, hdigit]
    refine ⟨b, u, .integer, rfl, hnext, ?_⟩
    refine ends_of_digits (fun d hd => by simp [next, hd]) hdigits ?_
    exact ends_of_fraction rfl (fun c hc => by simp [next, hc]) hfraction hexponent

end

/-- The machine reads exactly the numbers of the grammar. -/
theorem number_iff {t r : List UInt8} :
    Grammar.Number t r ↔ ∃ b u phase, t = b :: u ∧ first? b = some phase ∧ phase.Ends u r := by
  constructor
  · rintro (hmagnitude | hmagnitude)
    · obtain ⟨b, u, phase, rfl, hnext, hends⟩ := ends_of_magnitude hmagnitude
      exact ⟨b, u, phase, rfl, first?_eq_some_iff.mpr (.inr hnext), hends⟩
    · obtain ⟨b, u, phase, rfl, hnext, hends⟩ := ends_of_magnitude hmagnitude
      exact ⟨0x2D, b :: u, sign, rfl, rfl, .more hnext hends⟩
  · rintro ⟨b, u, phase, rfl, hfirst, hends⟩
    rcases first?_eq_some_iff.mp hfirst with ⟨rfl, rfl⟩ | hnext
    · exact .negative hends.remainder
    · exact .plain (magnitude_of_next_sign hnext hends.remainder)

end NumberPhase

end WaitingList.Submission

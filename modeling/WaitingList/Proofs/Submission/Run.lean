import WaitingList.Proofs.Submission.Grammar

namespace WaitingList.Submission

theorem isBlank_iff {b : UInt8} : isBlank b = true ↔ b ∈ [0x20, 0x09, 0x0A, 0x0D] := by
  simp [isBlank, or_assoc, or_left_comm]

theorem Grammar.Blanks.skip {b : UInt8} {t r : List UInt8} (hblank : isBlank b = true)
    (h : Blanks t r) : Blanks (b :: t) r :=
  .cons (isBlank_iff.mp hblank) h

namespace Reader

/-- From a state, the rest of a body is read to its end and gives an address, or null, or none. -/
inductive Gives : Reader → List UInt8 → Given → Prop where
  | done {given : Given} : Gives (done given) [] given
  | step {reader next : Reader} {b : UInt8} {t : List UInt8} {given : Given}
      (hstep : reader.step b = .ok next) (h : Gives next t given) : Gives reader (b :: t) given

/-- From a state, the rest of a body is read up to a fault of some cause. -/
inductive Fails : Reader → List UInt8 → Cause → Prop where
  | finish {reader : Reader} {cause : Cause} (hfinish : reader.finish = .error cause) :
      Fails reader [] cause
  | stop {reader : Reader} {b : UInt8} {t : List UInt8} {stop : Stop}
      (hstep : reader.step b = .error stop) : Fails reader (b :: t) stop.cause
  | step {reader next : Reader} {b : UInt8} {t : List UInt8} {cause : Cause}
      (hstep : reader.step b = .ok next) (h : Fails next t cause) : Fails reader (b :: t) cause

/-- From a state, the rest of a body is read up to where a goal is met by the state there and by
what is left. -/
inductive Comes (goal : Reader → List UInt8 → Prop) : Reader → List UInt8 → Prop where
  | here {reader : Reader} {t : List UInt8} (hmet : goal reader t) : Comes goal reader t
  | step {reader next : Reader} {b : UInt8} {t : List UInt8}
      (hstep : reader.step b = .ok next) (h : Comes goal next t) : Comes goal reader (b :: t)

variable {reader next : Reader} {b : UInt8} {t body : List UInt8} {given : Given}

/-- The body may only end behind its value. -/
theorem finish_eq_ok_iff : reader.finish = .ok given ↔ reader = .done given := by
  cases reader <;> simp [finish]

theorem gives_nil_iff : reader.Gives [] given ↔ reader = .done given := by
  constructor
  · rintro ⟨⟩
    rfl
  · rintro rfl
    exact .done

theorem gives_cons_iff :
    reader.Gives (b :: t) given ↔ ∃ next, reader.step b = .ok next ∧ next.Gives t given := by
  constructor
  · rintro (_ | ⟨hstep, h⟩)
    exact ⟨_, hstep, h⟩
  · rintro ⟨next, hstep, h⟩
    exact .step hstep h

theorem run_eq_ok_iff {offset : Nat} :
    run reader offset body = .ok given ↔ reader.Gives body given := by
  induction body generalizing reader offset with
  | nil =>
    rw [gives_nil_iff, ← finish_eq_ok_iff, run]
    cases reader.finish <;> simp
  | cons b t ih =>
    rw [gives_cons_iff, run]
    cases hstep : reader.step b with
    | error stop => simp
    | ok next => simp [ih]

/-- A run ends with the cause of the fault that it comes to. -/
theorem run_eq_error_iff {offset : Nat} {cause : Cause} :
    (∃ halt, run reader offset body = .error halt ∧ halt.cause = cause) ↔
      reader.Fails body cause := by
  induction body generalizing reader offset with
  | nil =>
    rw [run]
    constructor
    · rintro ⟨halt, hrun, rfl⟩
      split at hrun
      next => cases hrun
      next cause hfinish =>
        obtain rfl := Except.error.inj hrun
        exact .finish hfinish
    · rintro ⟨hfinish⟩
      rw [hfinish]
      exact ⟨_, rfl, rfl⟩
  | cons b t ih =>
    rw [run]
    cases hstep : reader.step b with
    | error stop =>
      constructor
      · rintro ⟨halt, hrun, rfl⟩
        obtain rfl := Except.error.inj hrun
        exact .stop hstep
      · rintro (_ | hstop | ⟨hnext, _⟩)
        · rw [hstep] at hstop
          obtain rfl := Except.error.inj hstop
          exact ⟨_, rfl, rfl⟩
        · rw [hstep] at hnext
          cases hnext
    | ok next =>
      dsimp only
      rw [ih]
      constructor
      · exact .step hstep
      · rintro (_ | hstop | ⟨hnext, h⟩)
        · rw [hstep] at hstop
          cases hstop
        · rw [hstep] at hnext
          obtain rfl := Except.ok.inj hnext
          exact h

theorem Comes.gives {goal : Reader → List UInt8 → Prop}
    (hgoal : ∀ reader t, goal reader t → reader.Gives t given) (h : reader.Comes goal body) :
    reader.Gives body given := by
  induction h with
  | here hmet => exact hgoal _ _ hmet
  | step hstep _ ih => exact .step hstep ih

theorem Comes.fails {goal : Reader → List UInt8 → Prop} {cause : Cause}
    (hgoal : ∀ reader t, goal reader t → reader.Fails t cause) (h : reader.Comes goal body) :
    reader.Fails body cause := by
  induction h with
  | here hmet => exact hgoal _ _ hmet
  | step hstep _ ih => exact .step hstep ih

end Reader

/-- What a body gives is what its run from the start does. -/
theorem read_eq_ok_iff_gives {body : List UInt8} {given : Given} :
    read body = .ok given ↔ Reader.Gives .start body given := by
  rw [← Reader.run_eq_ok_iff, read]
  cases Reader.run .start 0 body <;> simp

/-- What is wrong with a body is what its run from the start comes to. -/
theorem read_eq_error_iff_fails {body : List UInt8} {cause : Cause} :
    (∃ fault, read body = .error fault ∧ fault.cause = cause) ↔
      Reader.Fails .start body cause := by
  rw [← Reader.run_eq_error_iff, read]
  cases Reader.run .start 0 body <;> simp

end WaitingList.Submission

import WaitingList.Proofs.Submission.Soundness

namespace WaitingList.Submission

open Grammar

/-- What is wrong with a body that breaks off: it ends inside of something, or with a number that
lacks a digit. -/
inductive BreaksOff : Malformed → Prop where
  | inside (inside : Inside) : BreaksOff (.endsInside inside)
  | number : BreaksOff .badNumber

theorem Grammar.Blanks.isBlank_of_mem {t : List UInt8} (h : Blanks t []) {b : UInt8}
    (hb : b ∈ t) : isBlank b = true := by
  generalize hrest : ([] : List UInt8) = r at h
  induction h with
  | nil =>
    subst hrest
    cases hb
  | cons hblank _ ih =>
    rcases List.mem_cons.mp hb with rfl | hmem
    · exact isBlank_iff.mpr hblank
    · exact ih hmem hrest

namespace Reader

variable {reader : Reader} {cut rest : List UInt8} {given : Given}

theorem breaksOff_finishIgnored (inner : Ignored) (frames : List Frame) :
    BreaksOff (finishIgnored inner frames) := by
  cases inner with
  | number phase =>
    rw [finishIgnored]
    split
    · exact .inside _
    · exact .number
  | _ => exact .inside _

/-- Where a body could be read to its end if more than blanks came, it may not end. A number that is
read for its own sake and a second address cannot be read to the end, whatever comes. -/
theorem finish_of_gives (h : reader.Gives rest given) (hmissing : ∃ b ∈ rest, isBlank b = false) :
    ∃ fault, BreaksOff fault ∧ reader.finish = .error (.malformed fault) := by
  have hremainder : reader.Remainder (.gives given) rest := h.remainder
  cases reader with
  | number place phase value => cases hremainder.1
  | elementComma => cases hremainder
  | repeated => cases hremainder
  | done found =>
    obtain ⟨b, hb, hblank⟩ := hmissing
    exact absurd (hremainder.1.isBlank_of_mem hb) (Bool.eq_false_iff.mp hblank)
  | ignored inner frames seen => exact ⟨_, breaksOff_finishIgnored inner frames, rfl⟩
  | _ => exact ⟨_, .inside _, rfl⟩

/-- A run over the beginning of a body comes to the end of the beginning, and fails there. -/
theorem run_of_cut (h : reader.Gives (cut ++ rest) given)
    (hmissing : ∃ b ∈ rest, isBlank b = false) (offset : Nat) :
    ∃ fault, BreaksOff fault ∧
      run reader offset cut = .error ⟨.malformed fault, offset + cut.length⟩ := by
  induction cut generalizing reader offset with
  | nil =>
    obtain ⟨fault, hbreaks, hfinish⟩ := finish_of_gives h hmissing
    exact ⟨fault, hbreaks, by rw [run, hfinish]; rfl⟩
  | cons b cut ih =>
    obtain ⟨next, hstep, hnext⟩ := gives_cons_iff.mp h
    obtain ⟨fault, hbreaks, hrun⟩ := ih hnext (offset + 1)
    refine ⟨fault, hbreaks, ?_⟩
    rw [run, hstep, List.length_cons]
    dsimp only
    rw [hrun, Nat.add_assoc, Nat.add_comm 1]

end Reader

/-- The beginning of a body that can be read is refused for breaking off, at its very end, as long
as more than blanks are missing. -/
theorem read_of_cut {cut rest : List UInt8} {given : Given} (h : read (cut ++ rest) = .ok given)
    (hmissing : ∃ b ∈ rest, isBlank b = false) :
    ∃ fault, BreaksOff fault ∧ read cut = .error ⟨.malformed fault, Position.after cut⟩ := by
  obtain ⟨fault, hbreaks, hrun⟩ :=
    Reader.run_of_cut (read_eq_ok_iff_gives.mp h) hmissing 0
  refine ⟨fault, hbreaks, ?_⟩
  rw [read, hrun, Nat.zero_add]
  dsimp only
  rw [List.take_length]

end WaitingList.Submission

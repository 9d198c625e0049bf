import WaitingList.DomainName.Punycode
import WaitingList.Proofs.Text.Split

namespace WaitingList.Punycode

theorem threshold_pos (place bias : Nat) : 1 ≤ threshold place bias := by
  unfold threshold
  omega

theorem threshold_le (place bias : Nat) : threshold place bias ≤ 26 := by
  unfold threshold
  omega

theorem digit_ascii {n : Nat} (h : n < 36) : (digit n).toNat < 0x80 := by
  have hall : ∀ m < 36, (digit m).toNat < 0x80 := by decide
  exact hall n h

theorem number_ascii (bias place n : Nat) : ∀ c ∈ number bias place n, c.toNat < 0x80 := by
  induction place, n using number.induct bias with
  | case1 place n t hlast =>
    intro c hc
    rw [number, if_pos hlast, List.mem_singleton] at hc
    subst hc
    exact digit_ascii (Nat.lt_of_lt_of_le hlast ((threshold_le place bias).trans (by decide)))
  | case2 place n t hmore ih =>
    intro c hc
    rw [number, if_neg hmore, List.mem_cons] at hc
    rcases hc with rfl | hrest
    · have hpos := threshold_pos place bias
      have hle := threshold_le place bias
      have hmod := Nat.mod_lt (n - threshold place bias)
        (show 0 < 36 - threshold place bias by omega)
      exact digit_ascii (by omega)
    · exact ih c hrest

section Encode

/-- What a writer has written is ASCII. -/
def Encoder.Ascii (e : Encoder) : Prop := ∀ c ∈ e.written, c.toNat < 0x80

/-- How far has been counted is of no concern. -/
theorem Encoder.Ascii.count {e : Encoder} (h : e.Ascii) (delta : Nat) :
    ({ e with delta } : Encoder).Ascii := h

theorem Encoder.Ascii.visit {e : Encoder} (h : e.Ascii) (n : Nat) (c : Char) :
    (e.visit n c).Ascii := by
  unfold Encoder.visit
  split
  · exact h
  split
  · intro d hd
    rcases List.mem_append.mp hd with hold | hnew
    · exact h d hold
    · exact number_ascii _ _ _ d hnew
  · exact h

theorem Encoder.Ascii.foldl {e : Encoder} (h : e.Ascii) (n : Nat) (label : List Char) :
    (label.foldl (Encoder.visit n) e).Ascii := by
  induction label generalizing e with
  | nil => exact h
  | cons c rest ih => exact ih (h.visit n c)

theorem Encoder.Ascii.run {e : Encoder} (h : e.Ascii) (label : List Char) (codes : List Nat)
    (n : Nat) : (e.run label n codes).Ascii := by
  induction codes generalizing e n with
  | nil => exact h
  | cons m rest ih =>
    exact ih (((h.count (e.delta + (m - n) * (e.placed + 1))).foldl m label).count _) (m + 1)

theorem encode_ascii (label : List Char) : ∀ c ∈ encode label, c.toNat < 0x80 := by
  intro c hc
  rcases List.mem_append.mp hc with hbasic | hwritten
  · split at hbasic
    · cases hbasic
    rcases List.mem_append.mp hbasic with hmem | hhyphen
    · simpa using (List.mem_filter.mp hmem).2
    · rw [List.mem_singleton.mp hhyphen]
      decide
  · exact Encoder.Ascii.run (by simp [Encoder.Ascii]) label _ _ c hwritten

/-- The ASCII characters of a label are written as they are. -/
theorem mem_encode {label : List Char} {c : Char} (hc : c ∈ label) (hascii : c.toNat < 0x80) :
    c ∈ encode label := by
  have hbasic : c ∈ label.filter (·.toNat < 0x80) :=
    List.mem_filter.mpr ⟨hc, by simpa using hascii⟩
  have hsome : (label.filter (·.toNat < 0x80)).isEmpty = false := by
    rw [List.isEmpty_eq_false_iff]
    exact List.ne_nil_of_mem hbasic
  unfold encode
  simp only [hsome, Bool.false_eq_true, if_false, List.mem_append]
  exact .inl (.inl hbasic)

end Encode

section Decode

theorem Decoder.mem_of_place? {d next : Decoder} {distance : Nat} {c : Char} (hc : c ∈ d.label)
    (hplace : d.place? distance = some next) : c ∈ next.label := by
  unfold Decoder.place? at hplace
  dsimp only at hplace
  split at hplace
  · rw [← Option.some.inj hplace]
    have hbound := Nat.lt_succ_iff.mp (Nat.mod_lt (d.index + distance) d.label.length.succ_pos)
    exact (List.mem_insertIdx hbound).mpr (.inr hc)
  · cases hplace

/-- Reading on puts characters in and takes none out. -/
theorem Decoder.mem_of_run? {d : Decoder} {sum weight place : Nat} {digits label : List Char}
    {c : Char} (hc : c ∈ d.label) (hrun : d.run? sum weight place digits = some label) :
    c ∈ label := by
  induction digits generalizing d sum weight place with
  | nil =>
    unfold Decoder.run? at hrun
    split at hrun
    · exact Option.some.inj hrun ▸ hc
    · cases hrun
  | cons digit rest ih =>
    unfold Decoder.run? at hrun
    split at hrun
    · cases hrun
    dsimp only at hrun
    split at hrun
    · split at hrun
      next next hnext => exact ih (mem_of_place? hc hnext) hrun
      next => cases hrun
    · exact ih hc hrun

/-- All that is read behind the last hyphen are digits. -/
theorem Decoder.digit_of_run? {d : Decoder} {sum weight place : Nat} {digits label : List Char}
    {c : Char} (hc : c ∈ digits) (hrun : d.run? sum weight place digits = some label) :
    (digitValue? c).isSome := by
  induction digits generalizing d sum weight place with
  | nil => cases hc
  | cons digit rest ih =>
    unfold Decoder.run? at hrun
    split at hrun
    · cases hrun
    next value hvalue =>
      rcases List.mem_cons.mp hc with rfl | hrest
      · rw [hvalue]
        rfl
      dsimp only at hrun
      split at hrun
      · split at hrun
        next => exact ih hrest hrun
        next => cases hrun
      · exact ih hrest hrun

theorem mem_splitAtLastHyphen {text : List Char} {c : Char} (hc : c ∈ text) (hhyphen : c ≠ '-') :
    c ∈ (splitAtLastHyphen text).1 ∨ c ∈ (splitAtLastHyphen text).2 := by
  unfold splitAtLastHyphen
  by_cases hsign : '-' ∈ text
  · obtain ⟨before, after, rfl, hafter⟩ := exists_split_at_last hsign
    dsimp only
    rw [takeWhile_reverse_split hafter, take_length_split]
    simpa [hhyphen] using hc
  · dsimp only
    rw [takeWhile_reverse_of_not_mem hsign]
    exact .inr hc

/-- A character that is no digit and no hyphen stays when a label is read. -/
theorem mem_of_decode? {text label : List Char} {c : Char} (hc : c ∈ text)
    (hdigit : digitValue? c = none) (hhyphen : c ≠ '-') (hdecode : decode? text = some label) :
    c ∈ label := by
  unfold decode? at hdecode
  dsimp only at hdecode
  split at hdecode
  · cases hdecode
  split at hdecode
  · rcases mem_splitAtLastHyphen hc hhyphen with hbasic | hdigits
    · exact Decoder.mem_of_run? hbasic hdecode
    · have hsome := Decoder.digit_of_run? hdigits hdecode
      rw [hdigit] at hsome
      cases hsome
  · cases hdecode

end Decode

end WaitingList.Punycode

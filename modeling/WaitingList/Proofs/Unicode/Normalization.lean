import WaitingList.Unicode.Normalization
import Mathlib.Data.List.Basic

namespace WaitingList.Unicode

/-- The space and the control characters of ASCII. -/
def IsGap (c : Char) : Prop := c.toNat ≤ 0x20 ∨ c.toNat = 0x7F

theorem IsGap.ascii {c : Char} (h : IsGap c) : c.toNat < 0x80 := by
  rcases h with h | h <;> omega

/-- What holds of the gaps one by one holds of every gap. -/
theorem IsGap.elim {P : Char → Prop} {c : Char} (h : IsGap c)
    (hcontrol : ∀ n < 0x21, P (Char.ofNat n)) (hdelete : P '\x7F') : P c := by
  rcases h with h | h
  · rw [← Char.ofNat_toNat c]
    exact hcontrol c.toNat (Nat.lt_succ_of_le h)
  · rw [← Char.ofNat_toNat c, h]
    exact hdelete

theorem IsGap.isBase {c : Char} (h : IsGap c) : isBase c = false :=
  h.elim (P := fun c => Unicode.isBase c = false) (by decide) (by decide)

variable {g : Char}

theorem mem_takeApart (hgap : IsGap g) (depth : Nat) {text : List Char} (hg : g ∈ text) :
    g ∈ takeApart depth text := by
  induction depth generalizing text with
  | zero => exact hg
  | succ depth ih =>
    have hparts : partsOf g = [g] := by rw [partsOf, if_pos hgap.ascii]
    exact ih (List.mem_flatMap.mpr ⟨g, hg, by rw [hparts]; exact List.mem_singleton_self g⟩)

theorem mem_insertMark {c d : Char} {text : List Char} :
    d ∈ insertMark c text ↔ d = c ∨ d ∈ text := by
  induction text with
  | nil => simp [insertMark]
  | cons e rest ih =>
    unfold insertMark
    split
    · rw [List.mem_cons, ih, List.mem_cons]
      tauto
    · simp

/-- Ordering marks moves characters and loses none. -/
theorem mem_orderMarks {c : Char} {text : List Char} (hc : c ∈ text) : c ∈ orderMarks text := by
  have hfold (done : List Char) (h : c ∈ done ∨ c ∈ text) :
      c ∈ text.foldl (fun done c => insertMark c done) done := by
    clear hc
    induction text generalizing done with
    | nil => simpa using h
    | cons d rest ih =>
      refine ih _ ?_
      rw [mem_insertMark]
      rcases h with hdone | hmem
      · exact .inl (.inr hdone)
      · exact (List.mem_cons.mp hmem).imp_left .inl
  exact List.mem_reverse.mpr (hfold [] (.inr hc))

theorem compose?_gap (hgap : IsGap g) (c : Char) : compose? g c = none ∧ compose? c g = none := by
  constructor
  · rw [compose?, if_pos (by simp [hgap.isBase])]
  · rw [compose?, if_pos (by simp [hgap.ascii])]

theorem mem_composeFrom (hgap : IsGap g) {base : Char} {marks text : List Char}
    (hg : g = base ∨ g ∈ marks ∨ g ∈ text) : g ∈ composeFrom base marks text := by
  induction text generalizing base marks with
  | nil => simpa [composeFrom] using hg
  | cons c rest ih =>
    unfold composeFrom
    dsimp only
    split
    next whole hwhole =>
      -- where two characters are put together, neither of them is a gap
      have hcomposed : compose? base c = some whole := by
        split at hwhole
        · cases hwhole
        · exact hwhole
      rcases hg with rfl | hmarks | hmem
      · rw [(compose?_gap hgap c).1] at hcomposed
        cases hcomposed
      · exact ih (.inr (.inl hmarks))
      · rcases List.mem_cons.mp hmem with rfl | hrest
        · rw [(compose?_gap hgap base).2] at hcomposed
          cases hcomposed
        · exact ih (.inr (.inr hrest))
    next =>
      split
      · simp only [List.mem_cons, List.mem_append, List.mem_reverse] at hg ⊢
        rcases hg with hbase | hmarks | hc | hrest
        · exact .inl hbase
        · exact .inr (.inl hmarks)
        · exact .inr (.inr (ih (.inl hc)))
        · exact .inr (.inr (ih (.inr (.inr hrest))))
      · refine ih ?_
        simp only [List.mem_cons] at hg ⊢
        tauto

theorem mem_compose (hgap : IsGap g) {text : List Char} (hg : g ∈ text) : g ∈ compose text := by
  induction text with
  | nil => cases hg
  | cons c rest ih =>
    unfold compose
    split
    · exact mem_composeFrom hgap ((List.mem_cons.mp hg).imp_right .inr)
    · exact List.mem_cons.mpr ((List.mem_cons.mp hg).imp_right ih)

/-- A gap of a text is a gap of its composed form. -/
theorem mem_normalize (hgap : IsGap g) {text : List Char} (hg : g ∈ text) : g ∈ normalize text :=
  mem_compose hgap (mem_orderMarks (mem_takeApart hgap 4 hg))

end WaitingList.Unicode

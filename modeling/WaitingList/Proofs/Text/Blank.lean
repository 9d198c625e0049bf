import WaitingList.Text.Blank

namespace WaitingList

/-- A blank or a control character. -/
def IsUnseen (c : Char) : Prop :=
  isBlankChar c = true ∨ c.toNat < 0x20 ∨ 0x7F ≤ c.toNat ∧ c.toNat ≤ 0x9F

instance : DecidablePred IsUnseen := fun c =>
  inferInstanceAs
    (Decidable (isBlankChar c = true ∨ c.toNat < 0x20 ∨ 0x7F ≤ c.toNat ∧ c.toNat ≤ 0x9F))

variable {c : Char}

theorem not_isUnseen_of_bounds (hlow : 0x20 < c.toNat) (hhigh : c.toNat < 0x7F) :
    ¬ IsUnseen c := by
  simp only [IsUnseen, isBlankChar, Bool.or_eq_true, Bool.and_eq_true, decide_eq_true_eq,
    beq_iff_eq]
  omega

theorem toNat_of_isAlphanum (h : c.isAlphanum = true) : 0x20 < c.toNat ∧ c.toNat < 0x7F := by
  delta Char.isAlphanum Char.isAlpha Char.isUpper Char.isLower Char.isDigit at h
  simp only [Bool.or_eq_true, Bool.and_eq_true, decide_eq_true_eq, UInt32.le_iff_toNat_le,
    Char.reduceVal, UInt32.reduceToNat] at h
  change 0x20 < c.val.toNat ∧ c.val.toNat < 0x7F
  omega

theorem not_isUnseen_of_isAlphanum (h : c.isAlphanum = true) : ¬ IsUnseen c :=
  not_isUnseen_of_bounds (toNat_of_isAlphanum h).1 (toNat_of_isAlphanum h).2

end WaitingList

import WaitingList.Unicode.Grapheme

namespace WaitingList.Unicode

theorem GraphemeKind.of_printable {c : Char} (hlow : 0x20 ≤ c.toNat) (hhigh : c.toNat < 0x7F) :
    GraphemeKind.of c = .other := by
  have hother (d : Char) (hd : d.toNat < 0x20) : c ≠ d := by
    rintro rfl
    omega
  have hascii : c.toNat < 0x80 := by omega
  have hcontrol : ¬ (c.toNat < 0x20 ∨ c.toNat = 0x7F) := by omega
  simp only [GraphemeKind.of, if_pos hascii, ofAscii, if_neg (hother '\r' (by decide)),
    if_neg (hother '\n' (by decide)), if_neg hcontrol]

/-- Behind an ordinary character an ordinary character begins a part of its own. -/
theorem GraphemeState.not_continuesWith_other {state : GraphemeState}
    (hlast : state.last = .other) : state.continuesWith .other = false := by
  simp [continuesWith, hlast, GraphemeKind.standsApart, GraphemeKind.attaches,
    GraphemeKind.syllabic]

theorem graphemeCountFrom_printable {text : List Char} {state : GraphemeState}
    (htext : ∀ c ∈ text, 0x20 ≤ c.toNat ∧ c.toNat < 0x7F) (hlast : state.last = .other) :
    graphemeCountFrom state text = text.length := by
  induction text generalizing state with
  | nil => rfl
  | cons c rest ih =>
    obtain ⟨hlow, hhigh⟩ := htext c List.mem_cons_self
    have hkind : GraphemeKind.of c = .other := GraphemeKind.of_printable hlow hhigh
    have hrest : graphemeCountFrom (state.next .other) rest = rest.length :=
      ih (fun d hd => htext d (List.mem_cons_of_mem c hd)) rfl
    simp only [graphemeCountFrom, hkind, GraphemeState.not_continuesWith_other hlast, hrest,
      Bool.false_eq_true, if_false, List.length_cons]
    omega

/-- A text of ASCII without control characters has as many parts as characters. -/
theorem graphemeCount_printable {text : List Char}
    (htext : ∀ c ∈ text, 0x20 ≤ c.toNat ∧ c.toNat < 0x7F) :
    graphemeCount text = text.length := by
  cases text with
  | nil => rfl
  | cons c rest =>
    obtain ⟨hlow, hhigh⟩ := htext c List.mem_cons_self
    have hrest : graphemeCountFrom (.start .other) rest = rest.length :=
      graphemeCountFrom_printable (fun d hd => htext d (List.mem_cons_of_mem c hd)) rfl
    simp only [graphemeCount, GraphemeKind.of_printable hlow hhigh, hrest, List.length_cons]
    omega

end WaitingList.Unicode

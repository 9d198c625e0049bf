import WaitingList.Proofs.Toml.Swap

namespace WaitingList.Toml

/-- Reads the value of a key and the end of its line. -/
def Draft.takeValue? (draft : Draft) (way : List String) (key : String) (text : List Char) :
    Option (Draft × List Char) := do
  let (value, rest) ← value? maxDepth (text.dropWhile isLineBlank)
  let rest ← endLine? rest
  some (⟨← addUnder draft.header way key value draft.root, draft.header⟩, rest)

/-- The beginning of a document that ends where the value of a key has to follow. -/
def AwaitsValue (head : List Char) (draft : Draft) (way : List String) (key : String) : Prop :=
  ∃ count < head.length, ∀ fuel rest,
    Draft.lines? (fuel + count + 1) ⟨[], []⟩ (dropByteOrderMark (head ++ rest)) =
      (draft.takeValue? way key rest).bind fun (next, rest) => Draft.lines? fuel next rest

section Fuel

variable {fuel : Nat} {draft : Draft} {text : List Char} {entries : Entries}

theorem lines?_succ (h : Draft.lines? fuel draft text = some entries) :
    Draft.lines? (fuel + 1) draft text = some entries := by
  induction fuel generalizing draft text with
  | zero => cases h
  | succ fuel ih =>
    have hbind {read : Option (Draft × List Char)}
        (h : (read.bind fun (next, rest) => Draft.lines? fuel next rest) = some entries) :
        (read.bind fun (next, rest) => Draft.lines? (fuel + 1) next rest) = some entries := by
      obtain ⟨next, hnext, h⟩ := Option.bind_eq_some_iff.mp h
      rw [hnext]
      exact ih h
    revert h
    rw [Draft.lines?, Draft.lines?]
    split
    · exact id
    · exact ih
    · exact ih
    · intro h
      obtain ⟨rest, hrest, h⟩ := Option.bind_eq_some_iff.mp h
      rw [hrest]
      exact ih h
    · exact hbind
    · exact hbind
    · exact hbind

/-- A document that is read with some fuel is read alike with more. -/
theorem lines?_of_le {more : Nat} (h : Draft.lines? fuel draft text = some entries)
    (hle : fuel ≤ more) : Draft.lines? more draft text = some entries := by
  induction hle with
  | refl => exact h
  | step _ ih => exact lines?_succ ih

end Fuel

section Places

variable {head tail : List Char} {draft : Draft} {way : List String} {key : String} {gap : Nat}
  {before after numeral : Numeral} {entries changed : Entries}

theorem dropByteOrderMark_append (hhead : head ≠ []) (rest : List Char) :
    dropByteOrderMark (head ++ rest) = dropByteOrderMark head ++ rest := by
  obtain ⟨c, more, rfl⟩ := List.exists_cons_of_ne_nil hhead
  unfold dropByteOrderMark
  split <;> split <;> simp_all

theorem length_dropByteOrderMark (head : List Char) :
    head.length ≤ (dropByteOrderMark head).length + 1 := by
  unfold dropByteOrderMark
  split <;> simp

/-- No blank stands in front of a number. -/
theorem dropWhile_text (numeral : Numeral) (tail : List Char) :
    (numeral.text gap ++ tail).dropWhile isLineBlank = numeral.text gap ++ tail := by
  refine ConnectionUrl.dropWhile_of_stops fun c hc => ?_
  cases numeral with
  | list ns =>
    obtain rfl := Option.some.inj hc
    rfl
  | one n =>
    obtain rfl | hdigit := Numeral.head_of_integerText hc
    · rfl
    · have hlow := (toNat_of_isAlphanum (c := c) (by simp [Char.isAlphanum, hdigit])).1
      rw [Bool.eq_false_iff, isLineBlank, ne_eq, Bool.or_eq_true, beq_iff_eq, beq_iff_eq]
      rintro (rfl | rfl) <;> exact absurd hlow (by decide)

theorem takeValue?_text (htail : EndsWord tail) :
    draft.takeValue? way key (numeral.text gap ++ tail) =
      if ∀ n ∈ numeral.integers, FitsWord n then
        (endLine? tail).bind fun rest =>
          (addUnder draft.header way key (numeralValue numeral) draft.root).bind fun root =>
            some (⟨root, draft.header⟩, rest)
      else none := by
  have hread := value?_text gap 78 numeral htail
  rw [Draft.takeValue?, dropWhile_text, maxDepth, hread]
  by_cases hfits : ∀ n ∈ numeral.integers, FitsWord n
  · rw [if_pos hfits, if_pos hfits]
    rfl
  · rw [if_neg hfits, if_neg hfits]
    rfl

/-- The document with a number in its place. -/
theorem parse?_of_awaits (gap : Nat) (h : AwaitsValue head draft way key) (htail : EndsWord tail) :
    ∃ fuel, ∀ numeral : Numeral, parse? (String.ofList (head ++ (numeral.text gap ++ tail))) =
      if ∀ n ∈ numeral.integers, FitsWord n then
        (endLine? tail).bind fun rest =>
          (addUnder draft.header way key (numeralValue numeral) draft.root).bind fun root =>
            Draft.lines? (fuel + (numeral.text gap).length) ⟨root, draft.header⟩ rest
      else none := by
  obtain ⟨count, hcount, hlines⟩ := h
  refine ⟨(dropByteOrderMark head).length + tail.length - count, fun numeral => ?_⟩
  have hhead : head ≠ [] := List.length_pos_iff.mp (Nat.zero_lt_of_lt hcount)
  have hmark := length_dropByteOrderMark head
  have hfuel : (dropByteOrderMark head ++ (numeral.text gap ++ tail)).length + 1 =
      (dropByteOrderMark head).length + tail.length - count + (numeral.text gap).length + count +
        1 := by
    simp only [List.length_append]
    omega
  rw [parse?, String.toList_ofList]
  rw [dropByteOrderMark_append hhead, hfuel, ← dropByteOrderMark_append hhead, hlines,
    takeValue?_text htail]
  split
  · simp only [Option.bind_assoc, Option.bind_some]
  · rfl

/-- A document with a number that does not fit is unreadable. -/
theorem fits_of_parse? (h : AwaitsValue head draft way key) (htail : EndsWord tail)
    (hparse : parse? (String.ofList (head ++ (numeral.text gap ++ tail))) = some entries) :
    ∀ n ∈ numeral.integers, FitsWord n := by
  obtain ⟨fuel, hdocument⟩ := parse?_of_awaits gap h htail
  rw [hdocument] at hparse
  by_contra hfits
  rw [if_neg hfits] at hparse
  cases hparse

/-- What a document with a number in its place is read in. -/
theorem exists_root_of_parse? {fuel : Nat} (h : (if ∀ n ∈ numeral.integers, FitsWord n then
      (endLine? tail).bind fun rest =>
        (addUnder draft.header way key (numeralValue numeral) draft.root).bind fun root =>
          Draft.lines? fuel ⟨root, draft.header⟩ rest
      else none) = some entries) : ∃ rest root, endLine? tail = some rest ∧
      addUnder draft.header way key (numeralValue numeral) draft.root = some root ∧
      Draft.lines? fuel ⟨root, draft.header⟩ rest = some entries := by
  obtain ⟨_, h⟩ := Option.ite_none_right_eq_some.mp h
  obtain ⟨rest, hrest, h⟩ := Option.bind_eq_some_iff.mp h
  obtain ⟨root, hroot, h⟩ := Option.bind_eq_some_iff.mp h
  exact ⟨rest, root, hrest, hroot, h⟩

/-- Documents with one number or another in the same place differ in that value alone. -/
theorem swapped_of_parse? (h : AwaitsValue head draft way key)
    (hclear : Clear (draft.header ++ way) draft.root) (htail : EndsWord tail)
    (hbefore : parse? (String.ofList (head ++ (before.text gap ++ tail))) = some entries)
    (hafter : parse? (String.ofList (head ++ (after.text gap ++ tail))) = some changed) :
    Swapped before after (draft.header ++ (way ++ [key])) entries changed := by
  obtain ⟨fuel, hdocument⟩ := parse?_of_awaits gap h htail
  rw [hdocument] at hbefore hafter
  obtain ⟨rest, root, hrest, hroot, hentries⟩ := exists_root_of_parse? hbefore
  obtain ⟨_, rootChanged, hrest', hrootChanged, hchanged⟩ := exists_root_of_parse? hafter
  obtain rfl := Option.some.inj (hrest.symm.trans hrest')
  have hroots := swapped_addUnder before after key hclear
  rw [hroot, hrootChanged] at hroots
  cases hroots with
  | some hroots =>
    have hmore := swapped_lines? (fuel + (before.text gap).length + (after.text gap).length)
      draft.header rest hroots
    rw [lines?_of_le hentries (by omega), lines?_of_le hchanged (by omega)] at hmore
    cases hmore with
    | some hsame => exact hsame

/-- A number that fits may stand in place of another one that is no longer. -/
theorem exists_parse? (h : AwaitsValue head draft way key)
    (hclear : Clear (draft.header ++ way) draft.root) (htail : EndsWord tail)
    (hbefore : parse? (String.ofList (head ++ (before.text gap ++ tail))) = some entries)
    (hfits : ∀ n ∈ after.integers, FitsWord n)
    (hlength : (before.text gap).length ≤ (after.text gap).length) :
    ∃ changed, parse? (String.ofList (head ++ (after.text gap ++ tail))) = some changed := by
  obtain ⟨fuel, hdocument⟩ := parse?_of_awaits gap h htail
  rw [hdocument] at hbefore
  obtain ⟨rest, root, hrest, hroot, hentries⟩ := exists_root_of_parse? hbefore
  have hroots := swapped_addUnder before after key hclear
  rw [hroot] at hroots
  rw [hdocument, if_pos hfits, hrest, Option.bind_some]
  generalize addUnder draft.header way key (numeralValue after) draft.root = added at hroots
  cases hroots with
  | some hroots =>
    have hmore := swapped_lines? (fuel + (after.text gap).length) draft.header rest hroots
    rw [lines?_of_le hentries (by omega)] at hmore
    rw [Option.bind_some]
    generalize Draft.lines? _ _ _ = read at hmore ⊢
    cases hmore with
    | some _ => exact ⟨_, rfl⟩

end Places

end WaitingList.Toml

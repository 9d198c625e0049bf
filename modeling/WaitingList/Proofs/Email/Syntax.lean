import WaitingList.Email.Syntax
import WaitingList.Proofs.DomainName.Ascii
import WaitingList.Proofs.Net.IpAddress
import WaitingList.Proofs.Text.Split

namespace WaitingList.EmailSyntax

section Documented

/-- A local part: 1 to 64 letters, digits and signs. What counts as a letter or digit is left
open. -/
structure LocalPart (isLetter : Char → Bool) (text : List Char) : Prop where
  nonempty : text ≠ []
  length : text.length ≤ 64
  chars : ∀ c ∈ text, isLetter c = true ∨ c ∈ localSigns

/-- A label of a host name: 1 to 63 letters, digits and hyphens, with no hyphen at either end. -/
structure HostLabel (isLetter : Char → Bool) (label : List Char) : Prop where
  nonempty : label ≠ []
  length : label.length ≤ 63
  chars : ∀ c ∈ label, isLetter c = true ∨ c = '-'
  first : label.head? ≠ some '-'
  last : label.getLast? ≠ some '-'

/-- Labels with dots between them. -/
def HostName (isLetter : Char → Bool) (name : List Char) : Prop :=
  ∀ label ∈ name.splitOn '.', HostLabel isLetter label

/-- A network address in one pair of brackets, with `before` in front of it. -/
def Literal (before text : List Char) : Prop :=
  ∃ inner, text = before ++ '[' :: (inner ++ [']']) ∧ IpAddress.isAddress inner = true

/-- A shape that a name has itself or in its ASCII form. -/
def InAscii (Shape : List Char → Prop) (name : List Char) : Prop :=
  Shape name ∨ ∃ ascii, DomainName.toAscii? name = some ascii ∧ Shape ascii

/-- A host name, or an address in brackets and nothing else. -/
def Bare (text : List Char) : Prop := HostName Char.isAlphanum text ∨ Literal [] text

/-- Something stands in front of an address in brackets that ends the text. -/
def Trailing (text : List Char) : Prop := ∃ before, before ≠ [] ∧ Literal before text

/-- A sign that folds to a letter is among the characters. -/
def Folds (text : List Char) : Prop := ∃ c ∈ text, foldsToLetter c = true

end Documented

section Letters

variable {p q : Char → Bool} {text : List Char}

theorem LocalPart.mono (h : LocalPart p text) (hletters : ∀ c ∈ text, p c = true → q c = true) :
    LocalPart q text where
  nonempty := h.nonempty
  length := h.length
  chars c hc := (h.chars c hc).imp_left (hletters c hc)

theorem HostLabel.mono (h : HostLabel p text) (hletters : ∀ c ∈ text, p c = true → q c = true) :
    HostLabel q text where
  nonempty := h.nonempty
  length := h.length
  chars c hc := (h.chars c hc).imp_left (hletters c hc)
  first := h.first
  last := h.last

theorem HostName.mono (h : HostName p text) (hletters : ∀ c ∈ text, p c = true → q c = true) :
    HostName q text :=
  fun label hlabel => (h label hlabel).mono fun c hc => hletters c (mem_of_mem_part hlabel hc)

theorem isLetterOrDigit_iff {c : Char} :
    isLetterOrDigit c = true ↔ c.isAlphanum = true ∨ foldsToLetter c = true :=
  Bool.or_eq_true_iff

theorem isLetterOrDigit_of_isAlphanum {c : Char} (h : c.isAlphanum = true) :
    isLetterOrDigit c = true :=
  isLetterOrDigit_iff.mpr (.inl h)

/-- Where nothing folds to a letter, a letter is one of ASCII. -/
theorem isAlphanum_of_not_folds (hfolds : ¬ Folds text) {c : Char} (hc : c ∈ text)
    (hletter : isLetterOrDigit c = true) : c.isAlphanum = true :=
  (isLetterOrDigit_iff.mp hletter).resolve_right fun hfold => hfolds ⟨c, hc, hfold⟩

theorem not_folds_of_ascii (hascii : ∀ c ∈ text, c.toNat < 0x80) : ¬ Folds text := by
  rintro ⟨c, hc, hfold⟩
  have hsmall := hascii c hc
  simp only [foldsToLetter, Bool.or_eq_true, beq_iff_eq] at hfold
  rcases hfold with rfl | rfl <;> exact absurd hsmall (by decide)

/-- What has a shape by the letters of the recogniser has it by those of ASCII, unless a sign that
folds to a letter takes part. -/
theorem shape_iff {S : (Char → Bool) → Prop}
    (hmono : ∀ {p q}, S p → (∀ c ∈ text, p c = true → q c = true) → S q) :
    S isLetterOrDigit ↔ S Char.isAlphanum ∨ S isLetterOrDigit ∧ Folds text := by
  constructor
  · intro h
    by_cases hfolds : Folds text
    · exact .inr ⟨h, hfolds⟩
    · exact .inl (hmono h fun c hc => isAlphanum_of_not_folds hfolds hc)
  · rintro (h | h)
    · exact hmono h fun c _ => isLetterOrDigit_of_isAlphanum
    · exact h.1

end Letters

section Recogniser

variable {text : List Char}

theorem isLocalPart_iff :
    (text.length ≤ maxLocalLength ∧ isLocalPart text = true) ↔ LocalPart isLetterOrDigit text := by
  simp only [isLocalPart, isLocalChar, Bool.and_eq_true, Bool.not_eq_true',
    List.isEmpty_eq_false_iff, List.all_eq_true, Bool.or_eq_true, List.contains_iff_mem]
  exact ⟨fun ⟨hlength, hnonempty, hchars⟩ => ⟨hnonempty, hlength, hchars⟩,
    fun h => ⟨h.length, h.nonempty, h.chars⟩⟩

theorem isLabel_iff {label : List Char} :
    isLabel label = true ↔ HostLabel isLetterOrDigit label := by
  simp only [isLabel, Bool.and_eq_true, Bool.not_eq_true', List.isEmpty_eq_false_iff,
    decide_eq_true_eq, List.all_eq_true, Bool.or_eq_true, beq_iff_eq, bne_iff_ne]
  exact ⟨fun ⟨⟨⟨⟨hnonempty, hlength⟩, hchars⟩, hfirst⟩, hlast⟩ =>
      ⟨hnonempty, hlength, hchars, hfirst, hlast⟩,
    fun h => ⟨⟨⟨⟨h.nonempty, h.length⟩, h.chars⟩, h.first⟩, h.last⟩⟩

theorem isHostName_iff : isHostName text = true ↔ HostName isLetterOrDigit text := by
  rw [isHostName, List.all_eq_true]
  exact forall₂_congr fun label _ => isLabel_iff

theorem bracketed?_eq_some_iff {inner : List Char} :
    bracketed? text = some inner ↔
      '[' ∉ inner ∧ ∃ before, text = before ++ '[' :: (inner ++ [']']) := by
  constructor
  · intro h
    unfold bracketed? at h
    split at h
    next rest hreverse =>
      have htext : text = rest.reverse ++ [']'] := by
        rw [← List.reverse_reverse text, hreverse, List.reverse_cons]
      split at h
      next hopen =>
        obtain ⟨before, after, hrest, hafter⟩ :=
          exists_split_at_last (List.mem_reverse.mpr (List.contains_iff_mem.mp hopen))
        have hback : rest = (before ++ '[' :: after).reverse := by
          rw [← hrest, List.reverse_reverse]
        rw [hback, takeWhile_reverse_split hafter] at h
        obtain rfl := Option.some.inj h
        exact ⟨hafter, before, by rw [htext, hrest, List.append_assoc, List.cons_append]⟩
      next => cases h
    next => cases h
  · rintro ⟨hinner, before, rfl⟩
    have hreverse : (before ++ '[' :: (inner ++ [']'])).reverse =
        ']' :: (before ++ '[' :: inner).reverse := by simp
    have hopen : (before ++ '[' :: inner).reverse.contains '[' = true := by simp
    simp only [bracketed?, hreverse, hopen, if_true, takeWhile_reverse_split hinner]

/-- A text that ends in an address in brackets has it behind something or nothing. -/
theorem endsInAddress_iff : endsInAddress text = true ↔ ∃ before, Literal before text := by
  rw [endsInAddress, Option.any_eq_true]
  constructor
  · rintro ⟨inner, hinner, haddress⟩
    obtain ⟨_, before, htext⟩ := bracketed?_eq_some_iff.mp hinner
    exact ⟨before, inner, htext, haddress⟩
  · rintro ⟨before, inner, htext, haddress⟩
    have hbracket : '[' ∉ inner := fun hmem =>
      absurd (IpAddress.isAddress_chars haddress '[' hmem)
        (by simp [IpAddress.IsAddressChar]; decide)
    exact ⟨inner, bracketed?_eq_some_iff.mpr ⟨hbracket, before, htext⟩, haddress⟩

theorem exists_literal_iff : (∃ before, Literal before text) ↔ Literal [] text ∨ Trailing text := by
  constructor
  · rintro ⟨before, hliteral⟩
    by_cases hbefore : before = []
    · exact .inl (hbefore ▸ hliteral)
    · exact .inr ⟨before, hbefore, hliteral⟩
  · rintro (hliteral | ⟨before, _, hliteral⟩)
    · exact ⟨[], hliteral⟩
    · exact ⟨before, hliteral⟩

theorem isPlainDomain_iff :
    isPlainDomain text = true ↔
      Bare text ∨ (HostName isLetterOrDigit text ∧ Folds text) ∨ Trailing text := by
  rw [isPlainDomain, Bool.or_eq_true, isHostName_iff, endsInAddress_iff, exists_literal_iff,
    shape_iff (S := fun p => HostName p text) HostName.mono, Bare]
  tauto

theorem isPlainDomain_ascii_iff (hascii : ∀ c ∈ text, c.toNat < 0x80) :
    isPlainDomain text = true ↔ Bare text ∨ Trailing text := by
  have hfolds := not_folds_of_ascii hascii
  rw [isPlainDomain_iff]
  tauto

/-- What the recogniser takes for a domain. -/
theorem isDomain_iff :
    isDomain text = true ↔
      InAscii Bare text ∨ (HostName isLetterOrDigit text ∧ Folds text) ∨ InAscii Trailing text := by
  have hforms : (DomainName.toAscii? text).any isPlainDomain = true ↔
      ∃ ascii, DomainName.toAscii? text = some ascii ∧ (Bare ascii ∨ Trailing ascii) := by
    rw [Option.any_eq_true]
    exact exists_congr fun ascii => and_congr_right fun hascii =>
      isPlainDomain_ascii_iff (DomainName.toAscii?_ascii hascii)
  simp only [isDomain, Bool.or_eq_true, isPlainDomain_iff, hforms, InAscii, and_or_left, exists_or]
  grind

theorem splitAtLastAt_eq_some_iff {localPart domain : List Char} :
    splitAtLastAt text = some (localPart, domain) ↔
      text = localPart ++ '@' :: domain ∧ '@' ∉ domain := by
  unfold splitAtLastAt
  constructor
  · intro h
    split at h
    next hsign =>
      obtain ⟨before, after, rfl, hafter⟩ := exists_split_at_last (List.contains_iff_mem.mp hsign)
      dsimp only at h
      rw [takeWhile_reverse_split hafter, take_length_split] at h
      cases h
      exact ⟨rfl, hafter⟩
    next => cases h
  · rintro ⟨rfl, hdomain⟩
    have hsign : (localPart ++ '@' :: domain).contains '@' = true := by simp
    rw [if_pos hsign]
    dsimp only
    rw [takeWhile_reverse_split hdomain, take_length_split]

/-- A text is an address by its parts before and after the last `@`. -/
theorem isAddress_iff :
    isAddress text = true ↔
      ∃ localPart domain, text = localPart ++ '@' :: domain ∧ '@' ∉ domain ∧
        domain.length ≤ maxDomainLength ∧ LocalPart isLetterOrDigit localPart ∧
        isDomain domain = true := by
  unfold isAddress
  constructor
  · intro h
    split at h
    next => cases h
    next localPart domain hsplit =>
      obtain ⟨htext, hsign⟩ := splitAtLastAt_eq_some_iff.mp hsplit
      simp only [Bool.and_eq_true, decide_eq_true_eq] at h
      obtain ⟨⟨⟨hlocal, hlength⟩, hchars⟩, hdomain⟩ := h
      exact ⟨localPart, domain, htext, hsign, hlength, isLocalPart_iff.mp ⟨hlocal, hchars⟩, hdomain⟩
  · rintro ⟨localPart, domain, htext, hsign, hlength, hlocal, hdomain⟩
    rw [splitAtLastAt_eq_some_iff.mpr ⟨htext, hsign⟩]
    obtain ⟨hshort, hchars⟩ := isLocalPart_iff.mpr hlocal
    simp only [Bool.and_eq_true, decide_eq_true_eq]
    exact ⟨⟨⟨hshort, hlength⟩, hchars⟩, hdomain⟩

end Recogniser

end WaitingList.EmailSyntax

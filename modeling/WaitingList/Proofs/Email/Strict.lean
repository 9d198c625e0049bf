import WaitingList.Proofs.Email.Address
import WaitingList.Proofs.Email.Syntax

namespace WaitingList

namespace EmailSyntax

variable {text : List Char}

theorem not_isUnseen_of_isLetterOrDigit {c : Char} (h : isLetterOrDigit c = true) :
    ¬ IsUnseen c := by
  rcases isLetterOrDigit_iff.mp h with halphanum | hfold
  · exact not_isUnseen_of_isAlphanum halphanum
  · simp only [foldsToLetter, Bool.or_eq_true, beq_iff_eq] at hfold
    rcases hfold with rfl | rfl <;> decide

theorem LocalPart.seen (h : LocalPart isLetterOrDigit text) : ∀ c ∈ text, ¬ IsUnseen c := by
  intro c hc
  rcases h.chars c hc with hletter | hsign
  · exact not_isUnseen_of_isLetterOrDigit hletter
  · have hall : localSigns.all (fun sign => ¬ IsUnseen sign) = true := by decide
    exact of_decide_eq_true (List.all_eq_true.mp hall c hsign)

theorem HostName.seen (h : HostName isLetterOrDigit text) : ∀ c ∈ text, ¬ IsUnseen c := by
  intro c hc
  rcases exists_part_of_mem '.' hc with rfl | ⟨label, hlabel, hmem⟩
  · decide
  · rcases (h label hlabel).chars c hmem with hletter | rfl
    · exact not_isUnseen_of_isLetterOrDigit hletter
    · decide

theorem Bare.seen (h : Bare text) : ∀ c ∈ text, ¬ IsUnseen c := by
  rcases h with hhost | ⟨inner, rfl, haddress⟩
  · exact HostName.seen (hhost.mono fun c _ => isLetterOrDigit_of_isAlphanum)
  · intro c hc
    simp only [List.nil_append, List.mem_cons, List.mem_append, List.not_mem_nil, or_false] at hc
    rcases hc with rfl | hinner | rfl
    · decide
    · exact (IpAddress.isAddress_chars haddress c hinner).seen
    · decide

/-- A domain of a documented shape is drawn in full, since the ASCII form of a name keeps a gap for
what is not drawn in the name. -/
theorem seen_of_inAscii_bare (h : InAscii Bare text) : ∀ c ∈ text, ¬ IsUnseen c := by
  rcases h with hbare | ⟨ascii, hascii, hbare⟩
  · exact hbare.seen
  · intro c hc hunseen
    obtain ⟨g, hg, hgap⟩ := DomainName.exists_gap_of_toAscii? hc hunseen hascii
    exact hbare.seen g hg (DomainName.isUnseen_of_isGap hgap)

end EmailSyntax

namespace EmailAddress

open EmailSyntax

/-- The addresses that the strict policy accepts. Within the bounds of every policy and of this one,
an address is accepted if and only if the part before its last `@` is a local part and the part
behind it a domain, both as documented, except that a sign that folds to a letter counts as one and
that text may stand in front of an address in brackets. Blanks and control characters come only in
such a text. -/
theorem parse_strict_iff (text : String) (address : EmailAddress) :
    parse .strict text = .ok address ↔
      address = ⟨text⟩ ∧ '\x00' ∉ text.toList ∧ (Utf8.encode text.toList).length ≤ 320 ∧
        Unicode.graphemeCount text.toList ≤ 256 ∧
        ∃ localPart domain, text.toList = localPart ++ '@' :: domain ∧ '@' ∉ domain ∧
          domain.length ≤ 255 ∧
          (LocalPart Char.isAlphanum localPart ∨
            LocalPart isLetterOrDigit localPart ∧ Folds localPart) ∧
          (InAscii Bare domain ∨ (HostName isLetterOrDigit domain ∧ Folds domain) ∨
            InAscii Trailing domain) ∧
          ∀ c ∈ text.toList, IsUnseen c → InAscii Trailing domain := by
  rw [parse_eq_ok_iff]
  refine and_congr_right fun _ => ⟨fun h => ?_, ?_⟩
  · obtain ⟨localPart, domain, htext, hsign, hlength, hlocal, hdomain⟩ :=
      isAddress_iff.mp (h.address rfl)
    refine ⟨h.nul, h.bytes, h.graphemes rfl, localPart, domain, htext, hsign, hlength,
      (shape_iff LocalPart.mono).mp hlocal, isDomain_iff.mp hdomain, ?_⟩
    intro c hc hunseen
    rw [htext, List.mem_append, List.mem_cons] at hc
    rcases hc with hc | rfl | hc
    · exact absurd hunseen (hlocal.seen c hc)
    · exact absurd hunseen (by decide)
    · rcases isDomain_iff.mp hdomain with hbare | hhost | htrailing
      · exact absurd hunseen (seen_of_inAscii_bare hbare c hc)
      · exact absurd hunseen (hhost.1.seen c hc)
      · exact htrailing
  · rintro ⟨hnul, hbytes, hgraphemes, localPart, domain, htext, hsign, hlength, hlocal, hdomain, _⟩
    have hat : '@' ∈ text.toList := by
      rw [htext]
      simp
    have haddress : isAddress text.toList = true :=
      isAddress_iff.mpr ⟨localPart, domain, htext, hsign, hlength,
        (shape_iff LocalPart.mono).mpr hlocal, isDomain_iff.mpr hdomain⟩
    refine ⟨?_, hat, hnul, hbytes, fun _ => hgraphemes, fun _ => haddress⟩
    rintro rfl
    cases hat

/-- The address in front of whose brackets a space stands is accepted, though its domain is none. -/
theorem strict_accepts_space_before_brackets :
    parse .strict "a@ [127.0.0.1]" = .ok ⟨"a@ [127.0.0.1]"⟩ ∧
      (∀ localPart domain, "a@ [127.0.0.1]".toList = localPart ++ '@' :: domain → '@' ∉ domain →
        ¬ InAscii Bare domain) ∧
      ∃ c ∈ "a@ [127.0.0.1]".toList, IsUnseen c := by
  refine ⟨by decide +kernel, ?_, ' ', by decide, by decide⟩
  intro localPart domain htext hsign hbare
  have hsplit := splitAtLastAt_eq_some_iff.mpr ⟨htext, hsign⟩
  have hparts : splitAtLastAt "a@ [127.0.0.1]".toList = some (['a'], " [127.0.0.1]".toList) := by
    decide
  obtain ⟨_, rfl⟩ := Prod.mk.inj (Option.some.inj (hparts.symm.trans hsplit))
  exact seen_of_inAscii_bare hbare ' ' (by decide) (by decide)

end EmailAddress

end WaitingList

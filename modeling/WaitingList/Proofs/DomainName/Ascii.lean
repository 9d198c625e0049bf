import WaitingList.DomainName.Ascii
import WaitingList.Proofs.DomainName.Punycode
import WaitingList.Proofs.Text.Blank
import WaitingList.Proofs.Text.Split
import WaitingList.Proofs.Unicode.Normalization

namespace WaitingList.DomainName

open Unicode

section Ascii

theorem writeLabel_ascii (label : List Char) : ∀ c ∈ writeLabel label, c.toNat < 0x80 := by
  intro c hc
  unfold writeLabel at hc
  split at hc
  next hall => simpa using List.all_eq_true.mp hall c hc
  next =>
    rcases List.mem_append.mp hc with hmark | hcode
    · have hall : punycodeMark.all (·.toNat < 0x80) = true := by decide
      simpa using List.all_eq_true.mp hall c hmark
    · exact Punycode.encode_ascii label c hcode

/-- The ASCII form of a name is ASCII. -/
theorem toAscii?_ascii {name ascii : List Char} (h : toAscii? name = some ascii) :
    ∀ c ∈ ascii, c.toNat < 0x80 := by
  obtain ⟨labels, _, h⟩ := Option.bind_eq_some_iff.mp h
  split at h
  · obtain rfl := Option.some.inj h
    intro c hc
    rcases exists_part_of_mem_intercalate hc with rfl | ⟨written, hwritten, hmem⟩
    · decide
    · obtain ⟨label, _, rfl⟩ := List.mem_map.mp hwritten
      exact writeLabel_ascii label c hmem
  · cases h

end Ascii

section Gap

theorem isUnseen_of_isGap {c : Char} (hgap : IsGap c) : IsUnseen c := by
  unfold IsGap at hgap
  simp only [IsUnseen, isBlankChar, Bool.or_eq_true, Bool.and_eq_true, beq_iff_eq,
    decide_eq_true_eq]
  omega

theorem isGap_of_unseen {c : Char} (hunseen : IsUnseen c) (hascii : c.toNat < 0x80) : IsGap c := by
  unfold IsUnseen isBlankChar at hunseen
  unfold IsGap
  simp only [Bool.or_eq_true, Bool.and_eq_true, beq_iff_eq, decide_eq_true_eq] at hunseen
  omega

/-- A blank or a control character becomes a gap, if it becomes anything. -/
theorem exists_gap_of_mapChar? {c : Char} {image : List Char} (hunseen : IsUnseen c)
    (himage : mapChar? c = some image) : ∃ g ∈ image, IsGap g := by
  unfold mapChar? at himage
  split at himage
  next hascii =>
    have hgap := isGap_of_unseen hunseen hascii
    have hlower : c.toLower = c :=
      hgap.elim (P := fun c => c.toLower = c) (by decide) (by decide)
    rw [hlower] at himage
    exact ⟨c, Option.some.inj himage ▸ List.mem_singleton_self c, hgap⟩
  next hascii =>
    split at himage
    · cases himage
    next hother =>
      have hblank : isBlankChar c = true := by
        rcases hunseen with hblank | hcontrol
        · exact hblank
        · simp only [Bool.or_eq_true, decide_eq_true_eq] at hother
          omega
      rw [if_pos hblank] at himage
      exact ⟨' ', Option.some.inj himage ▸ List.mem_singleton_self ' ', .inl (by decide)⟩

variable {g : Char} (hgap : IsGap g)

include hgap

theorem digitValue?_gap : Punycode.digitValue? g = none :=
  hgap.elim (P := fun c => Punycode.digitValue? c = none) (by decide) (by decide)

theorem gap_ne : g ≠ '-' ∧ g ≠ '.' ∧ g ∉ punycodeMark :=
  hgap.elim (P := fun c => c ≠ '-' ∧ c ≠ '.' ∧ c ∉ punycodeMark) (by decide) (by decide)

theorem mem_readLabel? {label read : List Char} (hg : g ∈ label)
    (hread : readLabel? label = some read) : g ∈ read := by
  unfold readLabel? at hread
  split at hread
  next hmark =>
    split at hread
    next found hfound =>
      split at hread
      · cases hread
      obtain rfl := Option.some.inj hread
      refine Punycode.mem_of_decode? ?_ (digitValue?_gap hgap) (gap_ne hgap).1 hfound
      obtain ⟨rest, rfl⟩ := List.isPrefixOf_iff_prefix.mp hmark
      exact (List.mem_append.mp hg).resolve_left (gap_ne hgap).2.2
    next => cases hread
  next => exact Option.some.inj hread ▸ hg

theorem mem_writeLabel {label : List Char} (hg : g ∈ label) : g ∈ writeLabel label := by
  unfold writeLabel
  split
  · exact hg
  · exact List.mem_append_right _ (Punycode.mem_encode hg hgap.ascii)

omit hgap in
/-- The ASCII form of a name with a blank or a control character has a gap. -/
theorem exists_gap_of_toAscii? {name ascii : List Char} {c : Char} (hc : c ∈ name)
    (hunseen : IsUnseen c) (h : toAscii? name = some ascii) : ∃ g ∈ ascii, IsGap g := by
  obtain ⟨labels, hlabels, h⟩ := Option.bind_eq_some_iff.mp h
  obtain ⟨mapped, hmapped, hlabels⟩ := Option.bind_eq_some_iff.mp hlabels
  obtain ⟨image, himages, himage⟩ := exists_of_mapM hmapped hc
  obtain ⟨g, hg, hgap⟩ := exists_gap_of_mapChar? hunseen himage
  refine ⟨g, ?_, hgap⟩
  have hnormal : g ∈ normalize mapped.flatten :=
    mem_normalize hgap (List.mem_flatten.mpr ⟨image, himages, hg⟩)
  obtain ⟨label, hlabel, hmem⟩ :=
    (exists_part_of_mem '.' hnormal).resolve_left (gap_ne hgap).2.1
  obtain ⟨read, hreads, hread⟩ := exists_of_mapM hlabels hlabel
  have hwritten := mem_writeLabel hgap (mem_readLabel? hgap hmem hread)
  split at h
  · obtain rfl := Option.some.inj h
    exact mem_intercalate_of_mem (List.mem_map_of_mem hreads) hwritten
  · cases h

end Gap

end WaitingList.DomainName

import WaitingList.Proofs.Email.Address
import WaitingList.Proofs.Email.Syntax
import WaitingList.Proofs.Unicode.Grapheme

namespace WaitingList

theorem Utf8.length_encode_of_ascii {text : List Char} (htext : ∀ c ∈ text, c.toNat < 0x80) :
    (encode text).length = text.length := by
  induction text with
  | nil => rfl
  | cons c rest ih =>
    have hrest := ih fun d hd => htext d (List.mem_cons_of_mem c hd)
    simp only [encode, List.flatMap_cons, encodeChar_of_ascii (htext c List.mem_cons_self),
      List.length_append, List.length_cons, List.length_nil] at hrest ⊢
    omega

namespace EmailSyntax

variable {text : List Char} {labels : List (List Char)}

theorem LocalPart.printable (h : LocalPart Char.isAlphanum text) :
    ∀ c ∈ text, 0x20 < c.toNat ∧ c.toNat < 0x7F := by
  intro c hc
  rcases h.chars c hc with hletter | hsign
  · exact toNat_of_isAlphanum hletter
  · have hsigns : localSigns.all (fun sign => 0x20 < sign.toNat ∧ sign.toNat < 0x7F) = true := by
      decide
    exact of_decide_eq_true (List.all_eq_true.mp hsigns c hsign)

theorem HostLabel.printable (h : HostLabel Char.isAlphanum text) :
    ∀ c ∈ text, 0x20 < c.toNat ∧ c.toNat < 0x7F := by
  intro c hc
  rcases h.chars c hc with hletter | rfl
  · exact toNat_of_isAlphanum hletter
  · decide

theorem HostLabel.not_mem (h : HostLabel Char.isAlphanum text) {sign : Char}
    (hletter : sign.isAlphanum = false) (hhyphen : sign ≠ '-') : sign ∉ text := by
  intro hsign
  rcases h.chars sign hsign with halphanum | hsame
  · exact absurd halphanum (Bool.eq_false_iff.mp hletter)
  · exact hhyphen hsame

section Labels

variable (hlabels : ∀ label ∈ labels, HostLabel Char.isAlphanum label)

include hlabels

theorem hostName_of_labels (hsome : labels ≠ []) :
    HostName Char.isAlphanum (['.'].intercalate labels) := by
  have hdots : ∀ label ∈ labels, '.' ∉ label := fun label hlabel =>
    (hlabels label hlabel).not_mem (by decide) (by decide)
  rw [HostName, List.splitOn_intercalate '.' hdots hsome]
  exact hlabels

theorem printable_of_labels :
    ∀ c ∈ ['.'].intercalate labels, 0x20 < c.toNat ∧ c.toNat < 0x7F := by
  intro c hc
  rcases exists_part_of_mem_intercalate hc with rfl | ⟨label, hlabel, hmem⟩
  · decide
  · exact (hlabels label hlabel).printable c hmem

theorem not_mem_of_labels {sign : Char} (hletter : sign.isAlphanum = false) (hhyphen : sign ≠ '-')
    (hdot : sign ≠ '.') : sign ∉ ['.'].intercalate labels := by
  intro hsign
  rcases exists_part_of_mem_intercalate hsign with hsame | ⟨label, hlabel, hmem⟩
  · exact hdot hsame
  · exact (hlabels label hlabel).not_mem hletter hhyphen hmem

end Labels

end EmailSyntax

namespace EmailAddress

open EmailSyntax

section Printable

variable {text : String} (hprintable : ∀ c ∈ text.toList, 0x20 < c.toNat ∧ c.toNat < 0x7F)

include hprintable

/-- Bytes, characters and perceived characters of a text of ASCII are the same in number. -/
theorem size_of_printable :
    text.utf8ByteSize = text.length ∧ Unicode.graphemeCount text.toList = text.length := by
  have hascii : ∀ c ∈ text.toList, c.toNat < 0x80 := fun c hc =>
    (hprintable c hc).2.trans (by decide)
  have hbounds : ∀ c ∈ text.toList, 0x20 ≤ c.toNat ∧ c.toNat < 0x7F := fun c hc =>
    ⟨(hprintable c hc).1.le, (hprintable c hc).2⟩
  rw [← Utf8.length_encode_toList, Utf8.length_encode_of_ascii hascii,
    Unicode.graphemeCount_printable hbounds, String.length_toList]
  exact ⟨rfl, rfl⟩

theorem storable_of_printable (hsign : '@' ∈ text.toList) (hshort : text.utf8ByteSize ≤ 320) :
    Storable .minimal text where
  nonempty := by
    rintro rfl
    cases hsign
  sign := hsign
  nul hnul := absurd (hprintable _ hnul).1 (by decide)
  bytes := (Utf8.length_encode_toList text).trans_le hshort
  graphemes := nofun
  address := nofun

end Printable

/-- What passes the minimal check and is too long for the strict one is refused for its length. -/
theorem parse_strict_of_tooLong {text : String} {address : EmailAddress}
    (hminimal : parse .minimal text = .ok address)
    (hlong : 256 < Unicode.graphemeCount text.toList) : parse .strict text = .error .tooLong := by
  have hfound : parseMinimal text = .ok address := hminimal
  have hcount : Unicode.graphemeCount text.toList > maxGraphemes := hlong
  simp only [parse, parseStrict, hfound, if_pos hcount]

/-- Every ordinary address of up to 256 characters, whose domain has up to 255, is accepted by both
policies as it stands. A longer one that still fits into 320 bytes is accepted by the minimal policy
as it stands, and is too long for the strict one, whatever the length of its domain. -/
theorem parse_ordinary (localPart : List Char) (labels : List (List Char))
    (hlocal : LocalPart Char.isAlphanum localPart) (hsome : labels ≠ [])
    (hlabels : ∀ label ∈ labels, HostLabel Char.isAlphanum label) :
    let domain := ['.'].intercalate labels
    let text := String.ofList (localPart ++ '@' :: domain)
    (domain.length ≤ 255 → text.length ≤ 256 → ∀ policy, parse policy text = .ok ⟨text⟩) ∧
      (256 < text.length → text.utf8ByteSize ≤ 320 →
        parse .minimal text = .ok ⟨text⟩ ∧ parse .strict text = .error .tooLong) := by
  intro domain text
  have hchars : text.toList = localPart ++ '@' :: domain := String.toList_ofList
  have hsign : '@' ∈ text.toList := by
    rw [hchars]
    exact List.mem_append_right _ List.mem_cons_self
  have hprintable : ∀ c ∈ text.toList, 0x20 < c.toNat ∧ c.toNat < 0x7F := by
    intro c hc
    rw [hchars, List.mem_append, List.mem_cons] at hc
    rcases hc with hc | rfl | hc
    · exact hlocal.printable c hc
    · decide
    · exact printable_of_labels hlabels c hc
  obtain ⟨hbytes, hgraphemes⟩ := size_of_printable hprintable
  constructor
  · intro hlength htotal policy
    have hlast : '@' ∉ domain := not_mem_of_labels hlabels (by decide) (by decide) (by decide)
    have hletters : LocalPart isLetterOrDigit localPart :=
      hlocal.mono fun c _ => isLetterOrDigit_of_isAlphanum
    have hdomain : isDomain domain = true :=
      isDomain_iff.mpr (.inl (.inl (.inl (hostName_of_labels hlabels hsome))))
    have haddress : isAddress text.toList = true :=
      isAddress_iff.mpr ⟨localPart, domain, hchars, hlast, hlength, hletters, hdomain⟩
    have h := storable_of_printable hprintable hsign (by omega)
    exact parse_eq_ok_iff.mpr ⟨rfl, h.nonempty, h.sign, h.nul, h.bytes, fun _ => by omega,
      fun _ => haddress⟩
  · intro hlong hshort
    have hminimal : parse .minimal text = .ok ⟨text⟩ :=
      parse_eq_ok_iff.mpr ⟨rfl, storable_of_printable hprintable hsign hshort⟩
    exact ⟨hminimal, parse_strict_of_tooLong hminimal (by omega)⟩

/-- The longest local part with three of the longest labels is just short enough for the strict
policy, and with four of them just short enough for the minimal one. -/
theorem parse_ordinary_longest :
    let localPart := List.replicate 64 'a'
    let label := List.replicate 63 'b'
    let text (labels : List (List Char)) :=
      String.ofList (localPart ++ '@' :: ['.'].intercalate labels)
    (text [label, label, label]).length = 256 ∧ (text [label, label, label, label]).length = 320 ∧
      parse .strict (text [label, label, label]) = .ok ⟨text [label, label, label]⟩ ∧
      parse .minimal (text [label, label, label, label]) =
        .ok ⟨text [label, label, label, label]⟩ ∧
      parse .strict (text [label, label, label, label]) = .error .tooLong := by
  intro localPart label text
  have hlocal : LocalPart Char.isAlphanum localPart :=
    ⟨by decide, by decide, fun c hc => .inl (by rw [List.eq_of_mem_replicate hc]; decide)⟩
  have hlabel : HostLabel Char.isAlphanum label :=
    ⟨by decide, by decide, fun c hc => .inl (by rw [List.eq_of_mem_replicate hc]; decide),
      by decide, by decide⟩
  have hthree := (parse_ordinary localPart [label, label, label] hlocal (by simp)
    (by simp [hlabel])).1
  have hfour := (parse_ordinary localPart [label, label, label, label] hlocal (by simp)
    (by simp [hlabel])).2
  have hlength (labels : List (List Char)) :
      (text labels).length = 65 + (['.'].intercalate labels).length := by
    simp only [text, localPart, String.length_ofList, List.length_append, List.length_cons,
      List.length_replicate]
    omega
  have hthird : (['.'].intercalate [label, label, label]).length = 191 := by
    simp only [label, List.intercalate_cons_cons, List.intercalate_singleton, List.length_append,
      List.length_cons, List.length_nil, List.length_replicate]
  have hfourth : (['.'].intercalate [label, label, label, label]).length = 255 := by
    rw [List.intercalate_cons_cons, List.length_append, hthird]
    simp only [label, List.length_append, List.length_cons, List.length_nil,
      List.length_replicate]
  have hshort : (text [label, label, label]).length = 256 := by rw [hlength, hthird]
  have hlong : (text [label, label, label, label]).length = 320 := by rw [hlength, hfourth]
  have hbytes : (text [label, label, label, label]).utf8ByteSize ≤ 320 := by decide +kernel
  have hover : 256 < (text [label, label, label, label]).length := by omega
  exact ⟨hshort, hlong, hthree (by omega) hshort.le .strict, hfour hover hbytes⟩

end EmailAddress

end WaitingList

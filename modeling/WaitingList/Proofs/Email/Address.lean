import WaitingList.Email.Address
import WaitingList.Proofs.Text.Utf8

namespace WaitingList

/-- The bytes of a string are as many as its size says. -/
theorem Utf8.length_encode_toList (text : String) :
    (encode text.toList).length = text.utf8ByteSize := by
  have hbytes : text.toByteArray = (encode text.toList).toByteArray := by
    conv => lhs; rw [← String.ofList_toList (s := text), String.toByteArray_ofList]
    rfl
  rw [← String.size_toByteArray, hbytes, List.size_toByteArray]

namespace EmailAddress

/-- What a policy asks of a text before it is stored. -/
structure Storable (policy : EmailPolicy) (text : String) : Prop where
  nonempty : text ≠ ""
  sign : '@' ∈ text.toList
  nul : '\x00' ∉ text.toList
  bytes : (Utf8.encode text.toList).length ≤ 320
  graphemes : policy = .strict → Unicode.graphemeCount text.toList ≤ 256
  address : policy = .strict → EmailSyntax.isAddress text.toList = true

private theorem parseMinimal_eq_ok_iff {text : String} {address : EmailAddress} :
    parseMinimal text = .ok address ↔
      address = ⟨text⟩ ∧ text ≠ "" ∧ '@' ∈ text.toList ∧ '\x00' ∉ text.toList ∧
        (Utf8.encode text.toList).length ≤ 320 := by
  rw [Utf8.length_encode_toList, parseMinimal]
  by_cases hempty : text = ""
  · simp [hempty]
  by_cases hsign : '@' ∈ text.toList
  · by_cases hnul : '\x00' ∈ text.toList
    · simp [hempty, hsign, hnul]
    · by_cases hlong : text.utf8ByteSize > maxBytes
      · have hnot : ¬ text.utf8ByteSize ≤ 320 := Nat.not_le.mpr hlong
        simp [hempty, hsign, hnul, hlong, hnot]
      · have hshort : text.utf8ByteSize ≤ 320 := Nat.not_lt.mp hlong
        simpa [hempty, hsign, hnul, hlong, hshort] using eq_comm
  · simp [hempty, hsign]

/-- A check passes exactly the texts that its policy allows to be stored, and passes them
unchanged. -/
theorem parse_eq_ok_iff {policy : EmailPolicy} {text : String} {address : EmailAddress} :
    parse policy text = .ok address ↔ address = ⟨text⟩ ∧ Storable policy text := by
  cases policy with
  | minimal =>
    rw [parse, parseMinimal_eq_ok_iff]
    constructor
    · rintro ⟨rfl, hnonempty, hsign, hnul, hbytes⟩
      exact ⟨rfl, hnonempty, hsign, hnul, hbytes, by simp, by simp⟩
    · rintro ⟨rfl, h⟩
      exact ⟨rfl, h.nonempty, h.sign, h.nul, h.bytes⟩
  | strict =>
    rw [parse, parseStrict]
    cases hminimal : parseMinimal text with
    | error fault =>
      have hnot (h : Storable .strict text) : False := by
        have hok := parseMinimal_eq_ok_iff.mpr
          ⟨rfl, h.nonempty, h.sign, h.nul, h.bytes⟩
        rw [hminimal] at hok
        cases hok
      simpa using fun _ h => hnot h
    | ok found =>
      obtain ⟨rfl, hnonempty, hsign, hnul, hbytes⟩ := parseMinimal_eq_ok_iff.mp hminimal
      by_cases hlong : Unicode.graphemeCount text.toList > maxGraphemes
      · have hnot (h : Storable .strict text) : False :=
          absurd (h.graphemes rfl) (Nat.not_le.mpr hlong)
        simpa [hlong] using fun _ h => hnot h
      by_cases haddress : EmailSyntax.isAddress text.toList = true
      · have hstorable : Storable .strict text :=
          ⟨hnonempty, hsign, hnul, hbytes, fun _ => Nat.not_lt.mp hlong, fun _ => haddress⟩
        simpa [hlong, haddress, hstorable] using eq_comm
      · have hnot (h : Storable .strict text) : False := haddress (h.address rfl)
        simpa [hlong, haddress] using fun _ h => hnot h

end EmailAddress

end WaitingList

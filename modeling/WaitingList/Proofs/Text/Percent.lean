import WaitingList.Proofs.Text.Utf8
import WaitingList.Text.Percent

namespace WaitingList

theorem Utf8.encode_append (left right : List Char) :
    encode (left ++ right) = encode left ++ encode right := List.flatMap_append

namespace Percent

/-- Whether a character stands for itself in every part of a URL. -/
def isUnreserved (c : Char) : Bool := c.isAlphanum || c == '-' || c == '.' || c == '_' || c == '~'

/-- A text with every byte encoded that does not belong to an unreserved character. -/
def encodeReserved (text : List Char) : List Char := encode (!isUnreserved ·) text

theorem hexValue?_hexDigit {n : Nat} (hn : n < 16) :
    (hexDigit n).toNat < 0x80 ∧
      hexValue? (UInt8.ofNat (hexDigit n).toNat) = some (UInt8.ofNat n) := by
  revert n
  decide

theorem isAlphanum_hexDigit {n : Nat} (hn : n < 16) : (hexDigit n).isAlphanum = true := by
  revert n
  decide

/-- A byte that is no sign is read as itself. -/
theorem decodeBytes_cons {b : UInt8} (hb : b ≠ sign) (rest : List UInt8) :
    decodeBytes (b :: rest) = b :: decodeBytes rest := by
  match rest with
  | [] => rfl
  | [_] => rfl
  | _ :: _ :: _ =>
    have hsign : (b == sign) = false := by simpa using hb
    simp only [decodeBytes, hsign]

theorem decodeBytes_append {bytes : List UInt8} (hbytes : ∀ b ∈ bytes, b ≠ sign)
    (rest : List UInt8) : decodeBytes (bytes ++ rest) = bytes ++ decodeBytes rest := by
  induction bytes with
  | nil => rfl
  | cons b bytes ih =>
    have htail := ih fun c hc => hbytes c (List.mem_cons_of_mem b hc)
    rw [List.cons_append, decodeBytes_cons (hbytes b List.mem_cons_self), htail,
      List.cons_append]

/-- An encoded byte is read as that byte. -/
theorem decodeBytes_encodeByte (b : UInt8) (rest : List UInt8) :
    decodeBytes (Utf8.encode (encodeByte b) ++ rest) = b :: decodeBytes rest := by
  have hb := b.toNat_lt
  obtain ⟨hhigh, hhighValue⟩ := hexValue?_hexDigit (n := b.toNat / 16) (by omega)
  obtain ⟨hlow, hlowValue⟩ := hexValue?_hexDigit (n := b.toNat % 16) (by omega)
  have hbytes : Utf8.encode (encodeByte b) =
      [sign, UInt8.ofNat (hexDigit (b.toNat / 16)).toNat,
        UInt8.ofNat (hexDigit (b.toNat % 16)).toNat] := by
    simp only [Utf8.encode, encodeByte, List.flatMap_cons, List.flatMap_nil,
      Utf8.encodeChar_of_ascii hhigh, Utf8.encodeChar_of_ascii hlow]
    rfl
  have hvalue : UInt8.ofNat (b.toNat / 16) * 16 + UInt8.ofNat (b.toNat % 16) = b := by
    apply UInt8.toNat_inj.mp
    simp only [UInt8.toNat_add, UInt8.toNat_mul, UInt8.toNat_ofNat', UInt8.reduceToNat]
    omega
  rw [hbytes, List.cons_append, List.cons_append, List.cons_append, List.nil_append, decodeBytes,
    hhighValue, hlowValue]
  simp only [beq_self_eq_true, hvalue]

theorem decodeBytes_encodeBytes (bytes rest : List UInt8) :
    decodeBytes (Utf8.encode (bytes.flatMap encodeByte) ++ rest) = bytes ++ decodeBytes rest := by
  induction bytes with
  | nil => rfl
  | cons b bytes ih =>
    rw [List.flatMap_cons, Utf8.encode_append, List.append_assoc, decodeBytes_encodeByte, ih,
      List.cons_append]

/-- No byte of another character is the sign. -/
theorem ne_sign_of_mem_encodeChar {c : Char} (hc : c ≠ '%') {b : UInt8}
    (hb : b ∈ String.utf8EncodeChar c) : b ≠ sign := by
  by_cases hshort : c.toNat < 0x80
  · rw [Utf8.encodeChar_of_ascii hshort, List.mem_singleton] at hb
    subst hb
    intro hsign
    have hnumber := congrArg UInt8.toNat hsign
    simp only [sign, UInt8.toNat_ofNat', UInt8.reduceToNat] at hnumber
    have hcode : c.toNat = '%'.toNat := by
      change c.toNat = 0x25
      omega
    exact hc (Char.toNat_inj.mp hcode)
  · obtain ⟨first, tail, hbytes, hfirst, htail⟩ := Utf8.encodeChar_of_long (Nat.not_lt.mp hshort)
    rw [hbytes] at hb
    rintro rfl
    cases hb with
    | head => exact absurd hfirst (by decide)
    | tail _ hmem => exact absurd (htail _ hmem).1 (by decide)

/-- A text with nothing in it to encode is left as it is. -/
theorem encode_eq_self {reserved : Char → Bool} {text : List Char}
    (h : ∀ c ∈ text, reserved c = false) : encode reserved text = text := by
  induction text with
  | nil => rfl
  | cons c text ih =>
    have htail := ih fun d hd => h d (List.mem_cons_of_mem c hd)
    rw [encode] at htail
    rw [encode, List.flatMap_cons, htail, if_neg (by simp [h c List.mem_cons_self])]
    rfl

/-- Reading undoes the encoding of a text, if the sign itself is encoded. -/
theorem decodeBytes_encode {reserved : Char → Bool} (hsign : reserved '%' = true)
    (text : List Char) : decodeBytes (Utf8.encode (encode reserved text)) = Utf8.encode text := by
  induction text with
  | nil => rfl
  | cons c text ih =>
    have hcons : encode reserved (c :: text) =
        (if reserved c then (String.utf8EncodeChar c).flatMap encodeByte else [c]) ++
          encode reserved text := List.flatMap_cons
    have htext : Utf8.encode (c :: text) = String.utf8EncodeChar c ++ Utf8.encode text :=
      List.flatMap_cons
    rw [hcons, Utf8.encode_append, htext]
    by_cases hc : reserved c = true
    · rw [if_pos hc, decodeBytes_encodeBytes, ih]
    · rw [if_neg hc]
      have hother : c ≠ '%' := by
        rintro rfl
        exact hc hsign
      have hbytes : Utf8.encode [c] = String.utf8EncodeChar c := by simp [Utf8.encode]
      rw [hbytes, decodeBytes_append (fun b hb => ne_sign_of_mem_encodeChar hother hb), ih]

theorem decode?_encodeReserved (text : List Char) :
    decode? (encodeReserved text) = some text :=
  Utf8.decode?_eq_some_iff.mpr (decodeBytes_encode (by decide) text)

/-- An encoded text is written in unreserved characters and signs. -/
theorem of_mem_encodeReserved {c : Char} {text : List Char} (hc : c ∈ encodeReserved text) :
    c = '%' ∨ isUnreserved c = true := by
  obtain ⟨d, _, hd⟩ := List.mem_flatMap.mp hc
  split at hd
  · obtain ⟨b, _, hb⟩ := List.mem_flatMap.mp hd
    have hlt := b.toNat_lt
    have hdigit (n : Nat) (hn : n < 16) : isUnreserved (hexDigit n) = true := by
      simp [isUnreserved, isAlphanum_hexDigit hn]
    simp only [encodeByte, List.mem_cons, List.not_mem_nil, or_false] at hb
    obtain rfl | rfl | rfl := hb
    · exact .inl rfl
    · exact .inr (hdigit _ (by omega))
    · exact .inr (hdigit _ (by omega))
  next hplain =>
    obtain rfl := List.mem_singleton.mp hd
    exact .inr (by simpa using hplain)

end Percent

end WaitingList

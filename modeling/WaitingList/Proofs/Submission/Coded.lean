import WaitingList.Proofs.Submission.Grammar
import WaitingList.Proofs.Text.Utf8

namespace WaitingList.Submission

open Grammar

/-- The rest of a text behind its opening quote, with its closing quote and the bytes that it
stands for. Bytes that are not escaped stand for themselves and need not be UTF-8. -/
inductive Coded : List UInt8 → List UInt8 → List UInt8 → Prop where
  | close {r : List UInt8} : Coded (quote :: r) [] r
  | plain {b : UInt8} {t r bytes : List UInt8} (hcontrol : 0x20 ≤ b) (hquote : b ≠ quote)
      (hbackslash : b ≠ backslash) (h : Coded t bytes r) : Coded (b :: t) (b :: bytes) r
  | short {b : UInt8} {c : Char} {t r bytes : List UInt8} (hshort : (b, c) ∈ shorts)
      (h : Coded t bytes r) : Coded (backslash :: b :: t) (String.utf8EncodeChar c ++ bytes) r
  | code {c : Char} {t u r bytes : List UInt8} (hcode : Code t c.toNat u) (h : Coded u bytes r) :
      Coded (backslash :: codeLetter :: t) (String.utf8EncodeChar c ++ bytes) r
  | pair {c : Char} {m n : Nat} {t u v r bytes : List UInt8}
      (hfirst : Code t m (backslash :: codeLetter :: u)) (hhigh : 0xD800 ≤ m ∧ m ≤ 0xDBFF)
      (hsecond : Code u n v) (hlow : 0xDC00 ≤ n ∧ n ≤ 0xDFFF)
      (hpair : c.toNat = 0x10000 + (m - 0xD800) * 0x400 + (n - 0xDC00)) (h : Coded v bytes r) :
      Coded (backslash :: codeLetter :: t) (String.utf8EncodeChar c ++ bytes) r

namespace Coded

variable {t r bytes : List UInt8} {text : List Char}

private theorem plain_of_mem_encodeChar {c : Char} {b : UInt8} (hcontrol : 0x20 ≤ c.toNat)
    (hquote : c ≠ '"') (hbackslash : c ≠ '\\') (hb : b ∈ String.utf8EncodeChar c) :
    0x20 ≤ b ∧ b ≠ quote ∧ b ≠ backslash := by
  by_cases hshort : c.toNat < 0x80
  · rw [Utf8.encodeChar_of_ascii hshort, List.mem_singleton] at hb
    have hcode : b.toNat = c.toNat := by
      rw [hb, UInt8.toNat_ofNat']
      omega
    refine ⟨?_, ?_, ?_⟩
    · rw [UInt8.le_iff_toNat_le, hcode]
      exact hcontrol
    · rintro rfl
      exact hquote (Char.toNat_inj.mp hcode.symm)
    · rintro rfl
      exact hbackslash (Char.toNat_inj.mp hcode.symm)
  · obtain ⟨first, rest, hbytes, hfirst, hrest⟩ := Utf8.encodeChar_of_long (Nat.not_lt.mp hshort)
    have hhigh : 0x80 ≤ b := by
      rw [hbytes] at hb
      rcases List.mem_cons.mp hb with rfl | hmem
      · exact UInt8.le_trans (by decide) (UInt8.le_of_lt hfirst)
      · exact (hrest b hmem).1
    refine ⟨UInt8.le_trans (by decide) hhigh, ?_, ?_⟩
    · rintro rfl
      exact absurd hhigh (by decide)
    · rintro rfl
      exact absurd hhigh (by decide)

private theorem append_of_plain {k : List UInt8}
    (hk : ∀ b ∈ k, 0x20 ≤ b ∧ b ≠ quote ∧ b ≠ backslash) (h : Coded t bytes r) :
    Coded (k ++ t) (k ++ bytes) r := by
  induction k with
  | nil => exact h
  | cons b k ih =>
    obtain ⟨⟨hcontrol, hquote, hbackslash⟩, hrest⟩ := List.forall_mem_cons.mp hk
    exact .plain hcontrol hquote hbackslash (ih hrest)

/-- What can be decoded can be skipped. -/
theorem skipped (h : Coded t bytes r) : Skipped t r := by
  induction h with
  | close => exact .close
  | plain hcontrol hquote hbackslash _ ih => exact .plain hcontrol hquote hbackslash ih
  | short hshort _ ih => exact .short hshort ih
  | code hcode _ ih => exact .code hcode ih
  | pair hfirst _ hsecond _ _ _ ih => exact .code hfirst (.code hsecond ih)

/-- A text stands for the bytes of its characters. -/
theorem of_chars (h : Chars t text r) : Coded t (Utf8.encode text) r := by
  induction h with
  | close => exact .close
  | plain hcontrol hquote hbackslash _ ih =>
    refine append_of_plain ?_ ih
    exact fun b hb => plain_of_mem_encodeChar hcontrol hquote hbackslash hb
  | short hshort _ ih => exact .short hshort ih
  | code hcode _ ih => exact .code hcode ih
  | pair hfirst hhigh hsecond hlow hpair _ ih => exact .pair hfirst hhigh hsecond hlow hpair ih

/-- A byte that needs no escape begins a character that needs none. -/
private theorem continued_of_plain {c : Char} {b : UInt8} {rest : List UInt8}
    (h : b :: bytes = String.utf8EncodeChar c ++ rest) (hcontrol : 0x20 ≤ b) (hquote : b ≠ quote)
    (hbackslash : b ≠ backslash) :
    ∃ k, String.utf8EncodeChar c = b :: k ∧ (∀ x ∈ k, Utf8.IsContinuation x) ∧
      0x20 ≤ c.toNat ∧ c ≠ '"' ∧ c ≠ '\\' := by
  by_cases hshort : c.toNat < 0x80
  · have hchar := Utf8.encodeChar_of_ascii hshort
    rw [hchar, List.singleton_append, List.cons.injEq] at h
    obtain ⟨rfl, _⟩ := h
    refine ⟨[], hchar, by simp, ?_, ?_, ?_⟩
    · rw [UInt8.le_iff_toNat_le, UInt8.toNat_ofNat'] at hcontrol
      simp only [UInt8.reduceToNat] at hcontrol
      omega
    · rintro rfl
      exact hquote rfl
    · rintro rfl
      exact hbackslash rfl
  · obtain ⟨first, k, hchar, _, hk⟩ := Utf8.encodeChar_of_long (Nat.not_lt.mp hshort)
    rw [hchar, List.cons_append, List.cons.injEq] at h
    obtain ⟨rfl, _⟩ := h
    refine ⟨k, hchar, hk, by omega, ?_, ?_⟩
    · rintro rfl
      exact hshort (by decide)
    · rintro rfl
      exact hshort (by decide)

/-- Bytes that go on with a character and then write a text are not escaped as far as they go on
with the character. The characters behind that are those of the text. -/
private theorem chars_of_continued (h : Coded t bytes r) {k : List UInt8} {text : List Char}
    (hk : ∀ b ∈ k, Utf8.IsContinuation b) (hbytes : bytes = k ++ Utf8.encode text) :
    ∃ u, t = k ++ u ∧ Chars u text r := by
  induction h generalizing k text with
  | close =>
    obtain ⟨rfl, htext⟩ := List.append_eq_nil_iff.mp hbytes.symm
    have hdecode : Utf8.decode? [] = some text := Utf8.decode?_eq_some_iff.mpr htext.symm
    obtain rfl : [] = text := Option.some.inj hdecode
    exact ⟨_, rfl, .close⟩
  | @plain b t r bytes hcontrol hquote hbackslash _ ih =>
    cases k with
    | cons x k =>
      obtain ⟨rfl, hrest⟩ := List.cons.inj hbytes
      obtain ⟨u, rfl, hchars⟩ := ih (fun x hx => hk x (List.mem_cons_of_mem _ hx)) hrest
      exact ⟨u, rfl, hchars⟩
    | nil =>
      -- The byte begins a character, whose other bytes are to come.
      obtain ⟨c, rest, rfl⟩ : ∃ c rest, text = c :: rest := by
        cases text with
        | nil => cases hbytes
        | cons c rest => exact ⟨c, rest, rfl⟩
      rw [List.nil_append, Utf8.encode, List.flatMap_cons] at hbytes
      obtain ⟨k, hchar, hk, hlow, hother, hother'⟩ :=
        continued_of_plain hbytes hcontrol hquote hbackslash
      rw [hchar, List.cons_append, List.cons.injEq] at hbytes
      obtain ⟨u, rfl, hchars⟩ := ih hk hbytes.2
      refine ⟨b :: (k ++ u), rfl, ?_⟩
      rw [← List.cons_append, ← hchar]
      exact .plain hlow hother hother' hchars
  | short hshort _ ih =>
    obtain ⟨rfl, rest, rfl, rfl⟩ := Utf8.encodeChar_append_eq hk hbytes
    obtain ⟨u, rfl, hchars⟩ := ih (by simp) (List.nil_append _).symm
    exact ⟨_, rfl, .short hshort hchars⟩
  | code hcode _ ih =>
    obtain ⟨rfl, rest, rfl, rfl⟩ := Utf8.encodeChar_append_eq hk hbytes
    obtain ⟨u, rfl, hchars⟩ := ih (by simp) (List.nil_append _).symm
    exact ⟨_, rfl, .code hcode hchars⟩
  | pair hfirst hhigh hsecond hlow hpair _ ih =>
    obtain ⟨rfl, rest, rfl, rfl⟩ := Utf8.encodeChar_append_eq hk hbytes
    obtain ⟨u, rfl, hchars⟩ := ih (by simp) (List.nil_append _).symm
    exact ⟨_, rfl, .pair hfirst hhigh hsecond hlow hpair hchars⟩

/-- The bytes that a text stands for are those of its characters. -/
theorem encode_iff : Coded t (Utf8.encode text) r ↔ Chars t text r := by
  refine ⟨fun h => ?_, of_chars⟩
  obtain ⟨u, rfl, hchars⟩ := chars_of_continued h (by simp) (List.nil_append _).symm
  exact hchars

end Coded

end WaitingList.Submission

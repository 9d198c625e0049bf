import WaitingList.Text.Utf8
import Mathlib.Algebra.Order.Group.Nat

namespace WaitingList.Utf8

/-- The byte that carries the last six bits of a number. -/
def continuation (n : Nat) : UInt8 := UInt8.ofNat (n % 0x40 + 0x80)

theorem toNat_charOfNat {n : Nat} (h : n.isValidChar) : (Char.ofNat n).toNat = n := by
  rw [Char.ofNat, dif_pos h]
  rfl

/-- The bytes that carry the last sixes of bits of a number. -/
def tail : Nat → Nat → List UInt8
  | 0, _ => []
  | k + 1, n => continuation (n / 64 ^ k) :: tail k n

theorem toNat_continuation (n : Nat) : (continuation n).toNat = n % 0x40 + 0x80 := by
  simp only [continuation, UInt8.toNat_ofNat']
  omega

theorem continuation_of_range {b : UInt8} (hlow : 0x80 ≤ b) (hhigh : b ≤ 0xBF) (n : Nat) :
    continuation (n * 64 + (b.toNat - 0x80)) = b := by
  rw [UInt8.le_iff_toNat_le] at hlow hhigh
  apply UInt8.toNat_inj.mp
  rw [toNat_continuation]
  simp only [UInt8.reduceToNat] at hlow hhigh
  omega

theorem div_of_range {b : UInt8} (hhigh : b ≤ 0xBF) (n : Nat) :
    (n * 64 + (b.toNat - 0x80)) / 64 = n := by
  rw [UInt8.le_iff_toNat_le] at hhigh
  simp only [UInt8.reduceToNat] at hhigh
  omega

/-- A pending character that a number can still complete. -/
structure Pending.Awaits (p : Pending) (k n : Nat) : Prop where
  owed : p.owed = k + 1
  bits : n / 64 ^ (k + 1) = p.bits
  low : p.low ≤ continuation (n / 64 ^ k)
  high : continuation (n / 64 ^ k) ≤ p.high

private theorem div_pow_succ (n k : Nat) :
    n / 64 ^ (k + 1) * 64 + n / 64 ^ k % 64 = n / 64 ^ k := by
  rw [Nat.pow_succ, ← Nat.div_div_eq_div_mul]
  omega

/-- The step of a byte that a pending character awaits. -/
theorem Pending.Awaits.next_eq {p : Pending} {k n : Nat} (h : p.Awaits k n) :
    p.next (continuation (n / 64 ^ k)) =
      if k = 0 then .done (Char.ofNat n) else .more ⟨n / 64 ^ k, k, 0x80, 0xBF⟩ := by
  have hbits : p.bits * 64 + ((continuation (n / 64 ^ k)).toNat - 0x80) = n / 64 ^ k := by
    have hdiv := div_pow_succ n k
    rw [h.bits] at hdiv
    rw [toNat_continuation]
    omega
  rw [Pending.next, if_pos ⟨h.low, h.high⟩, hbits, h.owed]
  cases k with
  | zero => simp
  | succ k => simp

/-- The bytes of a number complete a character that awaits it. -/
theorem decodeOnto_tail {p : Pending} {k n : Nat} (h : p.Awaits k n) (done : List Char)
    (rest : List UInt8) :
    decodeOnto done (some p) (tail (k + 1) n ++ rest) =
      decodeOnto (Char.ofNat n :: done) none rest := by
  induction k generalizing p with
  | zero =>
    rw [tail, List.cons_append, decodeOnto, step, h.next_eq]
    rfl
  | succ k ih =>
    rw [tail, List.cons_append, decodeOnto, step, h.next_eq]
    apply ih
    refine ⟨rfl, rfl, ?_, ?_⟩ <;>
      rw [UInt8.le_iff_toNat_le, toNat_continuation] <;> simp only [UInt8.reduceToNat] <;> omega

/-- Whatever completes a pending character is the bytes of a number that it awaits. -/
theorem tail_of_decodeOnto {p : Pending} {k : Nat} {done text : List Char} {bytes : List UInt8}
    (howed : p.owed = k + 1) (hlow : 0x80 ≤ p.low) (hhigh : p.high ≤ 0xBF)
    (h : decodeOnto done (some p) bytes = some text) :
    ∃ n rest, p.Awaits k n ∧ bytes = tail (k + 1) n ++ rest ∧
      decodeOnto (Char.ofNat n :: done) none rest = some text := by
  induction k generalizing p bytes with
  | zero =>
    cases bytes with
    | nil => simp [decodeOnto] at h
    | cons b rest =>
      by_cases hrange : p.low ≤ b ∧ b ≤ p.high
      · have hb := continuation_of_range (UInt8.le_trans hlow hrange.1)
          (UInt8.le_trans hrange.2 hhigh) p.bits
        have hdiv := div_of_range (UInt8.le_trans hrange.2 hhigh) p.bits
        simp only [decodeOnto, step, Pending.next, hrange, and_self, if_true, howed] at h
        refine ⟨p.bits * 64 + (b.toNat - 0x80), rest, ⟨howed, by simpa using hdiv, ?_, ?_⟩, ?_, h⟩
        · simpa [hb] using hrange.1
        · simpa [hb] using hrange.2
        · simp [tail, hb]
      · simp [decodeOnto, step, Pending.next, hrange] at h
  | succ k ih =>
    cases bytes with
    | nil => simp [decodeOnto] at h
    | cons b rest =>
      by_cases hrange : p.low ≤ b ∧ b ≤ p.high
      · have hb := continuation_of_range (UInt8.le_trans hlow hrange.1)
          (UInt8.le_trans hrange.2 hhigh) p.bits
        have hdiv := div_of_range (UInt8.le_trans hrange.2 hhigh) p.bits
        have hmore : ¬ k + 1 + 1 ≤ 1 := by omega
        simp only [decodeOnto, step, Pending.next, hrange, and_self, if_true, howed, hmore,
          if_false] at h
        obtain ⟨n, rest, hawaits, rfl, hrest⟩ := ih rfl (UInt8.le_refl _) (UInt8.le_refl _) h
        have hbits : n / 64 ^ (k + 1) = p.bits * 64 + (b.toNat - 0x80) := hawaits.bits
        refine ⟨n, rest, ⟨howed, ?_, ?_, ?_⟩, ?_, hrest⟩
        · rw [Nat.pow_succ, ← Nat.div_div_eq_div_mul, hbits, hdiv]
        · simpa [hbits, hb] using hrange.1
        · simpa [hbits, hb] using hrange.2
        · change _ = continuation (n / 64 ^ (k + 1)) :: (tail (k + 1) n ++ rest)
          rw [hbits, hb]
      · simp [decodeOnto, step, Pending.next, hrange] at h

/-- A byte that leaves a character pending tells how many bytes are owed. The range of the next
one keeps out what is written too long, surrogates, and numbers beyond the last character. -/
theorem first_eq_more {b : UInt8} {p : Pending} (h : first b = .more p) :
    b.toNat = p.bits + 0xC0 ∧ 2 ≤ p.bits ∧ p.bits < 0x20 ∧ p.owed = 1 ∧
        p.low.toNat = 0x80 ∧ p.high.toNat = 0xBF ∨
      b.toNat = p.bits + 0xE0 ∧ p.bits < 0x10 ∧ p.owed = 2 ∧
        p.low.toNat = (if p.bits = 0 then 0xA0 else 0x80) ∧
        p.high.toNat = (if p.bits = 0xD then 0x9F else 0xBF) ∨
      b.toNat = p.bits + 0xF0 ∧ p.bits < 5 ∧ p.owed = 3 ∧
        p.low.toNat = (if p.bits = 0 then 0x90 else 0x80) ∧
        p.high.toNat = (if p.bits = 4 then 0x8F else 0xBF) := by
  simp only [first] at h
  split at h
  · cases h
  split at h
  · cases h
  split at h
  · obtain rfl := Step.more.inj h
    refine .inl ⟨?_, ?_, ?_, rfl, rfl, rfl⟩ <;> dsimp only <;> omega
  split at h
  · obtain rfl := Step.more.inj h
    refine .inr (.inl ⟨?_, ?_, rfl, ?_, ?_⟩)
    · dsimp only
      omega
    · dsimp only
      omega
    · exact (apply_ite UInt8.toNat ..).trans (if_congr (by dsimp only; omega) rfl rfl)
    · exact (apply_ite UInt8.toNat ..).trans (if_congr (by dsimp only; omega) rfl rfl)
  split at h
  · obtain rfl := Step.more.inj h
    refine .inr (.inr ⟨?_, ?_, rfl, ?_, ?_⟩)
    · dsimp only
      omega
    · dsimp only
      omega
    · exact (apply_ite UInt8.toNat ..).trans (if_congr (by dsimp only; omega) rfl rfl)
    · exact (apply_ite UInt8.toNat ..).trans (if_congr (by dsimp only; omega) rfl rfl)
  · cases h

/-- A character beyond ASCII is written as a byte that leaves it pending, and the bytes of its
number. -/
theorem encodeChar_of_awaits {b : UInt8} {p : Pending} {k n : Nat} (hfirst : first b = .more p)
    (h : p.Awaits k n) : String.utf8EncodeChar (Char.ofNat n) = b :: tail (k + 1) n := by
  obtain ⟨howed, hbits, hlow, hhigh⟩ := h
  rw [UInt8.le_iff_toNat_le, toNat_continuation] at hlow hhigh
  rcases first_eq_more hfirst with ⟨hb, h1, h2, h3, h4, h5⟩ | ⟨hb, h2, h3, h4, h5⟩ |
    ⟨hb, h2, h3, h4, h5⟩
  · obtain rfl : k = 0 := by omega
    simp only [Nat.pow_zero, Nat.div_one, Nat.zero_add, Nat.pow_one] at hbits hlow hhigh
    have hn : (Char.ofNat n).val.toNat = n := toNat_charOfNat (.inl (by omega))
    simp only [String.utf8EncodeChar, hn, tail, Nat.pow_zero, Nat.div_one]
    rw [if_neg (by omega), if_pos (by omega)]
    congr 1
    apply UInt8.toNat_inj.mp
    simp only [UInt8.toNat_ofNat']
    omega
  · obtain rfl : k = 1 := by omega
    simp only [Nat.reduceAdd, Nat.reducePow] at hbits hlow hhigh
    have hvalid : n.isValidChar := by
      split at h4 <;> split at h5 <;> (unfold Nat.isValidChar; omega)
    have hlong : 0x800 ≤ n := by
      split at h4 <;> omega
    have hn : (Char.ofNat n).val.toNat = n := toNat_charOfNat hvalid
    simp only [String.utf8EncodeChar, hn, tail, Nat.pow_zero, Nat.div_one, Nat.reducePow]
    rw [if_neg (by omega), if_neg (by omega), if_pos (by omega)]
    congr 1
    apply UInt8.toNat_inj.mp
    simp only [UInt8.toNat_ofNat']
    omega
  · obtain rfl : k = 2 := by omega
    simp only [Nat.reduceAdd, Nat.reducePow] at hbits hlow hhigh
    have hlong : 0x10000 ≤ n := by
      split at h4 <;> omega
    have hshort : n < 0x110000 := by
      split at h5 <;> omega
    have hn : (Char.ofNat n).val.toNat = n := toNat_charOfNat (.inr ⟨by omega, hshort⟩)
    simp only [String.utf8EncodeChar, hn, tail, Nat.pow_zero, Nat.div_one, Nat.reducePow]
    rw [if_neg (by omega), if_neg (by omega), if_neg (by omega)]
    congr 1
    apply UInt8.toNat_inj.mp
    simp only [UInt8.toNat_ofNat']
    omega

/-- Every character beyond ASCII is awaited by what its first byte leaves pending. -/
theorem exists_awaits_of_char (c : Char) (hlong : 0x80 ≤ c.toNat) :
    ∃ b p k, first b = .more p ∧ p.Awaits k c.toNat := by
  have hvalid : c.toNat < 0xD800 ∨ 0xDFFF < c.toNat ∧ c.toNat < 0x110000 := c.valid
  generalize c.toNat = n at hlong hvalid
  have hlead (m : Nat) (hm : m < 256) : (UInt8.ofNat m).toNat = m := by
    simp only [UInt8.toNat_ofNat']
    omega
  by_cases htwo : n < 0x800
  · refine ⟨UInt8.ofNat (n / 64 + 0xC0), ⟨n / 64, 1, 0x80, 0xBF⟩, 0, ?_, rfl, by simp, ?_, ?_⟩
    · simp only [first, hlead (n / 64 + 0xC0) (by omega)]
      rw [if_neg (by omega), if_neg (by omega), if_pos (by omega), Nat.add_sub_cancel]
    all_goals
      rw [UInt8.le_iff_toNat_le, toNat_continuation]
      simp only [UInt8.reduceToNat]
      omega
  by_cases hthree : n < 0x10000
  · refine ⟨UInt8.ofNat (n / 4096 + 0xE0),
      ⟨n / 4096, 2, if n / 4096 = 0 then 0xA0 else 0x80, if n / 4096 = 0xD then 0x9F else 0xBF⟩,
      1, ?_, rfl, rfl, ?_, ?_⟩
    · simp only [first, hlead (n / 4096 + 0xE0) (by omega)]
      rw [if_neg (by omega), if_neg (by omega), if_neg (by omega), if_pos (by omega),
        Nat.add_sub_cancel]
      simp
    all_goals
      rw [UInt8.le_iff_toNat_le, toNat_continuation, Nat.pow_one]
      dsimp only
      split <;> simp only [UInt8.reduceToNat] <;> omega
  · refine ⟨UInt8.ofNat (n / 262144 + 0xF0),
      ⟨n / 262144, 3, if n / 262144 = 0 then 0x90 else 0x80,
        if n / 262144 = 4 then 0x8F else 0xBF⟩,
      2, ?_, rfl, rfl, ?_, ?_⟩
    · simp only [first, hlead (n / 262144 + 0xF0) (by omega)]
      rw [if_neg (by omega), if_neg (by omega), if_neg (by omega), if_neg (by omega),
        if_pos (by omega), Nat.add_sub_cancel]
      simp
    all_goals
      rw [UInt8.le_iff_toNat_le, toNat_continuation, show (64 : Nat) ^ 2 = 4096 from rfl]
      dsimp only
      split <;> simp only [UInt8.reduceToNat] <;> omega

/-- A character of ASCII is written as the byte of its number. -/
theorem encodeChar_of_ascii {c : Char} (hshort : c.toNat < 0x80) :
    String.utf8EncodeChar c = [UInt8.ofNat c.toNat] := by
  have hle : c.val.toNat ≤ 0x7F := Nat.le_of_lt_succ hshort
  rw [String.utf8EncodeChar, if_pos hle]
  rfl

/-- A byte that is read as a character by itself is one of ASCII, and its number. -/
theorem first_eq_done_iff {b : UInt8} {c : Char} :
    first b = .done c ↔ c.toNat < 0x80 ∧ b = UInt8.ofNat c.toNat := by
  simp only [first]
  constructor
  · intro h
    split at h
    next hshort =>
      obtain rfl := Step.done.inj h
      have hn : (Char.ofNat b.toNat).toNat = b.toNat := toNat_charOfNat (.inl (by omega))
      exact ⟨by omega, by rw [hn, UInt8.ofNat_toNat]⟩
    all_goals (repeat' split at h) <;> cases h
  · rintro ⟨hshort, rfl⟩
    have hn : (UInt8.ofNat c.toNat).toNat = c.toNat := by
      simp only [UInt8.toNat_ofNat']
      omega
    rw [hn, if_pos hshort, Char.ofNat_toNat]

/-- The bytes of a character are read as that character, whatever follows them. -/
theorem decodeOnto_encodeChar (done : List Char) (c : Char) (rest : List UInt8) :
    decodeOnto done none (String.utf8EncodeChar c ++ rest) = decodeOnto (c :: done) none rest := by
  by_cases hshort : c.toNat < 0x80
  · rw [encodeChar_of_ascii hshort, List.cons_append, decodeOnto, step,
      first_eq_done_iff.mpr ⟨hshort, rfl⟩]
    rfl
  · obtain ⟨b, p, k, hfirst, hawaits⟩ := exists_awaits_of_char c (by omega)
    have hbytes := encodeChar_of_awaits hfirst hawaits
    rw [Char.ofNat_toNat] at hbytes
    rw [hbytes, List.cons_append, decodeOnto, step, hfirst]
    simpa only [Char.ofNat_toNat] using decodeOnto_tail hawaits done rest

/-- Reading that succeeds has read the bytes of one character first. -/
theorem exists_encodeChar_of_decodeOnto {done text : List Char} {b : UInt8} {bytes : List UInt8}
    (h : decodeOnto done none (b :: bytes) = some text) :
    ∃ c rest, b :: bytes = String.utf8EncodeChar c ++ rest ∧
      decodeOnto (c :: done) none rest = some text := by
  rw [decodeOnto, step] at h
  cases hfirst : first b with
  | bad => simp [hfirst] at h
  | done c =>
    rw [hfirst] at h
    obtain ⟨hshort, rfl⟩ := first_eq_done_iff.mp hfirst
    exact ⟨c, bytes, by rw [encodeChar_of_ascii hshort, List.cons_append, List.nil_append], h⟩
  | more p =>
    rw [hfirst] at h
    have hranges : (∃ k, p.owed = k + 1) ∧ 0x80 ≤ p.low ∧ p.high ≤ 0xBF := by
      rw [UInt8.le_iff_toNat_le, UInt8.le_iff_toNat_le]
      simp only [UInt8.reduceToNat]
      rcases first_eq_more hfirst with ⟨_, _, _, howed, hlow, hhigh⟩ | ⟨_, _, howed, hlow, hhigh⟩ |
        ⟨_, _, howed, hlow, hhigh⟩
      · exact ⟨⟨0, howed⟩, by omega, by omega⟩
      · exact ⟨⟨1, howed⟩, by split at hlow <;> omega, by split at hhigh <;> omega⟩
      · exact ⟨⟨2, howed⟩, by split at hlow <;> omega, by split at hhigh <;> omega⟩
    obtain ⟨⟨k, howed⟩, hlow, hhigh⟩ := hranges
    obtain ⟨n, rest, hawaits, rfl, hrest⟩ := tail_of_decodeOnto howed hlow hhigh h
    refine ⟨Char.ofNat n, rest, ?_, hrest⟩
    rw [encodeChar_of_awaits hfirst hawaits, List.cons_append]

/-- A byte that can only stand inside a character. -/
def IsContinuation (b : UInt8) : Prop := 0x80 ≤ b ∧ b ≤ 0xBF

theorem isContinuation_of_mem_tail {b : UInt8} {k n : Nat} (hb : b ∈ tail k n) :
    IsContinuation b := by
  induction k with
  | zero => cases hb
  | succ k ih =>
    rcases List.mem_cons.mp hb with rfl | hrest
    · constructor <;> rw [UInt8.le_iff_toNat_le, toNat_continuation] <;>
        simp only [UInt8.reduceToNat] <;> omega
    · exact ih hrest

/-- A character beyond ASCII is written as a byte that cannot stand elsewhere and bytes that
continue it. -/
theorem encodeChar_of_long {c : Char} (hlong : 0x80 ≤ c.toNat) :
    ∃ b k, String.utf8EncodeChar c = b :: k ∧ 0xBF < b ∧ ∀ x ∈ k, IsContinuation x := by
  obtain ⟨b, p, k, hfirst, hawaits⟩ := exists_awaits_of_char c hlong
  have hbytes := encodeChar_of_awaits hfirst hawaits
  rw [Char.ofNat_toNat] at hbytes
  refine ⟨b, tail (k + 1) c.toNat, hbytes, ?_, fun x hx => isContinuation_of_mem_tail hx⟩
  rw [UInt8.lt_iff_toNat_lt]
  simp only [UInt8.reduceToNat]
  rcases first_eq_more hfirst with h | h | h <;> omega

private theorem decodeOnto_encode (done text : List Char) :
    decodeOnto done none (encode text) = some (done.reverse ++ text) := by
  induction text generalizing done with
  | nil => simp [encode, decodeOnto]
  | cons c rest ih =>
    rw [encode, List.flatMap_cons, decodeOnto_encodeChar]
    simpa [encode] using ih (c :: done)

private theorem encode_of_decodeOnto {done text : List Char} {bytes : List UInt8}
    (h : decodeOnto done none bytes = some text) :
    ∃ suffix, text = done.reverse ++ suffix ∧ bytes = encode suffix := by
  induction hlength : bytes.length using Nat.strong_induction_on generalizing done bytes with
  | _ length ih =>
    cases bytes with
    | nil =>
      simp only [decodeOnto, Option.isNone_none, if_true, Option.some.injEq] at h
      exact ⟨[], by simp [h], rfl⟩
    | cons b bytes =>
      obtain ⟨c, rest, hbytes, hrest⟩ := exists_encodeChar_of_decodeOnto h
      have hshorter : rest.length < length := by
        have hsize := congrArg List.length hbytes
        have hpos := c.utf8Size_pos
        simp only [List.length_append, String.length_utf8EncodeChar] at hsize
        omega
      obtain ⟨suffix, rfl, rfl⟩ := ih rest.length hshorter hrest rfl
      exact ⟨c :: suffix, by simp, by simpa [encode] using hbytes⟩

/-- Reading accepts exactly what texts are written as, and undoes the writing. -/
theorem decode?_eq_some_iff {bytes : List UInt8} {text : List Char} :
    decode? bytes = some text ↔ bytes = encode text := by
  constructor
  · intro h
    obtain ⟨suffix, rfl, rfl⟩ := encode_of_decodeOnto h
    rfl
  · rintro rfl
    exact decodeOnto_encode [] text

theorem decodeLossyOnto_of_decodeOnto {done text : List Char} {pending : Option Pending}
    {bytes : List UInt8} (h : decodeOnto done pending bytes = some text) :
    decodeLossyOnto done pending bytes = text := by
  induction bytes generalizing done pending with
  | nil =>
    obtain ⟨hnone, hdone⟩ := Option.ite_none_right_eq_some.mp h
    rw [decodeLossyOnto, if_pos hnone]
    exact Option.some.inj hdone
  | cons b rest ih =>
    rw [decodeOnto] at h
    rw [decodeLossyOnto]
    cases hstep : step pending b with
    | done c =>
      rw [hstep] at h
      exact ih h
    | more p =>
      rw [hstep] at h
      exact ih h
    | bad =>
      rw [hstep] at h
      cases h

/-- Reading that marks what is no text leaves a text as it is. -/
theorem decodeLossy_encode (text : List Char) : decodeLossy (encode text) = text :=
  decodeLossyOnto_of_decodeOnto (decode?_eq_some_iff.mpr rfl)

/-- The bytes of a character begin the bytes of a text only where the text has that character. -/
theorem encodeChar_append_eq {c : Char} {bytes k : List UInt8} {text : List Char}
    (hk : ∀ b ∈ k, IsContinuation b) (h : String.utf8EncodeChar c ++ bytes = k ++ encode text) :
    k = [] ∧ ∃ rest, text = c :: rest ∧ bytes = encode rest := by
  obtain rfl : k = [] := by
    cases k with
    | nil => rfl
    | cons b k =>
      obtain ⟨hlow, hhigh⟩ := hk b List.mem_cons_self
      by_cases hshort : c.toNat < 0x80
      · rw [encodeChar_of_ascii hshort, List.cons_append, List.cons_append,
          List.cons.injEq] at h
        rw [UInt8.le_iff_toNat_le, ← h.1, UInt8.toNat_ofNat'] at hlow
        simp only [UInt8.reduceToNat] at hlow
        omega
      · obtain ⟨first, rest, hbytes, hfirst, _⟩ := encodeChar_of_long (Nat.not_lt.mp hshort)
        rw [hbytes, List.cons_append, List.cons_append, List.cons.injEq] at h
        exact absurd (h.1 ▸ hhigh) (UInt8.not_le.mpr hfirst)
  refine ⟨rfl, ?_⟩
  have hdecode : decodeOnto [] none (String.utf8EncodeChar c ++ bytes) = some text :=
    decode?_eq_some_iff.mpr h
  rw [decodeOnto_encodeChar] at hdecode
  obtain ⟨rest, rfl, rfl⟩ := encode_of_decodeOnto hdecode
  exact ⟨rest, rfl, rfl⟩

/-- The bytes that a string is made of are read as that string and no other. -/
theorem text?_eq_some_iff {bytes : List UInt8} {text : String} :
    text? bytes = some text ↔ bytes = encode text.toList := by
  rw [text?, Option.map_eq_some_iff]
  constructor
  · rintro ⟨chars, hchars, rfl⟩
    simpa using decode?_eq_some_iff.mp hchars
  · intro h
    exact ⟨text.toList, decode?_eq_some_iff.mpr h, by simp⟩

/-- Bytes below 0x80 are characters of their own. -/
theorem exists_text_of_ascii {bytes : List UInt8} (h : ∀ b ∈ bytes, b < 0x80) :
    ∃ text : List Char, bytes = encode text := by
  induction bytes with
  | nil => exact ⟨[], rfl⟩
  | cons b bytes ih =>
    obtain ⟨hb, hrest⟩ := List.forall_mem_cons.mp h
    obtain ⟨text, rfl⟩ := ih hrest
    have hshort : b.toNat < 0x80 := UInt8.lt_iff_toNat_lt.mp hb
    have hchar : (Char.ofNat b.toNat).toNat = b.toNat := toNat_charOfNat (.inl (by omega))
    have hbyte : String.utf8EncodeChar (Char.ofNat b.toNat) = [b] := by
      rw [encodeChar_of_ascii (hchar.trans_lt hshort), hchar, UInt8.ofNat_toNat]
    exact ⟨Char.ofNat b.toNat :: text, (congrArg (· ++ encode text) hbyte).symm⟩

end WaitingList.Utf8

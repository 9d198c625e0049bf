import WaitingList.Proofs.Submission.Coded

namespace WaitingList.Submission

open Grammar

/-- The rest of a code of which digits have been read, last digit first. A machine that has too
many still reads one more before it judges them. -/
def CodeRemainder (digits t : List UInt8) (n : Nat) (r : List UInt8) : Prop :=
  ∃ more, t = more ++ r ∧ more.length = 3 - digits.length + 1 ∧
    code? (more.reverse ++ digits) = some n

namespace CodeRemainder

variable {digits t r : List UInt8} {b : UInt8} {n : Nat}

theorem cons (hshort : digits.length < 3) (h : CodeRemainder (b :: digits) t n r) :
    CodeRemainder digits (b :: t) n r := by
  obtain ⟨more, rfl, hlength, hcode⟩ := h
  refine ⟨b :: more, rfl, ?_, by simpa using hcode⟩
  rw [List.length_cons] at hlength ⊢
  omega

theorem last (hlong : ¬ digits.length < 3) (hcode : code? (b :: digits) = some n) :
    CodeRemainder digits (b :: t) n t := by
  refine ⟨[b], rfl, ?_, by simpa using hcode⟩
  rw [List.length_singleton]
  omega

end CodeRemainder

theorem hexDigit_iff {b : UInt8} {n : Nat} :
    HexDigit b n ↔ ∃ v, Percent.hexValue? b = some v ∧ v.toNat = n := by
  constructor
  · rintro (⟨hlow, hhigh⟩ | ⟨hlow, hhigh⟩ | ⟨hlow, hhigh⟩)
    · refine ⟨b - 0x30, if_pos ⟨hlow, hhigh⟩, ?_⟩
      rw [UInt8.toNat_sub_of_le _ _ hlow]
      rfl
    · refine ⟨b - 0x37, ?_, ?_⟩
      · unfold Percent.hexValue?
        grind
      · rw [UInt8.toNat_sub_of_le _ _ (UInt8.le_trans (by decide) hlow)]
        rw [UInt8.le_iff_toNat_le] at hlow
        simp only [UInt8.reduceToNat] at hlow ⊢
        omega
    · refine ⟨b - 0x57, ?_, ?_⟩
      · unfold Percent.hexValue?
        grind
      · rw [UInt8.toNat_sub_of_le _ _ (UInt8.le_trans (by decide) hlow)]
        rw [UInt8.le_iff_toNat_le] at hlow
        simp only [UInt8.reduceToNat] at hlow ⊢
        omega
  · rintro ⟨v, hv, rfl⟩
    unfold Percent.hexValue? at hv
    split at hv
    next hrange =>
      obtain rfl := Option.some.inj hv
      rw [UInt8.toNat_sub_of_le _ _ hrange.1]
      exact .decimal hrange
    split at hv
    next hrange =>
      obtain rfl := Option.some.inj hv
      rw [UInt8.toNat_sub_of_le _ _ (UInt8.le_trans (by decide) hrange.1)]
      have hlow := UInt8.le_iff_toNat_le.mp hrange.1
      have hvalue : b.toNat - 0x37 = b.toNat - 0x41 + 10 := by
        simp only [UInt8.reduceToNat] at hlow
        omega
      exact hvalue ▸ .upper hrange
    split at hv
    next hrange =>
      obtain rfl := Option.some.inj hv
      rw [UInt8.toNat_sub_of_le _ _ (UInt8.le_trans (by decide) hrange.1)]
      have hlow := UInt8.le_iff_toNat_le.mp hrange.1
      have hvalue : b.toNat - 0x57 = b.toNat - 0x61 + 10 := by
        simp only [UInt8.reduceToNat] at hlow
        omega
      exact hvalue ▸ .lower hrange
    next => cases hv

/-- The codes of the grammar are those that four digits are judged to give. -/
theorem code_iff {t r : List UInt8} {n : Nat} :
    Code t n r ↔ ∃ a b c d, t = a :: b :: c :: d :: r ∧ code? [d, c, b, a] = some n := by
  constructor
  · rintro ⟨ha, hb, hc, hd⟩
    obtain ⟨v, hv, rfl⟩ := hexDigit_iff.mp ha
    obtain ⟨w, hw, rfl⟩ := hexDigit_iff.mp hb
    obtain ⟨x, hx, rfl⟩ := hexDigit_iff.mp hc
    obtain ⟨y, hy, rfl⟩ := hexDigit_iff.mp hd
    refine ⟨_, _, _, _, rfl, ?_⟩
    simp only [code?, List.reverse_cons, List.reverse_nil, List.nil_append, List.cons_append,
      List.mapM_cons, List.mapM_nil, hv, hw, hx, hy, Option.bind_eq_bind, Option.bind_some,
      Option.pure_def, Option.map_some, List.foldl_cons, List.foldl_nil, Option.some.injEq]
    omega
  · rintro ⟨a, b, c, d, rfl, hcode⟩
    simp only [code?, List.reverse_cons, List.reverse_nil, List.nil_append, List.cons_append,
      List.mapM_cons, List.mapM_nil, Option.map_eq_some_iff, Option.bind_eq_bind,
      Option.bind_eq_some_iff, Option.pure_def, Option.some.injEq] at hcode
    obtain ⟨_, ⟨v, ha, _, ⟨w, hb, _, ⟨x, hc, _, ⟨y, hd, _, rfl, rfl⟩, rfl⟩, rfl⟩, rfl⟩, rfl⟩ :=
      hcode
    have hmk : Code (a :: b :: c :: d :: r) _ r := .mk (hexDigit_iff.mpr ⟨v, ha, rfl⟩)
      (hexDigit_iff.mpr ⟨w, hb, rfl⟩) (hexDigit_iff.mpr ⟨x, hc, rfl⟩)
      (hexDigit_iff.mpr ⟨y, hd, rfl⟩)
    convert hmk using 1
    simp only [List.foldl_cons, List.foldl_nil]
    omega

theorem Grammar.Code.lt {t r : List UInt8} {n : Nat} (h : Code t n r) : n < 0x10000 := by
  have hdigit {b : UInt8} {v : Nat} (hb : HexDigit b v) : v < 0x10 := by
    rcases hb with ⟨_, hhigh⟩ | ⟨_, hhigh⟩ | ⟨_, hhigh⟩ <;>
      (rw [UInt8.le_iff_toNat_le] at hhigh; simp only [UInt8.reduceToNat] at hhigh; omega)
  obtain ⟨ha, hb, hc, hd⟩ := h
  have hv := hdigit ha
  have hw := hdigit hb
  have hx := hdigit hc
  have hy := hdigit hd
  omega

/-- A short escape stands for a character of ASCII, and so for one byte. -/
theorem shortEscape?_of_mem {b : UInt8} {c : Char} (hshort : (b, c) ∈ shorts) :
    ∃ e, b ≠ codeLetter ∧ shortEscape? b = some e ∧ String.utf8EncodeChar c = [e] := by
  simp only [shorts, List.mem_cons, Prod.mk.injEq, List.not_mem_nil, or_false] at hshort
  rcases hshort with ⟨rfl, rfl⟩ | ⟨rfl, rfl⟩ | ⟨rfl, rfl⟩ | ⟨rfl, rfl⟩ | ⟨rfl, rfl⟩ | ⟨rfl, rfl⟩ |
    ⟨rfl, rfl⟩ | ⟨rfl, rfl⟩ <;> exact ⟨_, by decide, rfl, rfl⟩

/-- The machine knows no other short escapes. -/
theorem mem_shorts_of_shortEscape? {b e : UInt8} (hescape : shortEscape? b = some e) :
    ∃ c, (b, c) ∈ shorts ∧ String.utf8EncodeChar c = [e] := by
  have hletter : b ∈ shorts.map Prod.fst := by
    unfold shortEscape? quote backslash at hescape
    simp only [shorts, List.map_cons, List.map_nil]
    grind
  obtain ⟨⟨b, c⟩, hmem, rfl⟩ := List.mem_map.mp hletter
  obtain ⟨e', _, hescape', hbytes⟩ := shortEscape?_of_mem hmem
  rw [hescape, Option.some.injEq] at hescape'
  exact ⟨c, hmem, hescape' ▸ hbytes⟩

theorem CodeRemainder.code {t r : List UInt8} {n : Nat} (h : CodeRemainder [] t n r) :
    Code t n r := by
  obtain ⟨more, rfl, hlength, hcode⟩ := h
  match more, hlength with
  | [a, b, c, d], _ => exact code_iff.mpr ⟨a, b, c, d, rfl, by simpa using hcode⟩

namespace IgnoredPhase

/-- A text that is ignored, of which the last byte read has a phase, ends before what is left. -/
inductive Closes : IgnoredPhase → List UInt8 → List UInt8 → Prop where
  | closed {phase : IgnoredPhase} {b : UInt8} {r : List UInt8} (hnext : phase.next b = .closed) :
      Closes phase (b :: r) r
  | more {phase phase' : IgnoredPhase} {b : UInt8} {t r : List UInt8}
      (hnext : phase.next b = .more phase') (h : Closes phase' t r) : Closes phase (b :: t) r

/-- What the grammar lets follow in a phase. -/
def Remainder (t r : List UInt8) : IgnoredPhase → Prop
  | plain => Skipped t r
  | escape => Skipped (backslash :: t) r
  | code digits => ∃ n u, CodeRemainder digits t n u ∧ Skipped u r

variable {b : UInt8} {t r : List UInt8} {phase phase' : IgnoredPhase}

private theorem eq_of_closed (hnext : phase.next b = .closed) : phase = plain ∧ b = quote := by
  cases phase with
  | plain =>
    simp only [next] at hnext
    split at hnext
    next hquote => exact ⟨rfl, eq_of_beq hquote⟩
    · split at hnext
      · cases hnext
      · split at hnext <;> cases hnext
  | escape =>
    simp only [next] at hnext
    repeat' split at hnext
    all_goals cases hnext
  | code digits =>
    simp only [next] at hnext
    repeat' split at hnext
    all_goals cases hnext

/-- What can follow behind a byte can follow before it, if the byte is read. -/
theorem remainder_of_next (hnext : phase.next b = .more phase') (h : phase'.Remainder t r) :
    phase.Remainder (b :: t) r := by
  cases phase with
  | plain =>
    simp only [next] at hnext
    split at hnext
    · cases hnext
    next hquote =>
      split at hnext
      next hbackslash =>
        obtain rfl := IgnoredStep.more.inj hnext
        obtain rfl := eq_of_beq hbackslash
        exact h
      next hbackslash =>
        split at hnext
        · cases hnext
        next hcontrol =>
          obtain rfl := IgnoredStep.more.inj hnext
          exact .plain (UInt8.not_lt.mp hcontrol) (by simpa using hquote)
            (by simpa using hbackslash) h
  | escape =>
    simp only [next] at hnext
    split at hnext
    next hletter =>
      obtain rfl := IgnoredStep.more.inj hnext
      obtain rfl := eq_of_beq hletter
      obtain ⟨n, u, hcode, hskipped⟩ := h
      exact .code hcode.code hskipped
    next =>
      split at hnext
      next hshort =>
        obtain rfl := IgnoredStep.more.inj hnext
        obtain ⟨e, hescape⟩ := Option.isSome_iff_exists.mp hshort
        obtain ⟨c, hmem, _⟩ := mem_shorts_of_shortEscape? hescape
        exact .short hmem h
      next => cases hnext
  | code digits =>
    simp only [next] at hnext
    split at hnext
    next hshort =>
      obtain rfl := IgnoredStep.more.inj hnext
      obtain ⟨n, u, hcode, hskipped⟩ := h
      exact ⟨n, u, hcode.cons hshort, hskipped⟩
    next hlong =>
      split at hnext
      next hjudged =>
        obtain rfl := IgnoredStep.more.inj hnext
        obtain ⟨n, hcode⟩ := Option.isSome_iff_exists.mp hjudged
        exact ⟨n, t, .last hlong hcode, h⟩
      next => cases hnext

/-- The machine reads nothing that the grammar does not let follow. -/
theorem Closes.remainder (h : phase.Closes t r) : phase.Remainder t r := by
  induction h with
  | closed hnext =>
    obtain ⟨rfl, rfl⟩ := eq_of_closed hnext
    exact Skipped.close
  | more hnext _ ih => exact remainder_of_next hnext ih

private theorem closes_of_code {n : Nat} (hcode : Code t n r) {u : List UInt8}
    (h : plain.Closes r u) : (code []).Closes t u := by
  obtain ⟨a, b, c, d, rfl, hjudged⟩ := code_iff.mp hcode
  refine .more rfl (.more rfl (.more rfl (.more ?_ h)))
  simp [next, hjudged]

/-- The machine for texts that are ignored reads exactly those of the grammar. -/
theorem closes_plain_iff : plain.Closes t r ↔ Skipped t r := by
  refine ⟨Closes.remainder, fun h => ?_⟩
  induction h with
  | close => exact .closed rfl
  | plain hcontrol hquote hbackslash _ ih =>
    refine .more ?_ ih
    simp [next, hquote, hbackslash, UInt8.not_lt.mpr hcontrol]
  | short hshort _ ih =>
    obtain ⟨e, hletter, hescape, _⟩ := shortEscape?_of_mem hshort
    refine .more rfl (.more ?_ ih)
    simp [next, hletter, hescape]
  | code hcode _ ih => exact .more rfl (.more rfl (closes_of_code hcode ih))

end IgnoredPhase

theorem isHighHalf_iff {n : Nat} : isHighHalf n = true ↔ 0xD800 ≤ n ∧ n ≤ 0xDBFF := by
  simp [isHighHalf]

theorem isLowHalf_iff {n : Nat} : isLowHalf n = true ↔ 0xDC00 ≤ n ∧ n ≤ 0xDFFF := by
  simp [isLowHalf]

/-- A code that is no half of a pair is that of a character. -/
theorem toNat_ofNat_of_code {n : Nat} (hlt : n < 0x10000) (hhigh : isHighHalf n = false)
    (hlow : isLowHalf n = false) : (Char.ofNat n).toNat = n := by
  rw [← Bool.not_eq_true, isHighHalf_iff] at hhigh
  rw [← Bool.not_eq_true, isLowHalf_iff] at hlow
  refine Utf8.toNat_charOfNat ?_
  unfold Nat.isValidChar
  omega

/-- Two halves of a pair give a character, which is beyond the codes. -/
theorem toNat_ofNat_pairCode {m n : Nat} (hhigh : isHighHalf m = true) (hlow : isLowHalf n = true) :
    (Char.ofNat (pairCode m n)).toNat = 0x10000 + (m - 0xD800) * 0x400 + (n - 0xDC00) := by
  rw [isHighHalf_iff] at hhigh
  rw [isLowHalf_iff] at hlow
  refine Utf8.toNat_charOfNat (.inr ⟨?_, ?_⟩) <;> unfold pairCode <;> omega

/-- The code of a character is no half of a pair. -/
theorem half_of_char (c : Char) : isHighHalf c.toNat = false ∧ isLowHalf c.toNat = false := by
  have hvalid : c.toNat < 0xD800 ∨ 0xDFFF < c.toNat ∧ c.toNat < 0x110000 := c.valid
  rw [← Bool.not_eq_true, ← Bool.not_eq_true, isHighHalf_iff, isLowHalf_iff]
  omega

/-- The second half of a pair with the rest of its text, before the backslash. -/
def SecondHalf (high : Nat) (t bytes r : List UInt8) : Prop :=
  ∃ n u v rest, t = backslash :: codeLetter :: u ∧ Code u n v ∧ isLowHalf n = true ∧
    bytes = String.utf8EncodeChar (Char.ofNat (pairCode high n)) ++ rest ∧ Coded v rest r

/-- What the grammar lets follow in a phase of a text that is decoded, with the bytes that it
stands for. -/
def TextPhase.Remainder (t bytes r : List UInt8) : TextPhase → Prop
  | plain => Coded t bytes r
  | escape => Coded (backslash :: t) bytes r
  | code digits => ∃ n u, CodeRemainder digits t n u ∧ isLowHalf n = false ∧
      if isHighHalf n then SecondHalf n u bytes r
      else ∃ rest, bytes = String.utf8EncodeChar (Char.ofNat n) ++ rest ∧ Coded u rest r
  | lowEscape high => SecondHalf high t bytes r
  | lowLetter high => SecondHalf high (backslash :: t) bytes r
  | lowCode high digits => ∃ n u rest, CodeRemainder digits t n u ∧ isLowHalf n = true ∧
      bytes = String.utf8EncodeChar (Char.ofNat (pairCode high n)) ++ rest ∧ Coded u rest r

namespace TextState

/-- A text that is decoded, of which a state tells what has been read, ends before what is left and
stands for bytes. -/
inductive Reads : TextState → List UInt8 → List UInt8 → List UInt8 → Prop where
  | closed {state : TextState} {b : UInt8} {bytes r : List UInt8}
      (hnext : state.next b = .closed bytes) : Reads state (b :: r) bytes r
  | more {state state' : TextState} {b : UInt8} {t bytes r : List UInt8}
      (hnext : state.next b = .more state') (h : Reads state' t bytes r) :
      Reads state (b :: t) bytes r

/-- A state lets a text follow that the grammar lets follow in its phase. What has been read comes
first in the bytes that the text stands for. -/
def Remainder (state : TextState) (t bytes r : List UInt8) : Prop :=
  ∃ rest, bytes = state.read.reverse ++ rest ∧ state.phase.Remainder t rest r

variable {b : UInt8} {t bytes r : List UInt8} {state state' : TextState}

private theorem eq_of_closed (hnext : state.next b = .closed bytes) :
    state.phase = .plain ∧ b = quote ∧ bytes = state.read.reverse := by
  obtain ⟨phase, read⟩ := state
  cases phase with
  | plain =>
    simp only [next, nextPlain] at hnext
    split at hnext
    next hquote => exact ⟨rfl, eq_of_beq hquote, (TextStep.closed.inj hnext).symm⟩
    · repeat' split at hnext
      all_goals cases hnext
  | _ =>
    simp only [next, nextEscape, nextCode, nextLowCode, takeCode] at hnext
    repeat' split at hnext
    all_goals cases hnext

private theorem remainder_of_nextPlain {read : List UInt8}
    (hnext : nextPlain ⟨.plain, read⟩ b = .more state') (h : state'.Remainder t bytes r) :
    Remainder ⟨.plain, read⟩ (b :: t) bytes r := by
  obtain ⟨rest, rfl, hrest⟩ := h
  simp only [nextPlain] at hnext
  split at hnext
  · cases hnext
  next hquote =>
    split at hnext
    next hbackslash =>
      obtain rfl := TextStep.more.inj hnext
      obtain rfl := eq_of_beq hbackslash
      exact ⟨rest, rfl, hrest⟩
    next hbackslash =>
      split at hnext
      · cases hnext
      next hcontrol =>
        obtain rfl := TextStep.more.inj hnext
        refine ⟨b :: rest, by simp, ?_⟩
        exact Coded.plain (UInt8.not_lt.mp hcontrol) (by simpa using hquote)
          (by simpa using hbackslash) hrest

private theorem remainder_of_nextEscape {read : List UInt8}
    (hnext : nextEscape ⟨.escape, read⟩ b = .more state') (h : state'.Remainder t bytes r) :
    Remainder ⟨.escape, read⟩ (b :: t) bytes r := by
  obtain ⟨rest, rfl, hrest⟩ := h
  simp only [nextEscape] at hnext
  split at hnext
  next hletter =>
    obtain rfl := TextStep.more.inj hnext
    obtain rfl := eq_of_beq hletter
    obtain ⟨n, u, hcode, hlow, hrest⟩ := hrest
    refine ⟨rest, rfl, ?_⟩
    split at hrest
    next hhigh =>
      obtain ⟨m, v, w, last, rfl, hsecond, hlow, hbytes, hlast⟩ := hrest
      rw [hbytes]
      exact Coded.pair hcode.code (isHighHalf_iff.mp hhigh) hsecond (isLowHalf_iff.mp hlow)
        (toNat_ofNat_pairCode hhigh hlow) hlast
    next hhigh =>
      obtain ⟨last, hbytes, hlast⟩ := hrest
      have hchar := toNat_ofNat_of_code hcode.code.lt (by simpa using hhigh) hlow
      rw [hbytes]
      exact Coded.code (hchar.symm ▸ hcode.code) hlast
  next =>
    split at hnext
    next e hescape =>
      obtain rfl := TextStep.more.inj hnext
      obtain ⟨c, hmem, hbytes⟩ := mem_shorts_of_shortEscape? hescape
      exact ⟨String.utf8EncodeChar c ++ rest, by simp [hbytes], Coded.short hmem hrest⟩
    next => cases hnext

private theorem remainder_of_takeCode {read digits : List UInt8} {n : Nat}
    (hnext : takeCode ⟨.code digits, read⟩ n = .more state') (hlong : ¬ digits.length < 3)
    (hcode : code? (b :: digits) = some n) (h : state'.Remainder t bytes r) :
    Remainder ⟨.code digits, read⟩ (b :: t) bytes r := by
  obtain ⟨rest, rfl, hrest⟩ := h
  simp only [takeCode] at hnext
  split at hnext
  · cases hnext
  next hlow =>
    have hlow : isLowHalf n = false := by simpa using hlow
    split at hnext
    next hhigh =>
      obtain rfl := TextStep.more.inj hnext
      refine ⟨rest, rfl, n, t, .last hlong hcode, hlow, ?_⟩
      rw [if_pos hhigh]
      exact hrest
    next hhigh =>
      obtain rfl := TextStep.more.inj hnext
      refine ⟨String.utf8EncodeChar (Char.ofNat n) ++ rest, by simp [pushCode], n, t,
        .last hlong hcode, hlow, ?_⟩
      rw [if_neg hhigh]
      exact ⟨rest, rfl, hrest⟩

private theorem remainder_of_nextCode {read digits : List UInt8}
    (hnext : nextCode ⟨.code digits, read⟩ digits b = .more state')
    (h : state'.Remainder t bytes r) : Remainder ⟨.code digits, read⟩ (b :: t) bytes r := by
  simp only [nextCode] at hnext
  split at hnext
  next hshort =>
    obtain rfl := TextStep.more.inj hnext
    obtain ⟨rest, rfl, n, u, hcode, hrest⟩ := h
    exact ⟨rest, rfl, n, u, hcode.cons hshort, hrest⟩
  next hlong =>
    split at hnext
    next n hcode => exact remainder_of_takeCode hnext hlong hcode h
    next => cases hnext

private theorem remainder_of_nextLowCode {read digits : List UInt8} {high : Nat}
    (hnext : nextLowCode ⟨.lowCode high digits, read⟩ high digits b = .more state')
    (h : state'.Remainder t bytes r) : Remainder ⟨.lowCode high digits, read⟩ (b :: t) bytes r := by
  obtain ⟨rest, rfl, hrest⟩ := h
  simp only [nextLowCode] at hnext
  split at hnext
  next hshort =>
    obtain rfl := TextStep.more.inj hnext
    obtain ⟨n, u, last, hcode, hlow, hbytes, hlast⟩ := hrest
    exact ⟨rest, rfl, n, u, last, hcode.cons hshort, hlow, hbytes, hlast⟩
  next hlong =>
    split at hnext
    next n hcode =>
      split at hnext
      next hlow =>
        obtain rfl := TextStep.more.inj hnext
        exact ⟨String.utf8EncodeChar (Char.ofNat (pairCode high n)) ++ rest, by simp [pushCode],
          n, t, rest, .last hlong hcode, hlow, rfl, hrest⟩
      next => cases hnext
    next => cases hnext

/-- What can follow behind a byte can follow before it, if the byte is read. -/
theorem remainder_of_next (hnext : state.next b = .more state') (h : state'.Remainder t bytes r) :
    state.Remainder (b :: t) bytes r := by
  obtain ⟨phase, read⟩ := state
  cases phase with
  | plain => exact remainder_of_nextPlain hnext h
  | escape => exact remainder_of_nextEscape hnext h
  | code digits => exact remainder_of_nextCode hnext h
  | lowEscape high =>
    simp only [next] at hnext
    split at hnext
    next hbackslash =>
      obtain rfl := TextStep.more.inj hnext
      obtain rfl := eq_of_beq hbackslash
      obtain ⟨rest, rfl, hrest⟩ := h
      exact ⟨rest, rfl, hrest⟩
    next => cases hnext
  | lowLetter high =>
    simp only [next] at hnext
    split at hnext
    next hletter =>
      obtain rfl := TextStep.more.inj hnext
      obtain rfl := eq_of_beq hletter
      obtain ⟨rest, rfl, n, u, last, hcode, hlow, hbytes, hlast⟩ := h
      exact ⟨rest, rfl, n, t, u, last, rfl, hcode.code, hlow, hbytes, hlast⟩
    next => cases hnext
  | lowCode high digits => exact remainder_of_nextLowCode hnext h

/-- The machine reads nothing that the grammar does not let follow. -/
theorem Reads.remainder (h : state.Reads t bytes r) : state.Remainder t bytes r := by
  induction h with
  | closed hnext =>
    obtain ⟨hphase, rfl, rfl⟩ := eq_of_closed hnext
    refine ⟨[], by simp, ?_⟩
    rw [hphase]
    exact Coded.close
  | more hnext _ ih => exact remainder_of_next hnext ih

private theorem reads_of_code {read : List UInt8} {n : Nat} {u : List UInt8} (hcode : Code t n u)
    (htake : ∀ digits, takeCode ⟨.code digits, read⟩ n = .more state')
    (h : state'.Reads u bytes r) : Reads ⟨.code [], read⟩ t bytes r := by
  obtain ⟨a, b, c, d, rfl, hjudged⟩ := code_iff.mp hcode
  refine .more rfl (.more rfl (.more rfl (.more ?_ h)))
  simp [next, nextCode, hjudged, htake]

private theorem reads_of_lowCode {read : List UInt8} {high n : Nat} {u : List UInt8}
    (hcode : Code t n u) (hlow : isLowHalf n = true)
    (h : Reads (pushCode ⟨.plain, read⟩ (pairCode high n)) u bytes r) :
    Reads ⟨.lowCode high [], read⟩ t bytes r := by
  obtain ⟨a, b, c, d, rfl, hjudged⟩ := code_iff.mp hcode
  refine .more rfl (.more rfl (.more rfl (.more ?_ h)))
  simp [next, nextLowCode, hjudged, hlow, pushCode]

/-- The machine reads whatever the grammar lets follow an opening quote. -/
theorem reads_of_coded (h : Coded t bytes r) (read : List UInt8) :
    Reads ⟨.plain, read⟩ t (read.reverse ++ bytes) r := by
  induction h generalizing read with
  | close =>
    rw [List.append_nil]
    exact .closed rfl
  | @plain b t r bytes hcontrol hquote hbackslash _ ih =>
    have hread := ih (b :: read)
    rw [List.reverse_cons, List.append_assoc, List.singleton_append] at hread
    refine .more ?_ hread
    simp [next, nextPlain, hquote, hbackslash, UInt8.not_lt.mpr hcontrol]
  | @short b c t r bytes hshort _ ih =>
    obtain ⟨e, hletter, hescape, hbytes⟩ := shortEscape?_of_mem hshort
    have hread := ih (e :: read)
    rw [List.reverse_cons, List.append_assoc, ← hbytes] at hread
    refine .more rfl (.more ?_ hread)
    simp [next, nextEscape, hletter, hescape]
  | @code c t u r bytes hcode _ ih =>
    have hread := ih ((String.utf8EncodeChar c).reverse ++ read)
    rw [List.reverse_append, List.reverse_reverse, List.append_assoc] at hread
    obtain ⟨hhigh, hlow⟩ := half_of_char c
    refine .more rfl (.more rfl (reads_of_code hcode ?_ hread))
    intro digits
    simp [takeCode, hlow, hhigh, pushCode]
  | @pair c m n t u v r bytes hfirst hhigh hsecond hlow hpair _ ih =>
    have hread := ih ((String.utf8EncodeChar c).reverse ++ read)
    rw [List.reverse_append, List.reverse_reverse, List.append_assoc] at hread
    have hhalf : isLowHalf m = false := by
      rw [← Bool.not_eq_true, isLowHalf_iff]
      omega
    have hcode : pairCode m n = c.toNat := by
      unfold pairCode
      exact hpair.symm
    have hchar : pushCode ⟨.plain, read⟩ (pairCode m n) =
        ⟨.plain, (String.utf8EncodeChar c).reverse ++ read⟩ := by
      rw [pushCode, hcode, Char.ofNat_toNat]
    rw [← hchar] at hread
    have hlowCode : Reads ⟨.lowCode m [], read⟩ u _ r :=
      reads_of_lowCode hsecond (isLowHalf_iff.mpr hlow) hread
    have hsecondHalf : Reads ⟨.lowEscape m, read⟩ (backslash :: codeLetter :: u) _ r :=
      .more rfl (.more rfl hlowCode)
    refine .more rfl (.more rfl (reads_of_code hfirst ?_ hsecondHalf))
    intro digits
    simp [takeCode, hhalf, isHighHalf_iff.mpr hhigh]

/-- The machine for texts that are decoded reads exactly those of the grammar that stand for
characters. -/
theorem reads_start_iff {text : List Char} :
    start.Reads t (Utf8.encode text) r ↔ Chars t text r := by
  rw [← Coded.encode_iff]
  constructor
  · intro h
    obtain ⟨rest, hbytes, hrest⟩ := h.remainder
    rw [start, List.reverse_nil, List.nil_append] at hbytes
    exact hbytes ▸ hrest
  · intro h
    exact reads_of_coded h []

end TextState

end WaitingList.Submission

import WaitingList.Proofs.Settings.Numeral
import WaitingList.Settings.File

namespace WaitingList.Toml

open Numeral (integerText itemsText isDigit_of_mem_tail mem_integerText not_mem_integerText
  head?_integerText_ne integerText_append_ne integerText_ne_nil splitSign_integerText
  digitsValue_toDigits all_isDigit_toDigits)

/-- An integer that a signed word of 64 bits holds. -/
def FitsWord (n : Int) : Prop := -(twoTo 63 : Int) ≤ n ∧ n < twoTo 63

instance : DecidablePred FitsWord := fun n =>
  inferInstanceAs (Decidable (-(twoTo 63 : Int) ≤ n ∧ n < twoTo 63))

section Words

variable {n : Int} {c : Char}

theorem signedWord?_eq (n : Int) : signedWord? n = if FitsWord n then some n else none := rfl

/-- Behind its first character an integer holds nothing but digits. -/
theorem expect?_drop_integerText (hc : c.isDigit = false) (k : Nat) :
    expect? c ((integerText n).drop (k + 1)) = none := by
  rw [← List.drop_tail]
  cases hrest : (integerText n).tail.drop k with
  | nil => rfl
  | cons d rest =>
    have hdigit : d.isDigit = true :=
      isDigit_of_mem_tail (List.mem_of_mem_drop (i := k) (by rw [hrest]; exact List.mem_cons_self))
    have hne : c ≠ d := by
      rintro rfl
      rw [hdigit] at hc
      cases hc
    rw [expect?, if_neg hne]

theorem rest_of_field? {width low high k : Nat} {text rest : List Char}
    (h : field? width low high text = some (k, rest)) : rest = text.drop width := by
  rw [field?] at h
  split at h
  · exact (Prod.mk.inj (Option.some.inj h)).2.symm
  · cases h

theorem date?_integerText (n : Int) : date? (integerText n) = none := by
  rw [date?]
  cases hyear : field? 4 0 9999 (integerText n) with
  | none => rfl
  | some found =>
    obtain ⟨year, rest⟩ := found
    obtain rfl := rest_of_field? hyear
    simp only [Option.bind_eq_bind, Option.bind_some, expect?_drop_integerText (c := '-') rfl,
      Option.bind_none]

theorem time?_integerText (n : Int) : time? (integerText n) = none := by
  rw [time?]
  cases hhour : field? 2 0 23 (integerText n) with
  | none => rfl
  | some found =>
    obtain ⟨hour, rest⟩ := found
    obtain rfl := rest_of_field? hhour
    simp only [Option.bind_eq_bind, Option.bind_some, expect?_drop_integerText (c := ':') rfl,
      Option.bind_none]

theorem isMoment_integerText (n : Int) : isMoment (integerText n) = false := by
  rw [isMoment, time?_integerText, date?_integerText]
  rfl

theorem groupedDigits?_toDigits (k : Nat) :
    groupedDigits? Char.isDigit (Nat.toDigits 10 k) = some (Nat.toDigits 10 k) := by
  have hmark : '_' ∉ Nat.toDigits 10 k := fun hmem => by
    cases ConnectionUrl.isDigit_of_mem_toDigits hmem
  rw [groupedDigits?, List.splitOn_eq_singleton hmark]
  simp [Nat.toDigits_ne_nil, all_isDigit_toDigits]

theorem integerDigits?_toDigits (k : Nat) :
    integerDigits? (Nat.toDigits 10 k) = some (Nat.toDigits 10 k) := by
  have hzero : ¬ ((Nat.toDigits 10 k).head? = some '0' ∧ (Nat.toDigits 10 k).length > 1) := by
    rintro ⟨hhead, hlength⟩
    obtain rfl | hpos := Nat.eq_zero_or_pos k
    · exact absurd hlength (by decide)
    · exact Numeral.head?_toDigits hpos hhead
  rw [integerDigits?, groupedDigits?_toDigits]
  simp only [Option.bind_eq_bind, Option.bind_some, Bool.and_eq_true, decide_eq_true_eq,
    if_neg hzero]

theorem integer?_integerText (n : Int) : integer? (integerText n) = signedWord? n := by
  have hsecond (first c : Char) (rest : List Char) (hc : c.isDigit = false) :
      integerText n ≠ first :: c :: rest := by
    intro h
    have hdigit : c.isDigit = true := isDigit_of_mem_tail (n := n) (by rw [h]; simp)
    rw [hdigit] at hc
    cases hc
  have hvalue : (if decide (n < 0) = true then -(n.natAbs : Int) else n.natAbs) = n := by
    simp only [decide_eq_true_eq]
    split <;> omega
  unfold integer?
  split
  next rest htext => exact absurd htext (hsecond _ _ _ rfl)
  next rest htext => exact absurd htext (hsecond _ _ _ rfl)
  next rest htext => exact absurd htext (hsecond _ _ _ rfl)
  · rw [splitSign_integerText]
    simp only [integerDigits?_toDigits, Option.bind_eq_bind, Option.bind_some,
      digitsValue_toDigits, hvalue]

/-- Digits alone have neither a fraction nor a power. -/
theorem decimal?_toDigits (negative : Bool) (k : Nat) :
    decimal? negative (Nat.toDigits 10 k) = none := by
  have hdigit (c : Char) (hc : c ∈ Nat.toDigits 10 k) : c.isDigit = true :=
    ConnectionUrl.isDigit_of_mem_toDigits hc
  have hmark : ∀ c ∈ Nat.toDigits 10 k, (c == 'e' || c == 'E') = false := fun c hc => by
    rw [Bool.eq_false_iff, ne_eq, Bool.or_eq_true, beq_iff_eq, beq_iff_eq]
    rintro (rfl | rfl) <;> cases hdigit _ hc
  have hpoint : ∀ c ∈ Nat.toDigits 10 k, (c != '.') = true := fun c hc => by
    rw [bne_iff_ne]
    rintro rfl
    cases hdigit _ hc
  have hmantissa : (Nat.toDigits 10 k).takeWhile (fun c => !(c == 'e' || c == 'E')) =
      Nat.toDigits 10 k := List.takeWhile_eq_self_iff.mpr fun c hc => by rw [hmark c hc]; rfl
  have hpower : (Nat.toDigits 10 k).dropWhile (fun c => !(c == 'e' || c == 'E')) = [] :=
    List.dropWhile_eq_nil_iff.mpr fun c hc => by rw [hmark c hc]; rfl
  have hwhole : (Nat.toDigits 10 k).takeWhile (· != '.') = Nat.toDigits 10 k :=
    List.takeWhile_eq_self_iff.mpr hpoint
  have hfraction : (Nat.toDigits 10 k).dropWhile (· != '.') = [] :=
    List.dropWhile_eq_nil_iff.mpr hpoint
  have hany : (Nat.toDigits 10 k).any (fun c => c == 'e' || c == 'E') = false :=
    List.any_eq_false.mpr fun c hc => by rw [hmark c hc]; decide
  rw [decimal?]
  simp only [hmantissa, hwhole, hfraction, hpower, hany, integerDigits?_toDigits,
    Option.bind_eq_bind, Option.bind_some]
  rfl

theorem floating?_integerText (n : Int) : floating? (integerText n) = none := by
  have hword (word : List Char) (c : Char) (hc : c ∈ word) (hdigit : c.isDigit = false) :
      Nat.toDigits 10 n.natAbs ≠ word := by
    rintro rfl
    rw [ConnectionUrl.isDigit_of_mem_toDigits hc] at hdigit
    cases hdigit
  rw [floating?, splitSign_integerText]
  dsimp only
  rw [if_neg (hword _ 'i' (by decide) rfl), if_neg (hword _ 'n' (by decide) rfl),
    decimal?_toDigits]

theorem wordValue?_integerText (n : Int) :
    wordValue? (integerText n) = (signedWord? n).map .integer := by
  have hword (word : List Char) (c : Char) (hc : c ∈ word)
      (hmark : ¬ (c = '-' ∨ c.isDigit = true)) : integerText n ≠ word := by
    rintro rfl
    exact not_mem_integerText hmark hc
  rw [wordValue?, if_neg (hword _ 't' (by decide) (by decide)),
    if_neg (hword _ 'f' (by decide) (by decide)), isMoment_integerText, integer?_integerText,
    floating?_integerText]
  cases signedWord? n <;> rfl

end Words

section Values

variable {n : Int} {ns : List Int} {gap fuel : Nat} {rest : List Char}

/-- A text that does not go on with a word. -/
def EndsWord (rest : List Char) : Prop := ∀ c ∈ rest.head?, isWordChar c = false

/-- The value that integers write. -/
def numeralValue : Numeral → Value
  | .one n => .integer n
  | .list ns => .list (ns.map .integer)

theorem ofToml_numeralValue (source : Source) (numeral : Numeral) :
    Setting.ofToml source (numeralValue numeral) = numeral.setting source .signed := by
  cases numeral with
  | one n => rfl
  | list ns =>
    have hitems : listOfToml source (ns.map .integer) =
        ns.map fun n => .scalar source (.signed n) := by
      induction ns with
      | nil => rfl
      | cons n more ih => rw [List.map_cons, listOfToml, ih, List.map_cons, Setting.ofToml]
    rw [numeralValue, Setting.ofToml, hitems, Numeral.setting]

theorem isWordChar_of_mem_integerText {c : Char} (hc : c ∈ integerText n) :
    isWordChar c = true := by
  obtain rfl | hdigit := mem_integerText hc
  · rfl
  · simp [isWordChar, Char.isAlphanum, hdigit]

theorem scalar?_integerText (hrest : EndsWord rest) :
    scalar? (integerText n ++ rest) = (signedWord? n).map fun m => (.integer m, rest) := by
  have hword : (integerText n ++ rest).takeWhile isWordChar = integerText n := by
    rw [ConnectionUrl.takeWhile_append_of_stops hrest, List.takeWhile_eq_self_iff]
    exact fun c hc => isWordChar_of_mem_integerText hc
  rw [scalar?, hword, List.drop_left, date?_integerText, wordValue?_integerText]
  cases signedWord? n <;> rfl

theorem value?_integerText (depth : Nat) (hrest : EndsWord rest) :
    value? depth (integerText n ++ rest) = (signedWord? n).map fun m => (.integer m, rest) := by
  have hflat : flatValue? (integerText n ++ rest) =
      (signedWord? n).map fun m => (.integer m, rest) := by
    have hplain : ¬ ((integerText n ++ rest).head? = some '"' ∨
        (integerText n ++ rest).head? = some '\x27') :=
      not_or.mpr ⟨head?_integerText_ne (by decide), head?_integerText_ne (by decide)⟩
    rw [flatValue?, if_neg (by simpa only [Bool.or_eq_true, decide_eq_true_eq] using hplain),
      scalar?_integerText hrest]
  cases depth with
  | zero => exact hflat
  | succ depth =>
    rw [value?.eq_def]
    dsimp only
    split
    all_goals first
      | next htext => exact absurd htext (integerText_append_ne (by decide) _)
      | exact hflat

theorem skipTrivia?_gap (lead : Nat) (text : List Char) :
    skipTrivia? false (List.replicate lead ' ' ++ text) = skipTrivia? false text := by
  induction lead with
  | zero => rfl
  | succ lead ih =>
    rw [List.replicate_succ, List.cons_append, skipTrivia?]
    · exact ih
    · simp
    · simp

theorem skipTrivia?_of_lt {c : Char} (hseen : 0x20 < c.toNat) (hmark : c ≠ '#')
    (rest : List Char) : skipTrivia? false (c :: rest) = some (c :: rest) := by
  have hblank : isLineBlank c = false := by
    rw [Bool.eq_false_iff, isLineBlank, ne_eq, Bool.or_eq_true, beq_iff_eq, beq_iff_eq]
    rintro (rfl | rfl) <;> exact absurd hseen (by decide)
  rw [skipTrivia?]
  · simp [hblank, hmark]
  · rintro rfl
    exact absurd hseen (by decide)
  · rintro _ rfl
    exact absurd hseen (by decide)

theorem skipTrivia?_integerText (lead : Nat) (n : Int) (rest : List Char) :
    skipTrivia? false (List.replicate lead ' ' ++ (integerText n ++ rest)) =
      some (integerText n ++ rest) := by
  obtain ⟨c, inner, htext⟩ := List.exists_cons_of_ne_nil (integerText_ne_nil n)
  have hc : c ∈ integerText n := by
    rw [htext]
    exact List.mem_cons_self
  have hmark : c ≠ '#' := by
    rintro rfl
    exact not_mem_integerText (by decide) hc
  rw [skipTrivia?_gap, htext, List.cons_append,
    skipTrivia?_of_lt (Numeral.toNat_of_mem_integerText hc).1 hmark]

/-- One item of a list, and what is made of what stands behind it. -/
theorem items?_integerText (lead depth fuel : Nat) {c : Char} (hc : isWordChar c = false)
    (hseen : 0x20 < c.toNat) (hmark : c ≠ '#') (rest : List Char) :
    items? (value? depth) (fuel + 1) (List.replicate lead ' ' ++ (integerText n ++ c :: rest)) =
      (signedWord? n).bind fun m =>
        match c :: rest with
        | ',' :: rest => (items? (value? depth) fuel rest).bind
          fun (values, rest) => some (.integer m :: values, rest)
        | ']' :: rest => some ([.integer m], rest)
        | _ => none := by
  have hends : EndsWord (c :: rest) := fun d hd => by
    rw [← Option.mem_some_iff.mp hd]
    exact hc
  rw [items?, skipTrivia?_integerText, Option.bind_eq_bind, Option.bind_some]
  split
  next inner htext => exact absurd htext (integerText_append_ne (by decide) inner)
  next =>
    rw [value?_integerText depth hends]
    cases signedWord? n with
    | none => rfl
    | some m =>
      rw [Option.map_some, Option.bind_eq_bind, Option.bind_some, Option.bind_some]
      dsimp only
      rw [skipTrivia?_of_lt hseen hmark]
      rfl

/-- A list of integers is read up to its bracket, if all of them fit. -/
theorem items?_itemsText (gap lead depth : Nat) (first : Int) (rest : List Char)
    (hlength : ns.length < fuel) : items? (value? depth) fuel
        (List.replicate lead ' ' ++ (itemsText gap (first :: ns) ++ rest)) =
      if ∀ n ∈ first :: ns, FitsWord n then some ((first :: ns).map .integer, rest) else none := by
  induction ns generalizing first lead fuel with
  | nil =>
    obtain ⟨fuel, rfl⟩ := Nat.exists_eq_add_one_of_ne_zero (Nat.ne_zero_of_lt hlength)
    rw [itemsText, List.append_assoc, List.singleton_append,
      items?_integerText lead depth fuel rfl (by decide) (by decide), signedWord?_eq]
    by_cases hfirst : FitsWord first <;> simp [hfirst]
  | cons second more ih =>
    obtain ⟨fuel, rfl⟩ := Nat.exists_eq_add_one_of_ne_zero (Nat.ne_zero_of_lt hlength)
    let behind := List.replicate gap ' ' ++ (itemsText gap (second :: more) ++ rest)
    have hcomma : items? (value? depth) (fuel + 1)
        (List.replicate lead ' ' ++ (integerText first ++ ',' :: behind)) =
          (signedWord? first).bind fun m => (items? (value? depth) fuel behind).bind
            fun (values, rest) => some (.integer m :: values, rest) :=
      items?_integerText lead depth fuel rfl (by decide) (by decide) behind
    rw [itemsText, List.append_assoc, List.cons_append, List.append_assoc, hcomma,
      ih gap second (Nat.lt_of_succ_lt_succ hlength), signedWord?_eq]
    · by_cases hfirst : FitsWord first
      · by_cases hmore : ∀ n ∈ second :: more, FitsWord n
        · rw [if_pos hfirst, if_pos hmore, if_pos (List.forall_mem_cons.mpr ⟨hfirst, hmore⟩)]
          rfl
        · rw [if_pos hfirst, if_neg hmore, if_neg fun h => hmore (List.forall_mem_cons.mp h).2]
          rfl
      · rw [if_neg hfirst, if_neg fun h => hfirst (List.forall_mem_cons.mp h).1]
        rfl
    · exact List.cons_ne_nil second more

/-- Integers that all fit are read as they are, and the rest is left. -/
theorem value?_text (gap depth : Nat) (numeral : Numeral) (hrest : EndsWord rest) :
    value? (depth + 1) (numeral.text gap ++ rest) =
      if ∀ n ∈ numeral.integers, FitsWord n then some (numeralValue numeral, rest) else none := by
  cases numeral with
  | one n =>
    rw [Numeral.text, value?_integerText _ hrest, signedWord?_eq]
    simp only [Numeral.integers, List.mem_singleton, forall_eq]
    split <;> rfl
  | list ns =>
    have hitems : items? (value? depth) ((itemsText gap ns ++ rest).length + 1)
        (itemsText gap ns ++ rest) =
          if ∀ n ∈ ns, FitsWord n then some (ns.map .integer, rest) else none := by
      cases ns with
      | nil => rfl
      | cons n more =>
        have hlength : more.length < (itemsText gap (n :: more) ++ rest).length + 1 := by
          have hlonger := Numeral.length_lt_itemsText gap (n :: more)
          rw [List.length_cons] at hlonger
          rw [List.length_append]
          omega
        have hitems := items?_itemsText gap 0 depth n rest hlength
        rwa [List.replicate_zero, List.nil_append] at hitems
    rw [Numeral.text, List.cons_append, value?, hitems]
    by_cases hfits : ∀ n ∈ ns, FitsWord n
    · rw [if_pos hfits]
      exact (if_pos hfits).symm
    · rw [if_neg hfits]
      exact (if_neg hfits).symm

end Values

end WaitingList.Toml

import WaitingList.Proofs.Connection.Url
import WaitingList.Proofs.Settings.Word

namespace WaitingList

/-- An integer, or several in a list. -/
inductive Numeral where
  | one (n : Int)
  | list (ns : List Int)
  deriving DecidableEq, Repr

namespace Numeral

def integers : Numeral → List Int
  | one n => [n]
  | list ns => ns

def integerText (n : Int) : List Char :=
  if n < 0 then '-' :: Nat.toDigits 10 n.natAbs else Nat.toDigits 10 n.natAbs

/-- The integers of a list and the bracket behind them, with spaces behind each comma. -/
def itemsText (gap : Nat) : List Int → List Char
  | [] => [']']
  | [n] => integerText n ++ [']']
  | n :: more => integerText n ++ ',' :: (List.replicate gap ' ' ++ itemsText gap more)

def text (gap : Nat) : Numeral → List Char
  | one n => integerText n
  | list ns => '[' :: itemsText gap ns

/-- The setting that a layer gives which reads integers in its own way. -/
def setting (source : Source) (scalar : Int → Scalar) : Numeral → Setting
  | one n => .scalar source (scalar n)
  | list ns => .list source (ns.map fun n => .scalar source (scalar n))

section Text

variable {n : Int} {c : Char} {rest : List Char}

theorem mem_integerText (hc : c ∈ integerText n) : c = '-' ∨ c.isDigit = true := by
  rw [integerText] at hc
  split at hc
  · exact (List.mem_cons.mp hc).imp_right ConnectionUrl.isDigit_of_mem_toDigits
  · exact .inr (ConnectionUrl.isDigit_of_mem_toDigits hc)

/-- Only digits follow the first character. -/
theorem isDigit_of_mem_tail (hc : c ∈ (integerText n).tail) : c.isDigit = true := by
  rw [integerText] at hc
  split at hc
  · exact ConnectionUrl.isDigit_of_mem_toDigits hc
  · exact ConnectionUrl.isDigit_of_mem_toDigits (List.mem_of_mem_tail hc)

/-- An integer is written in printable ASCII. -/
theorem toNat_of_mem_integerText (hc : c ∈ integerText n) : 0x20 < c.toNat ∧ c.toNat < 0x7F := by
  obtain rfl | hdigit := mem_integerText hc
  · decide
  · exact toNat_of_isAlphanum (by simp [Char.isAlphanum, hdigit])

theorem integerText_ne_nil (n : Int) : integerText n ≠ [] := by
  rw [integerText]
  split
  · exact List.cons_ne_nil _ _
  · exact Nat.toDigits_ne_nil

/-- What begins with an integer begins with a minus or a digit. -/
theorem head_of_integerText (hc : c ∈ (integerText n ++ rest).head?) :
    c = '-' ∨ c.isDigit = true := by
  obtain ⟨first, digits, hdigits⟩ := List.exists_cons_of_ne_nil (integerText_ne_nil n)
  rw [hdigits, List.cons_append, List.head?_cons, Option.mem_some_iff] at hc
  exact mem_integerText (by rw [hdigits, hc]; exact List.mem_cons_self)

theorem not_mem_integerText (hc : ¬ (c = '-' ∨ c.isDigit = true)) : c ∉ integerText n :=
  mt mem_integerText hc

theorem head?_integerText_ne (hc : ¬ (c = '-' ∨ c.isDigit = true)) :
    (integerText n ++ rest).head? ≠ some c :=
  mt head_of_integerText hc

theorem integerText_append_ne (hc : ¬ (c = '-' ∨ c.isDigit = true)) (inner : List Char) :
    integerText n ++ rest ≠ c :: inner :=
  fun h => head?_integerText_ne hc (congrArg List.head? h)

theorem splitSign_integerText (n : Int) :
    FloatNumber.splitSign (integerText n) = (decide (n < 0), Nat.toDigits 10 n.natAbs) := by
  rw [integerText]
  split
  next hneg => simp [FloatNumber.splitSign, hneg]
  next hpos =>
    have hdigits : ∀ c ∈ Nat.toDigits 10 n.natAbs, c.isDigit = true :=
      fun c hc => ConnectionUrl.isDigit_of_mem_toDigits hc
    unfold FloatNumber.splitSign
    split
    next rest htext =>
      have hsign := hdigits '-' (by rw [htext]; exact List.mem_cons_self)
      cases hsign
    next rest htext =>
      have hsign := hdigits '+' (by rw [htext]; exact List.mem_cons_self)
      cases hsign
    · simp [hpos]

theorem digitsValue_toDigits (n : Nat) : FloatNumber.digitsValue (Nat.toDigits 10 n) = n :=
  ConnectionUrl.decimalValue_toDigits n

theorem all_isDigit_toDigits (n : Nat) : (Nat.toDigits 10 n).all Char.isDigit = true :=
  List.all_eq_true.mpr fun _ hc => ConnectionUrl.isDigit_of_mem_toDigits hc

/-- No needless zero stands in front of the digits of a number. -/
theorem head?_toDigits {k : Nat} (hpos : 0 < k) : (Nat.toDigits 10 k).head? ≠ some '0' := by
  induction k using Nat.strongRecOn with
  | ind k ih =>
    by_cases hsmall : k < 10
    · have hdigit : ∀ j < 10, 0 < j → [Nat.digitChar j].head? ≠ some '0' := by decide
      rw [Nat.toDigits_of_lt_base hsmall]
      exact hdigit k hsmall hpos
    · have hlead : 0 < k / 10 := by omega
      obtain ⟨first, digits, hdigits⟩ :=
        List.exists_cons_of_ne_nil (Nat.toDigits_ne_nil : Nat.toDigits 10 (k / 10) ≠ [])
      have hfirst := ih (k / 10) (by omega) hlead
      rw [hdigits] at hfirst
      rwa [Nat.toDigits_of_base_le (by decide) (by omega), hdigits]

end Text

section Variables

variable {n : Int} {ns : List Int} {gap fuel : Nat} {rest : List Char}

/-- The scalar that an integer is to variables: a word without a sign, else one with a sign, else a
text. -/
def variableScalar (n : Int) : Scalar :=
  if 0 ≤ n ∧ n < twoTo 64 then .unsigned n.toNat
  else if -(twoTo 63 : Int) ≤ n ∧ n < 0 then .signed n
  else .text (String.ofList (integerText n))

theorem trimBlanks_integerText (n : Int) : trimBlanks (integerText n) = integerText n := by
  have hseen : ∀ c ∈ integerText n, isBlankChar c = false := fun c hc => by
    obtain ⟨hlow, hhigh⟩ := toNat_of_mem_integerText hc
    rw [Bool.eq_false_iff]
    exact fun hblank => not_isUnseen_of_bounds hlow hhigh (.inl hblank)
  have hdrop (l : List Char) (hl : ∀ c ∈ l, isBlankChar c = false) :
      l.dropWhile isBlankChar = l := by
    rw [List.dropWhile_eq_self_iff]
    intro hlength
    simp [hl]
  rw [trimBlanks, hdrop _ hseen, hdrop _ fun c hc => hseen c (List.mem_reverse.mp hc),
    List.reverse_reverse]

theorem unsigned?_integerText (n : Int) : VariableSyntax.unsigned? (integerText n) =
    if 0 ≤ n ∧ n < twoTo 64 then some n.toNat else none := by
  have hplus : (integerText n).head? ≠ some '+' := fun h =>
    not_mem_integerText (by decide) (List.mem_of_head? h)
  rw [VariableSyntax.unsigned?, if_neg hplus, integerText]
  split
  next hneg => simp [Char.isDigit, Int.not_le.mpr hneg]
  next hpos =>
    have hvalue : n.natAbs = n.toNat := by omega
    have hlimit : n.toNat ≤ VariableSyntax.maxUnsigned ↔ 0 ≤ n ∧ n < twoTo 64 := by
      have hgreatest : VariableSyntax.maxUnsigned = 2 ^ 64 - 1 := rfl
      have htwo : twoTo 64 = 2 ^ 64 := rfl
      omega
    rw [ConnectionUrl.decimalValue_toDigits, all_isDigit_toDigits, hvalue]
    simp [Nat.toDigits_ne_nil, hlimit]

theorem signed?_integerText (n : Int) : VariableSyntax.signed? (integerText n) =
    if -(twoTo 63 : Int) ≤ n ∧ n < twoTo 63 then some n else none := by
  have htwo : twoTo 63 = 2 ^ 63 := rfl
  have hlimit : n.natAbs ≤ (if n < 0 then twoTo 63 else twoTo 63 - 1) ↔
      -(twoTo 63 : Int) ≤ n ∧ n < twoTo 63 := by
    split <;> omega
  have hvalue : (if n < 0 then -(n.natAbs : Int) else n.natAbs) = n := by
    split <;> omega
  rw [VariableSyntax.signed?, splitSign_integerText]
  simp only [digitsValue_toDigits, all_isDigit_toDigits, decide_eq_true_eq, hvalue, hlimit,
    List.isEmpty_eq_false_iff.mpr Nat.toDigits_ne_nil, Bool.not_false, Bool.true_and]

/-- What an integer is as a plain word. -/
theorem word_integerText (n : Int) : VariableSyntax.word (integerText n) = variableScalar n := by
  have hpoint : (integerText n).contains '.' = false := by
    rw [Bool.eq_false_iff, ne_eq, List.contains_iff_mem]
    exact not_mem_integerText (by decide)
  rw [VariableSyntax.word, trimBlanks_integerText, hpoint, unsigned?_integerText,
    signed?_integerText, variableScalar]
  have htwo : twoTo 63 = 2 ^ 63 := rfl
  have htwo' : twoTo 64 = 2 ^ 64 := rfl
  by_cases hunsigned : 0 ≤ n ∧ n < twoTo 64
  · simp [hunsigned]
  · by_cases hsigned : -(twoTo 63 : Int) ≤ n ∧ n < 0
    · have hfits : -(twoTo 63 : Int) ≤ n ∧ n < twoTo 63 := by omega
      simp [hunsigned, hsigned, hfits]
    · have hbeyond : ¬ (-(twoTo 63 : Int) ≤ n ∧ n < twoTo 63) := by omega
      simp only [if_neg hunsigned, if_neg hsigned, if_neg hbeyond]
      rfl

theorem isSeparator_of_mem_integerText {c : Char} (hc : c ∈ integerText n) :
    VariableSyntax.isSeparator c = false := by
  rw [Bool.eq_false_iff]
  intro hseparator
  simp only [VariableSyntax.isSeparator, Bool.or_eq_true, beq_iff_eq] at hseparator
  obtain (((rfl | rfl) | rfl) | rfl) | rfl := hseparator <;>
    exact not_mem_integerText (by decide) hc

theorem isAsciiBlank_of_lt {c : Char} (h : 0x20 < c.toNat) : isAsciiBlank c = false := by
  rw [Bool.eq_false_iff]
  intro hblank
  simp only [isAsciiBlank, Bool.or_eq_true, beq_iff_eq] at hblank
  obtain (((rfl | rfl) | rfl) | rfl) | rfl := hblank <;> exact absurd h (by decide)

theorem dropWhile_gap {p : Char → Bool} (hspace : p ' ' = true) (gap : Nat) (text : List Char) :
    (List.replicate gap ' ' ++ text).dropWhile p = text.dropWhile p :=
  List.dropWhile_append_of_pos fun c hc => by rwa [List.eq_of_mem_replicate hc]

/-- What stands behind an integer in a list, or nothing. -/
def Ends (rest : List Char) : Prop := ∀ c ∈ rest.head?, c = ',' ∨ c = ']'

/-- An integer that stands alone or before a separator is read as a plain word. -/
theorem value?_integer (lead fuel : Nat) (n : Int) (hrest : Ends rest) :
    VariableSyntax.value? (fuel + 1) (List.replicate lead ' ' ++ (integerText n ++ rest)) =
      some (.scalar .process (variableScalar n), rest) := by
  have hends (c : Char) (hc : c ∈ rest.head?) : (!VariableSyntax.isSeparator c) = false := by
    obtain rfl | rfl := hrest c hc <;> rfl
  have htake :
      (integerText n ++ rest).takeWhile (!VariableSyntax.isSeparator ·) = integerText n := by
    rw [ConnectionUrl.takeWhile_append_of_stops hends, List.takeWhile_eq_self_iff]
    exact fun c hc => by simp [isSeparator_of_mem_integerText hc]
  have hdrop : (integerText n ++ rest).dropWhile (!VariableSyntax.isSeparator ·) = rest := by
    have hword : (integerText n).dropWhile (!VariableSyntax.isSeparator ·) = [] :=
      List.dropWhile_eq_nil_iff.mpr fun c hc => by simp [isSeparator_of_mem_integerText hc]
    rw [ConnectionUrl.dropWhile_append_of_stops hends, hword, List.nil_append]
  have hbehind : rest.dropWhile isAsciiBlank = rest :=
    ConnectionUrl.dropWhile_of_stops fun c hc => by
      obtain rfl | rfl := hrest c hc <;> rfl
  have hfront : (integerText n ++ rest).dropWhile isAsciiBlank = integerText n ++ rest :=
    ConnectionUrl.dropWhile_of_stops fun c hc => by
      obtain rfl | hdigit := head_of_integerText hc
      · rfl
      · exact isAsciiBlank_of_lt (toNat_of_isAlphanum (by simp [Char.isAlphanum, hdigit])).1
  rw [VariableSyntax.value?, dropWhile_gap (by decide), hfront]
  dsimp only
  split
  all_goals first
    | next htext => exact absurd htext (integerText_append_ne (by decide) _)
    | skip
  rw [htake, hdrop, word_integerText]
  dsimp only [Option.bind_eq_bind, Option.bind_some]
  rw [hbehind]

theorem ne_bracket_cons (lead : Nat) (rest inner : List Char) :
    List.replicate lead ' ' ++ (integerText n ++ rest) ≠ ']' :: inner := by
  intro h
  cases lead with
  | zero =>
    rw [List.replicate_zero, List.nil_append] at h
    exact integerText_append_ne (by decide) inner h
  | succ lead => cases (List.cons.inj h).1

/-- An item before a comma. -/
theorem items?_comma (lead depth fuel : Nat) (rest : List Char) :
    VariableSyntax.items? (VariableSyntax.value? (depth + 1)) (fuel + 1)
        (List.replicate lead ' ' ++ (integerText n ++ ',' :: rest)) =
      (VariableSyntax.items? (VariableSyntax.value? (depth + 1)) fuel rest).map
        fun (items, rest) => (.scalar .process (variableScalar n) :: items, rest) := by
  rw [VariableSyntax.items?, value?_integer lead _ n (by simp [Ends]), Option.map_eq_bind]
  · rfl
  · exact ne_bracket_cons lead _

/-- The last item of a list. -/
theorem items?_bracket (lead depth fuel : Nat) (rest : List Char) :
    VariableSyntax.items? (VariableSyntax.value? (depth + 1)) (fuel + 1)
        (List.replicate lead ' ' ++ (integerText n ++ ']' :: rest)) =
      some ([.scalar .process (variableScalar n)], rest) := by
  rw [VariableSyntax.items?, value?_integer lead _ n (by simp [Ends])]
  · rfl
  · exact ne_bracket_cons lead _

/-- The items of a list up to its bracket, from behind a bracket or a comma. -/
theorem items?_itemsText (gap lead depth : Nat) (first : Int) (hlength : ns.length < fuel) :
    VariableSyntax.items? (VariableSyntax.value? (depth + 1)) fuel
        (List.replicate lead ' ' ++ itemsText gap (first :: ns)) =
      some ((first :: ns).map fun n => .scalar .process (variableScalar n), []) := by
  induction ns generalizing first lead fuel with
  | nil =>
    obtain ⟨fuel, rfl⟩ := Nat.exists_eq_add_one_of_ne_zero (Nat.ne_zero_of_lt hlength)
    rw [itemsText, items?_bracket]
    rfl
  | cons second more ih =>
    obtain ⟨fuel, rfl⟩ := Nat.exists_eq_add_one_of_ne_zero (Nat.ne_zero_of_lt hlength)
    rw [itemsText, items?_comma]
    · rw [ih gap second (Nat.lt_of_succ_lt_succ hlength)]
      rfl
    · exact List.cons_ne_nil second more

theorem length_lt_itemsText (gap : Nat) (ns : List Int) :
    ns.length < (itemsText gap ns).length := by
  induction ns with
  | nil => exact Nat.zero_lt_one
  | cons n more ih =>
    have hn := List.length_pos_iff.mpr (integerText_ne_nil n)
    cases more with
    | nil =>
      simp only [itemsText, List.length_cons, List.length_nil, List.length_append]
      omega
    | cons second more =>
      simp only [itemsText, List.length_cons, List.length_append] at ih ⊢
      omega

theorem value?_list (fuel : Nat) (inner : List Char) :
    VariableSyntax.value? (fuel + 1) ('[' :: inner) =
      (VariableSyntax.items? (VariableSyntax.value? fuel) (inner.length + 1) inner).map
        fun (items, rest) => (.list .process items, rest.dropWhile isAsciiBlank) := by
  have hopen : ('[' :: inner).dropWhile isAsciiBlank = '[' :: inner := rfl
  rw [VariableSyntax.value?, hopen, Option.map_eq_bind]
  cases hitems : VariableSyntax.items? (VariableSyntax.value? fuel) (inner.length + 1) inner <;>
    simp [hitems]

/-- What a variable gives whose value is written as a numeral. -/
theorem read_text (gap : Nat) (numeral : Numeral) :
    VariableSyntax.read (numeral.text gap) = numeral.setting .process variableScalar := by
  cases numeral with
  | one n =>
    have hends : Ends [] := by simp [Ends]
    have hvalue := value?_integer 0 (integerText n).length n hends
    rw [List.replicate_zero, List.nil_append, List.append_nil] at hvalue
    rw [text, VariableSyntax.read, hvalue]
    rfl
  | list ns =>
    have hitems : VariableSyntax.items? (VariableSyntax.value? ((itemsText gap ns).length + 1))
        ((itemsText gap ns).length + 1) (itemsText gap ns) =
          some (ns.map fun n => .scalar .process (variableScalar n), []) := by
      cases ns with
      | nil => rfl
      | cons n more =>
        have hlength : more.length < (itemsText gap (n :: more)).length + 1 := by
          have hlonger := length_lt_itemsText gap (n :: more)
          rw [List.length_cons] at hlonger
          omega
        have hitems := items?_itemsText gap 0 (itemsText gap (n :: more)).length n hlength
        rwa [List.replicate_zero, List.nil_append] at hitems
    rw [text, VariableSyntax.read, List.length_cons, value?_list, hitems]
    rfl

end Variables

end Numeral

end WaitingList

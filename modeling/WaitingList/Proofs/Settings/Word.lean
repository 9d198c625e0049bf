import WaitingList.Settings.Variable
import Mathlib.Data.List.TakeWhile

namespace WaitingList

section Blanks

variable {text : List Char}

theorem isBlankChar_of_isAsciiBlank {c : Char} (h : isAsciiBlank c = true) :
    isBlankChar c = true := by
  simp only [isAsciiBlank, Bool.or_eq_true, beq_iff_eq] at h
  obtain (((rfl | rfl) | rfl) | rfl) | rfl := h <;> decide

theorem length_trimBlanks_le (text : List Char) :
    (trimBlanks text).length ≤ (text.dropWhile isBlankChar).length := by
  rw [trimBlanks, List.length_reverse]
  have hkept := (List.dropWhile_sublist (l := (text.dropWhile isBlankChar).reverse)
    isBlankChar).length_le
  rwa [List.length_reverse] at hkept

theorem dropWhile_of_trimBlanks (h : trimBlanks text = text) :
    text.dropWhile isAsciiBlank = text := by
  have hkept : text.dropWhile isBlankChar = text := by
    apply (List.dropWhile_sublist isBlankChar).eq_of_length_le
    simpa only [h] using length_trimBlanks_le text
  cases text with
  | nil => rfl
  | cons c rest =>
    have hc : isAsciiBlank c = false := by
      rw [Bool.eq_false_iff]
      intro hblank
      rw [List.dropWhile_cons, if_pos (isBlankChar_of_isAsciiBlank hblank)] at hkept
      have hle := (List.dropWhile_sublist (l := rest) isBlankChar).length_le
      rw [hkept, List.length_cons] at hle
      omega
    rw [List.dropWhile_cons, hc]
    rfl

end Blanks

namespace VariableSyntax

variable {text rest after : List Char} {value : Setting} {fuel : Nat}

/-- What a text begins with that is no plain word. -/
def marks : List (List Char) := ["true".toList, "false".toList, ['\x7b'], ['['], ['"'], ['\x27']]

/-- What the syntax reads of a text behind its blanks, and what follows it. Of lists and tables no
more is told than that they are what they are. -/
inductive Written : List Char → Setting → List Char → Prop where
  | boolean {b : Bool} {after : List Char} :
      Written ((toString b).toList ++ after) (.scalar .process (.boolean b)) after
  | table {inner after : List Char} {entries : List (String × Setting)} :
      Written ('\x7b' :: inner) (.table .process entries) after
  | list {inner after : List Char} {items : List Setting} :
      Written ('[' :: inner) (.list .process items) after
  | text {inner after : List Char} {s : String} (htext : text? inner = some (s, after)) :
      Written ('"' :: inner) (.scalar .process (.text s)) after
  | char {c : Char} {after : List Char} :
      Written ('\x27' :: c :: '\x27' :: after) (.scalar .process (.char c)) after
  | word {body : List Char} (hplain : ∀ mark ∈ marks, ¬ mark <+: body) :
      Written body (.scalar .process (word (body.takeWhile (!isSeparator ·))))
        (body.dropWhile (!isSeparator ·))

theorem written_of_value? (h : value? fuel text = some (value, rest)) :
    ∃ after, Written (text.dropWhile isAsciiBlank) value after ∧
      rest = after.dropWhile isAsciiBlank := by
  cases fuel with
  | zero => cases h
  | succ fuel =>
    rw [value?] at h
    dsimp only at h
    split at h
    next after hbody =>
      obtain ⟨rfl, rfl⟩ := Prod.mk.inj (Option.some.inj h)
      have hwritten : Written ((toString true).toList ++ after) _ after := .boolean
      exact ⟨after, hbody ▸ hwritten, rfl⟩
    next after hbody =>
      obtain ⟨rfl, rfl⟩ := Prod.mk.inj (Option.some.inj h)
      have hwritten : Written ((toString false).toList ++ after) _ after := .boolean
      exact ⟨after, hbody ▸ hwritten, rfl⟩
    next inner hbody =>
      obtain ⟨found, hfound, h⟩ := Option.bind_eq_some_iff.mp h
      obtain ⟨⟨entries, behind⟩, hpairs, rfl⟩ := Option.map_eq_some_iff.mp hfound
      obtain ⟨rfl, rfl⟩ := Prod.mk.inj (Option.some.inj h)
      exact ⟨behind, hbody ▸ .table, rfl⟩
    next inner hbody =>
      obtain ⟨found, hfound, h⟩ := Option.bind_eq_some_iff.mp h
      obtain ⟨⟨items, behind⟩, _, rfl⟩ := Option.map_eq_some_iff.mp hfound
      obtain ⟨rfl, rfl⟩ := Prod.mk.inj (Option.some.inj h)
      exact ⟨behind, hbody ▸ .list, rfl⟩
    next inner hbody =>
      obtain ⟨found, hfound, h⟩ := Option.bind_eq_some_iff.mp h
      obtain ⟨⟨s, behind⟩, htext, rfl⟩ := Option.map_eq_some_iff.mp hfound
      obtain ⟨rfl, rfl⟩ := Prod.mk.inj (Option.some.inj h)
      exact ⟨behind, hbody ▸ .text htext, rfl⟩
    next inner hbody =>
      split at h
      next c after =>
        obtain ⟨rfl, rfl⟩ := Prod.mk.inj (Option.some.inj h)
        exact ⟨after, hbody ▸ .char, rfl⟩
      · cases h
    next htrue hfalse htable hlist htext hchar =>
      obtain ⟨rfl, rfl⟩ := Prod.mk.inj (Option.some.inj h)
      refine ⟨_, .word fun mark hmark hbegins => ?_, rfl⟩
      obtain ⟨inner, hbody⟩ := hbegins
      simp only [marks, List.mem_cons, List.not_mem_nil, or_false] at hmark
      obtain rfl | rfl | rfl | rfl | rfl | rfl := hmark
      · exact htrue inner hbody.symm
      · exact hfalse inner hbody.symm
      · exact htable inner hbody.symm
      · exact hlist inner hbody.symm
      · exact htext inner hbody.symm
      · exact hchar inner hbody.symm

theorem length_of_quoted? {escaped : Bool} {inner : List Char}
    (h : quoted? escaped text = some (inner, rest)) : inner.length < text.length := by
  induction text generalizing escaped inner with
  | nil => cases h
  | cons c more ih =>
    rw [quoted?] at h
    split at h
    · obtain ⟨rfl, _⟩ := Prod.mk.inj (Option.some.inj h)
      simp
    · obtain ⟨⟨found, behind⟩, hfound, heq⟩ := Option.map_eq_some_iff.mp h
      obtain ⟨rfl, rfl⟩ := Prod.mk.inj heq
      have hlt := ih hfound
      simpa using hlt

/-- An escape stands for one character. -/
theorem length_of_escape {code : Option Char} {read : List Char}
    (h : (code.bind fun c => (unescape? text).bind fun inner => some (c :: inner)) = some read)
    (hle : ∀ {inner : List Char}, unescape? text = some inner → inner.length ≤ text.length) :
    read.length ≤ text.length + 1 := by
  obtain ⟨c, _, h⟩ := Option.bind_eq_some_iff.mp h
  obtain ⟨inner, hinner, h⟩ := Option.bind_eq_some_iff.mp h
  obtain rfl := Option.some.inj h
  exact Nat.succ_le_succ (hle hinner)

theorem length_of_unescape? {read : List Char} (h : unescape? text = some read) :
    read.length ≤ text.length := by
  fun_induction unescape? text generalizing read with
  | case1 =>
    obtain rfl := Option.some.inj h
    exact Nat.le_refl _
  | case2 a b c d more ih =>
    have hle := length_of_escape h ih
    simp only [List.length_cons]
    omega
  | case3 a b c d e f g i more ih =>
    have hle := length_of_escape h ih
    simp only [List.length_cons]
    omega
  | case4 c more _ _ ih =>
    have hle := length_of_escape h ih
    simp only [List.length_cons]
    omega
  | case5 c more _ _ _ _ ih =>
    obtain ⟨inner, hinner, rfl⟩ := Option.map_eq_some_iff.mp h
    exact Nat.succ_le_succ (ih hinner)
  | case6 => cases h

/-- A text in quotes is shorter than it is written. -/
theorem length_of_text? {s : String} (h : text? text = some (s, rest)) :
    s.toList.length < text.length := by
  obtain ⟨⟨inner, behind⟩, hinner, h⟩ := Option.bind_eq_some_iff.mp h
  obtain ⟨read, hread, h⟩ := Option.bind_eq_some_iff.mp h
  obtain ⟨rfl, _⟩ := Prod.mk.inj (Option.some.inj h)
  have hquoted := length_of_quoted? hinner
  have hunescaped := length_of_unescape? hread
  rw [String.toList_ofList]
  omega

/-- A plain word: it begins with nothing that has a meaning of its own, holds no separator, has no
blank at its ends and is no number. -/
structure IsWord (text : List Char) : Prop where
  plain : ∀ mark ∈ marks, ¬ mark <+: text
  whole : ∀ c ∈ text, isSeparator c = false
  trimmed : trimBlanks text = text
  notFloating : '.' ∈ text → FloatNumber.ofText? text = none
  notUnsigned : unsigned? text = none
  notSigned : signed? text = none

theorem word_eq_text_iff {s : String} : word text = .text s ↔
    s = String.ofList (trimBlanks text) ∧
      ('.' ∈ trimBlanks text → FloatNumber.ofText? (trimBlanks text) = none) ∧
      unsigned? (trimBlanks text) = none ∧ signed? (trimBlanks text) = none := by
  rw [word]
  split
  next x hfloat =>
    obtain ⟨hcontains, hfloat⟩ := Option.ite_none_right_eq_some.mp hfloat
    have hmem : '.' ∈ trimBlanks text := List.contains_iff_mem.mp hcontains
    simp [hfloat, hmem]
  next hfloat =>
    have hnone (hmem : '.' ∈ trimBlanks text) : FloatNumber.ofText? (trimBlanks text) = none := by
      rwa [if_pos (List.contains_iff_mem.mpr hmem)] at hfloat
    split
    next n m hunsigned => simp [hunsigned]
    next n hunsigned hsigned => simp [hsigned]
    next hunsigned hsigned =>
      simp only [Scalar.text.injEq, hunsigned, hsigned, and_true]
      exact ⟨fun h => ⟨h.symm, hnone⟩, fun h => h.1.symm⟩

theorem isWord_of_value?
    (h : value? fuel text = some (.scalar .process (.text (String.ofList text)), [])) :
    IsWord text := by
  obtain ⟨after, hwritten, _⟩ := written_of_value? h
  have hbody := List.dropWhile_sublist (l := text) isAsciiBlank
  generalize hread : Setting.scalar .process (.text (String.ofList text)) = read at hwritten
  generalize text.dropWhile isAsciiBlank = body at hwritten hbody
  have hlength := hbody.length_le
  cases hwritten with
  | boolean | table | list | char => cases hread
  | @text inner after s htext =>
    cases hread
    have hshort := length_of_text? htext
    rw [String.toList_ofList] at hshort
    rw [List.length_cons] at hlength
    omega
  | word hplain =>
    have htake := List.takeWhile_sublist (l := body) (!isSeparator ·)
    have htrim : (trimBlanks (body.takeWhile (!isSeparator ·))).length ≤
        (body.takeWhile (!isSeparator ·)).length :=
      (length_trimBlanks_le _).trans (List.dropWhile_sublist isBlankChar).length_le
    have hword : word (body.takeWhile (!isSeparator ·)) = .text (String.ofList text) := by
      injection hread with _ hvalue
      exact hvalue.symm
    obtain ⟨htext, hfloating, hunsigned, hsigned⟩ := word_eq_text_iff.mp hword
    rw [String.ofList_inj] at htext
    rw [← htext] at hfloating hunsigned hsigned htrim
    have htakeLength := htake.length_le
    have hbodyText : body = text := hbody.eq_of_length_le (by omega)
    have htakeBody : body.takeWhile (!isSeparator ·) = body := htake.eq_of_length_le (by omega)
    subst hbodyText
    rw [htakeBody] at htext
    refine ⟨hplain, fun c hc => ?_, htext.symm, hfloating, hunsigned, hsigned⟩
    rw [← htakeBody] at hc
    simpa using List.mem_takeWhile_imp hc

theorem value?_of_isWord (h : IsWord text) (fuel : Nat) :
    value? (fuel + 1) text = some (.scalar .process (.text (String.ofList text)), []) := by
  have hbody := dropWhile_of_trimBlanks h.trimmed
  have hunmarked {mark inner : List Char} (hmark : mark ∈ marks) : text ≠ mark ++ inner :=
    fun heq => h.plain mark hmark ⟨inner, heq.symm⟩
  have htake : text.takeWhile (!isSeparator ·) = text :=
    List.takeWhile_eq_self_iff.mpr fun c hc => by simp [h.whole c hc]
  have hdrop : text.dropWhile (!isSeparator ·) = [] :=
    List.dropWhile_eq_nil_iff.mpr fun c hc => by simp [h.whole c hc]
  have hword : word text = .text (String.ofList text) := by
    rw [word_eq_text_iff, h.trimmed]
    exact ⟨rfl, h.notFloating, h.notUnsigned, h.notSigned⟩
  rw [value?, hbody]
  dsimp only
  split
  next inner => exact absurd rfl (@hunmarked "true".toList inner (by simp [marks]))
  next inner => exact absurd rfl (@hunmarked "false".toList inner (by simp [marks]))
  next inner => exact absurd rfl (@hunmarked ['\x7b'] inner (by simp [marks]))
  next inner => exact absurd rfl (@hunmarked ['['] inner (by simp [marks]))
  next inner => exact absurd rfl (@hunmarked ['"'] inner (by simp [marks]))
  next inner => exact absurd rfl (@hunmarked ['\x27'] inner (by simp [marks]))
  next =>
    rw [htake, hdrop, hword]
    rfl

/-- A text that the syntax leaves as it is: the syntax does not cover it to its end, or it is a
plain word. -/
def Verbatim (text : List Char) : Prop :=
  (∀ value, value? (text.length + 1) text ≠ some (value, [])) ∨ IsWord text

theorem read_eq_self_iff :
    read text = .scalar .process (.text (String.ofList text)) ↔ Verbatim text := by
  constructor
  · intro h
    by_cases hcovered : ∃ value, value? (text.length + 1) text = some (value, [])
    · obtain ⟨value, hvalue⟩ := hcovered
      rw [read, hvalue] at h
      dsimp only at h
      subst h
      exact .inr (isWord_of_value? hvalue)
    · exact .inl (not_exists.mp hcovered)
  · rintro (huncovered | hword)
    · rw [read]
      split
      next value hvalue => exact absurd hvalue (huncovered value)
      · rfl
    · rw [read, value?_of_isWord hword]

theorem source_read (text : List Char) : (read text).source = .process := by
  rw [read]
  split
  next value hvalue =>
    obtain ⟨after, hwritten, _⟩ := written_of_value? hvalue
    generalize text.dropWhile isAsciiBlank = body at hwritten
    cases hwritten <;> rfl
  · rfl

/-- A character in quotes is not the text that it is written as. -/
theorem ne_of_read_char {source : Source} {c : Char} (h : read text = .scalar source (.char c)) :
    text ≠ [c] := by
  rintro rfl
  rw [read] at h
  split at h
  next value hvalue =>
    obtain ⟨after, hwritten, _⟩ := written_of_value? hvalue
    have hlength := (List.dropWhile_sublist (l := [c]) isAsciiBlank).length_le
    generalize [c].dropWhile isAsciiBlank = body at hwritten hlength
    cases hwritten with
    | boolean | table | list | text => cases h
    | char =>
      simp only [List.length_cons, List.length_nil] at hlength
      omega
    | word =>
      injection h with _ hword
      rw [word] at hword
      split at hword
      · cases hword
      · split at hword <;> cases hword
  · cases h

end VariableSyntax

end WaitingList

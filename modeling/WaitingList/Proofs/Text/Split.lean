import Mathlib.Data.List.Basic
import Mathlib.Data.List.TakeWhile

namespace WaitingList

variable {sign : Char} {text before after : List Char}

section AtLast

theorem exists_split_at_last (hsign : sign ∈ text) :
    ∃ before after, text = before ++ sign :: after ∧ sign ∉ after := by
  obtain ⟨after, before, hreverse, hafter⟩ :=
    List.eq_append_cons_of_mem (List.mem_reverse.mpr hsign)
  refine ⟨before.reverse, after.reverse, ?_, by simpa using hafter⟩
  rw [← List.reverse_reverse text, hreverse]
  simp

/-- Up to the character, a text is found from its end. -/
theorem takeWhile_reverse_split (hafter : sign ∉ after) :
    ((before ++ sign :: after).reverse.takeWhile (· != sign)).reverse = after := by
  have hkept : ∀ c ∈ after.reverse, (c != sign) = true := by
    intro c hc
    rw [bne_iff_ne]
    rintro rfl
    exact hafter (List.mem_reverse.mp hc)
  rw [List.reverse_append, List.reverse_cons, List.append_assoc,
    List.takeWhile_append_of_pos hkept, List.singleton_append,
    List.takeWhile_cons_of_neg (by simp), List.append_nil, List.reverse_reverse]

theorem takeWhile_reverse_of_not_mem (hsign : sign ∉ text) :
    (text.reverse.takeWhile (· != sign)).reverse = text := by
  have hkept : ∀ c ∈ text.reverse, (c != sign) = true := by
    intro c hc
    rw [bne_iff_ne]
    rintro rfl
    exact hsign (List.mem_reverse.mp hc)
  rw [List.takeWhile_eq_self_iff.mpr hkept, List.reverse_reverse]

theorem take_length_split :
    (before ++ sign :: after).take ((before ++ sign :: after).length - after.length - 1) =
      before := by
  have hlength : (before ++ sign :: after).length - after.length - 1 = before.length := by
    rw [List.length_append, List.length_cons]
    omega
  rw [hlength, List.take_left]

end AtLast

section AtEach

variable {c : Char} {parts : List (List Char)}

theorem mem_intercalate_of_mem {part : List Char} (hpart : part ∈ parts) (hc : c ∈ part) :
    c ∈ [sign].intercalate parts := by
  induction parts with
  | nil => cases hpart
  | cons first rest ih =>
    cases rest with
    | nil =>
      obtain rfl := List.mem_singleton.mp hpart
      rwa [List.intercalate_singleton]
    | cons second rest =>
      rw [List.intercalate_cons_cons]
      rcases List.mem_cons.mp hpart with rfl | hrest
      · exact List.mem_append_left _ (List.mem_append_left _ hc)
      · exact List.mem_append_right _ (ih hrest)

theorem exists_part_of_mem_intercalate (hc : c ∈ [sign].intercalate parts) :
    c = sign ∨ ∃ part ∈ parts, c ∈ part := by
  induction parts with
  | nil => cases hc
  | cons first rest ih =>
    cases rest with
    | nil =>
      rw [List.intercalate_singleton] at hc
      exact .inr ⟨first, List.mem_cons_self, hc⟩
    | cons second rest =>
      rw [List.intercalate_cons_cons, List.mem_append, List.mem_append, List.mem_singleton] at hc
      rcases hc with (hfirst | hsign) | hrest
      · exact .inr ⟨first, List.mem_cons_self, hfirst⟩
      · exact .inl hsign
      · exact (ih hrest).imp_right fun ⟨part, hpart, hmem⟩ =>
          ⟨part, List.mem_cons_of_mem first hpart, hmem⟩

theorem exists_part_of_mem (sign : Char) (hc : c ∈ text) :
    c = sign ∨ ∃ part ∈ text.splitOn sign, c ∈ part := by
  have hparts : [sign].intercalate (text.splitOn sign) = text := List.intercalate_splitOn sign
  rw [← hparts] at hc
  exact exists_part_of_mem_intercalate hc

theorem mem_of_mem_part {part : List Char} (hpart : part ∈ text.splitOn sign) (hc : c ∈ part) :
    c ∈ text := by
  have hparts : [sign].intercalate (text.splitOn sign) = text := List.intercalate_splitOn sign
  rw [← hparts]
  exact mem_intercalate_of_mem hpart hc

/-- No part holds the character that parts end at. -/
theorem not_mem_part {part : List Char} (hpart : part ∈ text.splitOn sign) : sign ∉ part := by
  rw [List.splitOn_eq_splitOnP] at hpart
  induction text generalizing part with
  | nil =>
    rw [List.splitOnP_nil, List.mem_singleton] at hpart
    simp [hpart]
  | cons c rest ih =>
    rw [List.splitOnP_cons_eq_if_modifyHead] at hpart
    obtain ⟨first, others, hparts⟩ :=
      List.exists_cons_of_ne_nil (List.splitOnP_ne_nil (· == sign) rest)
    rw [hparts] at hpart ih
    split at hpart
    next hsign =>
      obtain rfl | hrest := List.mem_cons.mp hpart
      · exact List.not_mem_nil
      · exact ih hrest
    next hsign =>
      rw [List.modifyHead_cons] at hpart
      obtain rfl | hrest := List.mem_cons.mp hpart
      · rw [List.mem_cons, not_or]
        refine ⟨?_, ih List.mem_cons_self⟩
        rintro rfl
        exact hsign (beq_self_eq_true _)
      · exact ih (List.mem_cons_of_mem _ hrest)

/-- A reader of every part has read each of them. -/
theorem exists_of_mapM {α β : Type} {f : α → Option β} {l : List α} {images : List β}
    (h : l.mapM f = some images) {a : α} (ha : a ∈ l) : ∃ b ∈ images, f a = some b := by
  induction l generalizing images with
  | nil => cases ha
  | cons first rest ih =>
    rw [List.mapM_cons] at h
    obtain ⟨b, hb, h⟩ := Option.bind_eq_some_iff.mp h
    obtain ⟨others, hothers, h⟩ := Option.bind_eq_some_iff.mp h
    obtain rfl := Option.some.inj h
    rcases List.mem_cons.mp ha with rfl | hrest
    · exact ⟨b, List.mem_cons_self, hb⟩
    · obtain ⟨image, hmem, himage⟩ := ih hothers hrest
      exact ⟨image, List.mem_cons_of_mem b hmem, himage⟩

end AtEach

end WaitingList

import WaitingList.Net.IpAddress
import WaitingList.Proofs.Text.Blank
import WaitingList.Proofs.Text.Split

namespace WaitingList.IpAddress

/-- The characters that a written address can hold. -/
def IsAddressChar (c : Char) : Prop := (hexValue? c).isSome = true ∨ c = ':' ∨ c = '.'

theorem IsAddressChar.seen {c : Char} (h : IsAddressChar c) : ¬ IsUnseen c := by
  rcases h with hhex | rfl | rfl
  · simp only [hexValue?, Char.isDigit, Char.le_def, Bool.and_eq_true, decide_eq_true_eq,
      UInt32.le_iff_toNat_le, ge_iff_le, UInt32.reduceToNat, Char.reduceVal] at hhex
    apply not_isUnseen_of_bounds <;> rw [Char.toNat] <;> split_ifs at hhex <;>
      first | omega | cases hhex
  · decide
  · decide

theorem isAddressChar_of_isDigit {c : Char} (hdigit : c.isDigit = true) : IsAddressChar c :=
  .inl (by rw [hexValue?, if_pos hdigit]; rfl)

variable {text : List Char}

theorem octet?_chars {n : Nat} (h : octet? text = some n) : ∀ c ∈ text, IsAddressChar c := by
  intro c hc
  unfold octet? at h
  split at h
  · cases h
  next hdigits =>
    simp only [Bool.or_eq_true, Bool.not_eq_true', not_or, Bool.not_eq_false,
      List.all_eq_true] at hdigits
    exact isAddressChar_of_isDigit (hdigits.1.2 c hc)

theorem version4?_chars {octets : List Nat} (h : version4? text = some octets) :
    ∀ c ∈ text, IsAddressChar c := by
  intro c hc
  unfold version4? at h
  dsimp only at h
  split at h
  · rcases exists_part_of_mem '.' hc with hdot | ⟨part, hpart, hmem⟩
    · exact .inr (.inr hdot)
    · obtain ⟨n, _, hoctet⟩ := exists_of_mapM h hpart
      exact octet?_chars hoctet c hmem
  · cases h

theorem group?_chars {n : Nat} (h : group? text = some n) : ∀ c ∈ text, IsAddressChar c := by
  intro c hc
  unfold group? at h
  split at h
  · cases h
  · obtain ⟨values, hvalues, _⟩ := Option.map_eq_some_iff.mp h
    obtain ⟨value, _, hvalue⟩ := exists_of_mapM hvalues hc
    exact .inl (by rw [hvalue]; rfl)

theorem groupsOfParts?_chars {embeds : Bool} {parts : List (List Char)} {groups : List Nat}
    (h : groupsOfParts? embeds parts = some groups) :
    ∀ part ∈ parts, ∀ c ∈ part, IsAddressChar c := by
  fun_induction groupsOfParts? embeds parts generalizing groups with
  | case1 => simp
  | case2 last n hgroup =>
    intro part hpart
    rw [List.mem_singleton.mp hpart]
    exact group?_chars hgroup
  | case3 last hgroup a b c d hembedded =>
    intro part hpart
    rw [List.mem_singleton.mp hpart]
    cases embeds with
    | true => exact version4?_chars hembedded
    | false => cases hembedded
  | case4 => cases h
  | case5 first rest hrest ih =>
    obtain ⟨n, hgroup, h⟩ := Option.bind_eq_some_iff.mp h
    obtain ⟨more, hmore, _⟩ := Option.bind_eq_some_iff.mp h
    exact List.forall_mem_cons.mpr ⟨group?_chars hgroup, ih hmore⟩

theorem groups?_chars {embeds : Bool} {groups : List Nat}
    (h : groups? embeds text = some groups) : ∀ c ∈ text, IsAddressChar c := by
  intro c hc
  unfold groups? at h
  split at h
  next hempty =>
    rw [List.isEmpty_iff.mp hempty] at hc
    cases hc
  · rcases exists_part_of_mem ':' hc with hcolon | ⟨part, hpart, hmem⟩
    · exact .inr (.inl hcolon)
    · exact groupsOfParts?_chars h part hpart c hmem

theorem eq_of_splitAtGap {before after : List Char} (h : splitAtGap text = some (before, after)) :
    text = before ++ ':' :: ':' :: after := by
  fun_induction splitAtGap text generalizing before after with
  | case1 rest =>
    cases h
    rfl
  | case2 c rest _ ih =>
    obtain ⟨⟨front, back⟩, hsplit, hparts⟩ := Option.map_eq_some_iff.mp h
    cases hparts
    rw [ih hsplit, List.cons_append]
  | case3 => cases h

theorem version6?_chars {groups : List Nat} (h : version6? text = some groups) :
    ∀ c ∈ text, IsAddressChar c := by
  unfold version6? at h
  split at h
  next =>
    split at h
    next hgroups => exact groups?_chars hgroups
    next => cases h
  next before after hsplit =>
    split at h
    next hhead htail =>
      rw [eq_of_splitAtGap hsplit]
      intro c hc
      simp only [List.mem_append, List.mem_cons] at hc
      rcases hc with hbefore | hcolon | hcolon | hafter
      · exact groups?_chars hhead c hbefore
      · exact .inr (.inl hcolon)
      · exact .inr (.inl hcolon)
      · exact groups?_chars htail c hafter
    next => cases h

theorem isAddress_chars (h : isAddress text = true) : ∀ c ∈ text, IsAddressChar c := by
  rcases Bool.or_eq_true _ _ |>.mp h with hversion4 | hversion6
  · obtain ⟨octets, hoctets⟩ := Option.isSome_iff_exists.mp hversion4
    exact version4?_chars hoctets
  · obtain ⟨groups, hgroups⟩ := Option.isSome_iff_exists.mp hversion6
    exact version6?_chars hgroups

end WaitingList.IpAddress

import WaitingList.Http.Uri
import WaitingList.Proofs.Outcome
import WaitingList.Proofs.Text.Utf8
import Mathlib.Data.List.TakeWhile

namespace WaitingList.Uri

/-- What can follow a path: nothing, a query or a fragment. -/
def FollowsPath (rest : List UInt8) : Prop := ∀ b ∈ rest.head?, b = byte '?' ∨ b = byte '#'

/-- The ways to write a target, each with the bytes of its path. -/
inductive Spells : List UInt8 → List UInt8 → Prop where
  /-- A path with what follows it. -/
  | origin {path rest : List UInt8} (hslash : path.head? = some (byte '/'))
      (hpath : ∀ b ∈ path, b ≠ byte '?' ∧ b ≠ byte '#') (hrest : FollowsPath rest) :
      Spells (path ++ rest) path
  /-- A scheme and an authority, and then a path with what follows it. A path that is left out is
  the root. -/
  | absolute {scheme authority path rest : List UInt8}
      (hauthority : ∀ b ∈ authority, endsAuthority b = false)
      (hslash : ∀ b ∈ path.head?, b = byte '/')
      (hpath : ∀ b ∈ path, b ≠ byte '?' ∧ b ≠ byte '#') (hrest : FollowsPath rest) :
      Spells (scheme ++ "://".toList.map byte ++ authority ++ (path ++ rest))
        (if path.isEmpty then [byte '/'] else path)
  | asterisk : Spells [byte '*'] [byte '*']
  /-- An authority alone, which has no path. -/
  | authority {bytes : List UInt8} (hauthority : ∀ b ∈ bytes, endsAuthority b = false) :
      Spells bytes []

theorem encode_of_textOf {bytes : List UInt8} {text : String} (h : textOf bytes = .ok text) :
    Utf8.encode text.toList = bytes := by
  unfold textOf at h
  split at h
  next found hfound =>
    obtain rfl := Except.ok.inj h
    exact (Utf8.text?_eq_some_iff.mp hfound).symm
  next => cases h

/-- What is left of a list once a front of it is dropped that satisfies a condition begins with an
element that does not. -/
theorem drop_takeWhile {α : Type} (p : α → Bool) (l : List α) :
    l.takeWhile p ++ l.drop (l.takeWhile p).length = l ∧
      ∀ a ∈ (l.drop (l.takeWhile p).length).head?, p a = false := by
  have happend := List.prefix_iff_eq_append.mp (List.takeWhile_prefix p (l := l))
  have hdrop : l.drop (l.takeWhile p).length = l.dropWhile p :=
    List.append_cancel_left (happend.trans List.takeWhile_append_dropWhile.symm)
  refine ⟨happend, fun a ha => ?_⟩
  rw [hdrop] at ha
  have hhead := List.head?_dropWhile_not p l
  rw [Option.mem_def.mp ha] at hhead
  exact hhead

theorem takeWhile_path (bytes : List UInt8) :
    (bytes.takeWhile (· != byte '#')).takeWhile (· != byte '?') =
      bytes.takeWhile fun b => !(b == byte '?' || b == byte '#') := by
  rw [List.takeWhile_takeWhile]
  congr 1
  funext b
  cases hquery : b == byte '?' <;> cases hfragment : b == byte '#' <;> simp [bne, hquery, hfragment]

/-- A path ends where a query or a fragment begins, and is otherwise taken as it stands. -/
theorem pathAndQuery_spells {bytes : List UInt8} {path : String} {query : Option String}
    (h : pathAndQuery bytes = .ok (path, query)) :
    ∃ rest, bytes = Utf8.encode path.toList ++ rest ∧
      (∀ b ∈ Utf8.encode path.toList, b ≠ byte '?' ∧ b ≠ byte '#') ∧ FollowsPath rest := by
  have hpath : Utf8.encode path.toList =
      bytes.takeWhile fun b => !(b == byte '?' || b == byte '#') := by
    simp only [pathAndQuery, guard_eq_ok_iff] at h
    obtain ⟨found, hfound, hpair⟩ : ∃ found,
        textOf ((bytes.takeWhile (· != byte '#')).takeWhile (· != byte '?')) = .ok found ∧
          found = path := by
      obtain ⟨_, h⟩ := h
      split at h <;> simp only [bind_eq_ok_iff] at h
      · obtain ⟨_, _, found, hfound, hpair⟩ := h
        exact ⟨found, hfound, congrArg Prod.fst (Except.ok.inj hpair)⟩
      · obtain ⟨_, _, found, hfound, hpair⟩ := h
        exact ⟨found, hfound, congrArg Prod.fst (Except.ok.inj hpair)⟩
    rw [← hpair, encode_of_textOf hfound, takeWhile_path]
  obtain ⟨happend, hends⟩ := drop_takeWhile (fun b => !(b == byte '?' || b == byte '#')) bytes
  rw [← hpath] at happend hends
  refine ⟨_, happend.symm, ?_, ?_⟩
  · intro b hb
    rw [hpath] at hb
    simpa using List.mem_takeWhile_imp hb
  · intro b hb
    have hsign := hends b hb
    rw [Bool.not_eq_false', Bool.or_eq_true, beq_iff_eq, beq_iff_eq] at hsign
    exact hsign

/-- An authority ends where a path, a query or a fragment begins. -/
theorem splitAuthority_spells {bytes authority rest : List UInt8}
    (h : splitAuthority bytes = .ok (authority, rest)) :
    bytes = authority ++ rest ∧ (∀ b ∈ authority, endsAuthority b = false) ∧
      ∀ b ∈ rest.head?, endsAuthority b = true := by
  obtain ⟨happend, hends⟩ := drop_takeWhile (!endsAuthority ·) bytes
  simp only [splitAuthority, guard_eq_ok_iff, bind_eq_ok_iff] at h
  obtain ⟨_, _, _, _, hpair⟩ := h
  obtain ⟨rfl, rfl⟩ := Prod.mk.inj (Except.ok.inj hpair)
  refine ⟨happend.symm, fun b hb => ?_, fun b hb => ?_⟩
  · simpa using List.mem_takeWhile_imp hb
  · simpa using hends b hb

theorem splitScheme_spells {bytes scheme rest : List UInt8}
    (h : splitScheme bytes = .ok (some scheme, rest)) :
    ∃ word, bytes = word ++ "://".toList.map byte ++ rest := by
  unfold splitScheme at h
  dsimp only at h
  split at h
  · cases h
  next hsign =>
    split at h
    · cases h
    split at h
    · cases h
    have hrest := congrArg Prod.snd (Except.ok.inj h)
    dsimp only at hrest
    obtain ⟨happend, _⟩ := drop_takeWhile isSchemeByte bytes
    refine ⟨bytes.takeWhile isSchemeByte, ?_⟩
    rw [← hrest, List.append_assoc, ← not_not.mp hsign, List.take_append_drop, happend]

/-- A target that is an authority and nothing else has no path. -/
theorem authorityOnly_spells {trailing : UriFault} {bytes : List UInt8} {uri : Uri}
    (h : authorityOnly trailing bytes = .ok uri) :
    Spells bytes (Utf8.encode uri.path.toList) := by
  simp only [authorityOnly, bind_eq_ok_iff, guard_eq_ok_iff] at h
  obtain ⟨⟨authority, rest⟩, hsplit, hrest, text, _, huri⟩ := h
  obtain ⟨happend, hauthority, _⟩ := splitAuthority_spells hsplit
  obtain rfl : rest = [] := by simpa using hrest
  have hpath : uri.path = "" := (congrArg Uri.path (Except.ok.inj huri)).symm
  rw [happend, List.append_nil, hpath]
  exact .authority hauthority

theorem isEmpty_encode (text : String) :
    (Utf8.encode text.toList).isEmpty = text.isEmpty := by
  rw [Bool.eq_iff_iff, List.isEmpty_iff, String.isEmpty_iff]
  constructor
  · intro hnil
    have htext : Utf8.text? [] = some text := Utf8.text?_eq_some_iff.mpr hnil.symm
    exact (Option.some.inj htext).symm
  · rintro rfl
    rfl

theorem absolute_spells {word scheme bytes : List UInt8} {uri : Uri}
    (h : absolute scheme bytes = .ok uri) :
    Spells (word ++ "://".toList.map byte ++ bytes) (Utf8.encode uri.path.toList) := by
  simp only [absolute, bind_eq_ok_iff, guard_eq_ok_iff] at h
  obtain ⟨⟨authority, rest⟩, hsplit, _, ⟨path, query⟩, hpath, _, _, _, _, huri⟩ := h
  obtain ⟨rfl, hauthority, hslash⟩ := splitAuthority_spells hsplit
  obtain ⟨after, hafter, hplain, hfollows⟩ := pathAndQuery_spells hpath
  dsimp only at hafter
  subst hafter
  have hwritten : Utf8.encode uri.path.toList =
      if (Utf8.encode path.toList).isEmpty then [byte '/'] else Utf8.encode path.toList := by
    rw [isEmpty_encode, ← congrArg Uri.path (Except.ok.inj huri)]
    dsimp only
    split <;> rfl
  rw [hwritten, ← List.append_assoc]
  refine .absolute hauthority ?_ hplain hfollows
  intro b hb
  have hhead : (Utf8.encode path.toList ++ after).head? = some b := by
    rw [List.head?_append, Option.mem_def.mp hb, Option.some_or]
  have hends := hslash b hhead
  have hplain := hplain b (List.mem_of_head? hb)
  simpa [endsAuthority, hplain] using hends

/-- The path of a target is written in it as the same bytes. -/
theorem ofBytes_spells {bytes : List UInt8} {uri : Uri} (h : ofBytes bytes = .ok uri) :
    Spells bytes (Utf8.encode uri.path.toList) := by
  simp only [ofBytes, guard_eq_ok_iff] at h
  obtain ⟨_, h⟩ := h
  split at h
  next => cases h
  next b =>
    split at h
    next hslash =>
      obtain rfl := beq_iff_eq.mp hslash
      obtain rfl := Except.ok.inj h
      have hspells : Spells ([byte '/'] ++ []) [byte '/'] :=
        .origin rfl (List.forall_mem_singleton.mpr (by decide)) (by simp [FollowsPath])
      exact hspells
    next =>
      split at h
      next hasterisk =>
        obtain rfl := beq_iff_eq.mp hasterisk
        obtain rfl := Except.ok.inj h
        exact .asterisk
      next => exact authorityOnly_spells h
  next b tail _ =>
    split at h
    next hslash =>
      obtain rfl := beq_iff_eq.mp hslash
      obtain ⟨⟨path, query⟩, hpath, huri⟩ := bind_eq_ok_iff.mp h
      obtain rfl := Except.ok.inj huri
      obtain ⟨rest, happend, hplain, hfollows⟩ := pathAndQuery_spells hpath
      rw [happend]
      refine .origin ?_ hplain hfollows
      -- what begins with a slash and can follow a path is not there
      cases hwritten : Utf8.encode path.toList with
      | cons c left =>
        rw [hwritten] at happend
        exact congrArg some (List.cons.inj happend).1.symm
      | nil =>
        rw [hwritten, List.nil_append] at happend
        have hsign := hfollows (byte '/') (by rw [← happend]; rfl)
        revert hsign
        decide
    next =>
      obtain ⟨⟨scheme?, rest⟩, hscheme, h⟩ := bind_eq_ok_iff.mp h
      cases scheme? with
      | none => exact authorityOnly_spells h
      | some scheme =>
        obtain ⟨word, hword⟩ := splitScheme_spells hscheme
        rw [hword]
        exact absolute_spells h

end WaitingList.Uri

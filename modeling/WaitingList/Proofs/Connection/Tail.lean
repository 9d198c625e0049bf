import WaitingList.Proofs.Connection.Url

namespace WaitingList

namespace ConnectionUrl

section Tail

/-- Whether a text can stand behind the path of a URL. -/
def IsTail (tail : List Char) : Prop := ∀ c ∈ tail.head?, c = '?' ∨ c = '#'

variable {tail : List Char} (htail : IsTail tail)
include htail

theorem IsTail.eq_nil_or_cons : tail = [] ∨ ∃ c rest, tail = c :: rest ∧ (c = '?' ∨ c = '#') := by
  cases tail with
  | nil => exact .inl rfl
  | cons c rest => exact .inr ⟨c, rest, rfl, htail c rfl⟩

theorem IsTail.stops {p : Char → Bool} (hquery : p '?' = false) (hfragment : p '#' = false) :
    ∀ c ∈ tail.head?, p c = false := by
  intro c hc
  obtain rfl | rfl := htail c hc
  · exact hquery
  · exact hfragment

theorem IsTail.stops_endsAuthority : ∀ c ∈ tail.head?, (!endsAuthority c) = false :=
  htail.stops (by decide) (by decide)

end Tail

section Split

variable {p : Char → Bool} {text before after : List Char} {c : Char}

theorem mem_of_splitAtFirst? (h : splitAtFirst? p text = some (before, after)) (hc : c ∈ after) :
    c ∈ text := by
  obtain ⟨sign, rfl, -, -⟩ := splitAtFirst?_eq_some_iff.mp h
  exact List.mem_append_right _ (List.mem_cons_of_mem _ hc)

theorem mem_of_splitAtLast? {sign : Char} (h : splitAtLast? sign text = some (before, after))
    (hc : c ∈ after) : c ∈ text := by
  obtain ⟨⟨last, first⟩, hsplit, hparts⟩ := Option.map_eq_some_iff.mp h
  obtain ⟨rfl, rfl⟩ := Prod.mk.inj hparts
  obtain ⟨sign, htext, -, -⟩ := splitAtFirst?_eq_some_iff.mp hsplit
  rw [← List.mem_reverse, htext]
  exact List.mem_append_left _ (List.mem_reverse.mp hc)

theorem mem_of_splitScheme? {scheme rest : List Char} (h : splitScheme? text = some (scheme, rest))
    (hc : c ∈ rest) : c ∈ text := by
  obtain ⟨⟨before, after⟩, hsplit, h⟩ := Option.bind_eq_some_iff.mp h
  obtain ⟨first, -, h⟩ := Option.bind_eq_some_iff.mp h
  split at h
  · obtain ⟨-, rfl⟩ := Prod.mk.inj (Option.some.inj h)
    exact mem_of_splitAtFirst? hsplit hc
  · cases h

theorem length_hostEnd_le (inBrackets : Bool) (text : List Char) :
    (hostEnd inBrackets text).length ≤ text.length := by
  induction text generalizing inBrackets with
  | nil => exact Nat.le_refl 0
  | cons c rest ih =>
    rw [hostEnd]
    split
    · exact Nat.zero_le _
    · exact Nat.succ_le_succ (ih _)

theorem mem_of_splitHost? {host rest : List Char} {port : Option Nat}
    (h : splitHost? text = some (host, port, rest)) (hc : c ∈ rest) : c ∈ text := by
  obtain ⟨settled, -, h⟩ := Option.bind_eq_some_iff.mp h
  split at h
  next more hmore =>
    split at h
    · cases h
    obtain ⟨number, -, h⟩ := Option.bind_eq_some_iff.mp h
    obtain ⟨-, -, rfl⟩ := Option.some.inj h
    refine List.mem_of_mem_drop (hmore ▸ List.mem_cons_of_mem _ ?_)
    exact (List.dropWhile_suffix _).subset hc
  next =>
    obtain ⟨-, -, rfl⟩ := Option.some.inj h
    exact List.mem_of_mem_drop hc

/-- What is left behind a host stands behind the scheme already. -/
theorem mem_of_path {server login serverText host path : List Char} {port : Option Nat} {n : Nat}
    (hlogin : splitAtLast? '@' (server.takeWhile p) = some (login, serverText))
    (hhost : splitHost? (serverText ++ server.drop n) = some (host, port, path)) (hc : c ∈ path) :
    c ∈ server := by
  obtain hserver | hbehind := List.mem_append.mp (mem_of_splitHost? hhost hc)
  · exact (List.takeWhile_prefix _).subset (mem_of_splitAtLast? hlogin hserver)
  · exact List.mem_of_mem_drop hbehind

end Split

section Reading

variable {tail : List Char} (htail : IsTail tail)
include htail

/-- A scheme holds no sign that a tail begins with. -/
theorem splitScheme?_tail (text : List Char) :
    splitScheme? (text ++ tail) =
      (splitScheme? text).map fun (scheme, rest) => (scheme, rest ++ tail) := by
  cases hsplit : splitAtFirst? (· == ':') text with
  | some parts =>
    obtain ⟨before, after⟩ := parts
    obtain ⟨c, rfl, hc, hbefore⟩ := splitAtFirst?_eq_some_iff.mp hsplit
    rw [List.append_assoc, List.cons_append, splitScheme?, splitScheme?,
      splitAtFirst?_append hbefore hc, splitAtFirst?_append hbefore hc]
    simp only [Option.bind_eq_bind, Option.bind_some]
    cases before.head? with
    | none => rfl
    | some first =>
      simp only [Option.bind_some]
      split <;> rfl
  | none =>
    have hnone : splitScheme? text = none := by
      rw [splitScheme?, hsplit]
      rfl
    rw [hnone, Option.map_none]
    -- A colon that only the tail holds would take the first sign of the tail into the scheme.
    obtain rfl | ⟨c, rest, rfl, hc⟩ := htail.eq_nil_or_cons
    · rw [List.append_nil, hnone]
    · have hsign : (c == ':') = false ∧ isSchemeChar c = false := by
        obtain rfl | rfl := hc <;> decide
      have hlonger : splitAtFirst? (· == ':') (text ++ [c]) = none := by
        rw [splitAtFirst?_append_of_none hsplit, splitAtFirst?_of_none (by simpa using hsign.1)]
        rfl
      rw [List.append_cons, splitScheme?, splitAtFirst?_append_of_none hlonger]
      cases splitAtFirst? (· == ':') rest with
      | none => rfl
      | some parts =>
        have hscheme : (text ++ [c] ++ parts.1).all isSchemeChar = false := by simp [hsign.2]
        simp only [Option.map_some, Option.bind_eq_bind, Option.bind_some, hscheme, Bool.and_false,
          Bool.false_eq_true, if_false]
        cases (text ++ [c] ++ parts.1).head? <;> rfl

/-- A host and a port end where a tail begins. -/
theorem splitHost?_tail (text : List Char) :
    splitHost? (text ++ tail) =
      (splitHost? text).map fun (host, port, rest) => (host, port, rest ++ tail) := by
  have hlength : (hostEnd false (text.takeWhile (!endsAuthority ·))).length ≤ text.length :=
    (length_hostEnd_le _ _).trans (List.takeWhile_prefix _).length_le
  rw [splitHost?, splitHost?, takeWhile_append_of_stops htail.stops_endsAuthority]
  generalize hostEnd false (text.takeWhile (!endsAuthority ·)) = hostText at hlength ⊢
  rw [List.drop_append_of_le_length hlength]
  generalize text.drop hostText.length = behind
  cases host? hostText with
  | none => rfl
  | some host =>
    simp only [Option.bind_eq_bind, Option.bind_some]
    cases behind with
    | nil => obtain rfl | ⟨c, rest, rfl, rfl | rfl⟩ := htail.eq_nil_or_cons <;> rfl
    | cons c more =>
      by_cases hc : c = ':'
      · subst hc
        simp only [List.cons_append]
        have hstops := htail.stops (p := fun c => !(endsAuthority c || c == '\\')) rfl rfl
        rw [takeWhile_append_of_stops hstops, dropWhile_append_of_stops hstops]
        split
        · rfl
        · cases port? (more.takeWhile _) <;> rfl
      · simp [hc]

/-- The signs of an authority stand in front of a tail. -/
theorem eq_of_append_tail {rest more : List Char} (h : rest ++ tail = '/' :: '/' :: more) :
    ∃ server, rest = '/' :: '/' :: server ∧ more = server ++ tail := by
  have hslash : tail.head? ≠ some '/' := by
    intro hhead
    obtain hsign | hsign := htail '/' hhead <;> cases hsign
  cases rest with
  | nil => exact absurd (congrArg List.head? h) hslash
  | cons first rest =>
    obtain ⟨rfl, hbehind⟩ := List.cons.inj h
    cases rest with
    | nil => exact absurd (congrArg List.head? hbehind) hslash
    | cons second server =>
      obtain ⟨rfl, hmore⟩ := List.cons.inj hbehind
      exact ⟨server, rfl, hmore.symm⟩

/-- What a tail holds as the query. -/
def tailQuery (tail : List Char) : List Char :=
  ((tail.takeWhile (· != '#')).dropWhile (· != '?')).drop 1

/-- The path is read without the tail behind it, the query out of the tail. -/
theorem path_and_query_tail {path : List Char} (hpath : ∀ c ∈ path, c ≠ '?' ∧ c ≠ '#') :
    ((path ++ tail).takeWhile (· != '#')).takeWhile (· != '?') = path ∧
      (((path ++ tail).takeWhile (· != '#')).dropWhile (· != '?')).drop 1 = tailQuery tail := by
  have hquery : ∀ c ∈ path, (c != '?') = true := fun c hc => by simpa using (hpath c hc).1
  have hfragment : ∀ c ∈ path, (c != '#') = true := fun c hc => by simpa using (hpath c hc).2
  rw [List.takeWhile_append_of_pos hfragment, List.takeWhile_append_of_pos hquery,
    List.dropWhile_append_of_pos hquery]
  refine ⟨?_, rfl⟩
  obtain rfl | ⟨c, rest, rfl, rfl | rfl⟩ := htail.eq_nil_or_cons
  · exact List.append_nil path
  · simp
  · simp

omit htail in
/-- Texts that differ behind the path only are read with the same parts in front of the query. -/
theorem ofText?_of_same_base {text other : String} {base rest rest' : List Char}
    (hbase : ∀ c ∈ base, c ≠ '?' ∧ c ≠ '#') (hrest : IsTail rest) (hrest' : IsTail rest')
    (htext : clean text.toList = base ++ rest) (hother : clean other.toList = base ++ rest')
    {url : ConnectionUrl} (h : ofText? text = some url) :
    ofText? other = some { url with query := tailQuery rest' } := by
  -- Each reader leaves the tail behind what it leaves of the base, so the two readings go alike up
  -- to the path.
  unfold ofText? at h
  rw [htext, splitScheme?_tail hrest] at h
  obtain ⟨_, hread, h⟩ := Option.bind_eq_some_iff.mp h
  obtain ⟨⟨scheme, behind⟩, hscheme, rfl⟩ := Option.map_eq_some_iff.mp hread
  dsimp only at h
  split at h
  next more hmore =>
    obtain ⟨server, rfl, rfl⟩ := eq_of_append_tail hrest hmore
    rw [takeWhile_append_of_stops hrest.stops_endsAuthority] at h
    have hlength := (List.takeWhile_prefix (l := server) (!endsAuthority ·)).length_le
    obtain ⟨⟨login, serverText⟩, hlogin, h⟩ := Option.bind_eq_some_iff.mp h
    rw [List.drop_append_of_le_length hlength, ← List.append_assoc, splitHost?_tail hrest] at h
    obtain ⟨_, hread, h⟩ := Option.bind_eq_some_iff.mp h
    obtain ⟨⟨host, port, path⟩, hhost, rfl⟩ := Option.map_eq_some_iff.mp hread
    have hpath : ∀ c ∈ path, c ≠ '?' ∧ c ≠ '#' := by
      intro c hc
      have hserver : c ∈ server := mem_of_path hlogin hhost hc
      exact hbase c (mem_of_splitScheme? hscheme
        (List.mem_cons_of_mem _ (List.mem_cons_of_mem _ hserver)))
    obtain rfl := Option.some.inj h
    rw [ofText?, hother, splitScheme?_tail hrest', hscheme]
    simp only [Option.map_some, Option.bind_eq_bind, Option.bind_some, List.cons_append]
    rw [takeWhile_append_of_stops hrest'.stops_endsAuthority, hlogin]
    simp only [Option.bind_some]
    rw [List.drop_append_of_le_length hlength, ← List.append_assoc, splitHost?_tail hrest', hhost]
    simp only [Option.map_some, Option.bind_some, path_and_query_tail hrest' hpath,
      path_and_query_tail hrest hpath]
  · cases h

end Reading

end ConnectionUrl

end WaitingList

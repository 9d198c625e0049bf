import WaitingList.Proofs.Connection.Mode
import WaitingList.Proofs.Connection.Tail
import WaitingList.Proofs.Text.Split

namespace WaitingList

namespace ConnectionUrl

/-- A pair of a query as it is written. The sign that begins its value may be missing. -/
structure Pair where
  name : List Char
  value : Option (List Char)
  name_plain : name.all (· ∉ ['&', '=', '#']) = true := by decide
  value_plain : (value.getD []).all (· ∉ ['&', '#']) = true := by decide

namespace Pair

def text (pair : Pair) : List Char := pair.name ++ pair.value.elim [] ('=' :: ·)

/-- The option that a pair stands for. -/
def option (pair : Pair) : String × String :=
  (decodeOption pair.name, decodeOption (pair.value.getD []))

theorem ne_of_mem_name (pair : Pair) {c : Char} (hc : c ∈ pair.name) :
    c ≠ '&' ∧ c ≠ '=' ∧ c ≠ '#' := by
  simpa using List.all_eq_true.mp pair.name_plain c hc

theorem text_plain (pair : Pair) : ∀ c ∈ pair.text, c ∉ ['&', '#'] := by
  intro c hc
  obtain hname | hvalue := List.mem_append.mp hc
  · obtain ⟨hsign, -, hfragment⟩ := pair.ne_of_mem_name hname
    simp [hsign, hfragment]
  · cases hpair : pair.value with
    | none =>
      rw [hpair] at hvalue
      cases hvalue
    | some value =>
      rw [hpair] at hvalue
      obtain rfl | hmem := List.mem_cons.mp hvalue
      · decide
      · have hmem : c ∈ pair.value.getD [] := by simpa [hpair] using hmem
        exact of_decide_eq_true (List.all_eq_true.mp pair.value_plain c hmem)

/-- A pair is taken apart where it was put together. -/
theorem splitAtFirst?_text (pair : Pair) :
    (splitAtFirst? (· == '=') pair.text).getD (pair.text, []) =
      (pair.name, pair.value.getD []) := by
  have hname : ∀ c ∈ pair.name, (c == '=') = false := by
    intro c hc
    exact beq_eq_false_iff_ne.mpr (pair.ne_of_mem_name hc).2.1
  rw [text]
  cases pair.value with
  | none => simp [splitAtFirst?_of_none hname]
  | some value => simp [splitAtFirst?_append hname (beq_self_eq_true '=')]

end Pair

def queryText (pairs : List Pair) : List Char := ['&'].intercalate (pairs.map Pair.text)

theorem queryText_plain {pairs : List Pair} {c : Char} (hc : c ∈ queryText pairs) : c ≠ '#' := by
  rintro rfl
  obtain hsign | ⟨part, hpart, hc⟩ := exists_part_of_mem_intercalate hc
  · cases hsign
  · obtain ⟨pair, -, rfl⟩ := List.mem_map.mp hpart
    exact pair.text_plain '#' hc (by decide)

/-- The options of a URL are those that the pairs of its query stand for. Nothing between two signs
is no pair. -/
theorem options_of_query {url : ConnectionUrl} {pairs : List Pair}
    (hquery : url.query = queryText pairs) :
    url.options = (pairs.filter (!·.text.isEmpty)).map Pair.option := by
  rw [options, hquery]
  cases pairs with
  | nil => rfl
  | cons first rest =>
    have hplain : ∀ part ∈ (first :: rest).map Pair.text, '&' ∉ part := by
      intro part hpart hsign
      obtain ⟨pair, -, rfl⟩ := List.mem_map.mp hpart
      exact pair.text_plain '&' hsign (by decide)
    rw [queryText, List.splitOn_intercalate '&' hplain (by simp), List.filter_map, List.map_map]
    refine List.map_congr_left fun pair _ => ?_
    simp only [Function.comp_apply, pair.splitAtFirst?_text]
    rfl

/-- What stands behind the path of a URL with these pairs and this fragment. -/
def tailText (pairs : Option (List Pair)) (fragment : Option (List Char)) : List Char :=
  pairs.elim [] ('?' :: queryText ·) ++ fragment.elim [] ('#' :: ·)

section TailText

variable (pairs : Option (List Pair)) (fragment : Option (List Char))

theorem isTail_tailText : IsTail (tailText pairs fragment) := by
  intro c hc
  match pairs, fragment, hc with
  | some _, _, hc => exact .inl (Option.some.inj hc).symm
  | none, some _, hc => exact .inr (Option.some.inj hc).symm
  | none, none, hc => cases hc

theorem tailQuery_tailText : tailQuery (tailText pairs fragment) = queryText (pairs.getD []) := by
  have hfragment : (fragment.elim [] ('#' :: ·)).takeWhile (· != '#') = [] := by
    cases fragment <;> rfl
  rw [tailQuery, tailText]
  cases pairs with
  | none =>
    rw [Option.elim_none, List.nil_append, hfragment]
    rfl
  | some pairs =>
    have hquery : ∀ c ∈ '?' :: queryText pairs, (c != '#') = true := by
      intro c hc
      obtain rfl | hmem := List.mem_cons.mp hc
      · decide
      · exact bne_iff_ne.mpr (queryText_plain hmem)
    rw [Option.elim_some, List.takeWhile_append_of_pos hquery, hfragment, List.append_nil,
      List.dropWhile_cons_of_neg (by decide)]
    rfl

end TailText

/-- A text as a URL: what it holds up to the end of its path, its query and its fragment, without
the characters that a URL loses. -/
structure Outline (text : String) where
  base : List Char
  pairs : Option (List Pair)
  fragment : Option (List Char)
  base_plain : base.all (· ∉ ['?', '#']) = true := by decide
  written : clean text.toList = base ++ tailText pairs fragment := by decide

namespace Outline

variable {text : String} (outline : Outline text)

/-- The options that the pairs stand for, in order. -/
def options : List (String × String) := (outline.pairs.getD []).map Pair.option

/-- Pairs that are empty set no mode. -/
theorem modeWords_options {url : ConnectionUrl}
    (hquery : url.query = tailQuery (tailText outline.pairs outline.fragment)) :
    ConnectionTarget.modeWords url.options = ConnectionTarget.modeWords outline.options := by
  rw [options_of_query (hquery.trans (tailQuery_tailText _ _)), options]
  generalize outline.pairs.getD [] = pairs
  rw [ConnectionTarget.modeWords, ConnectionTarget.modeWords, List.filterMap_map,
    List.filterMap_map, List.filterMap_filter]
  refine List.filterMap_congr fun pair _ => ?_
  cases hempty : pair.text.isEmpty with
  | false => rfl
  | true =>
    obtain ⟨hname, -⟩ := List.append_eq_nil_iff.mp (List.isEmpty_iff.mp hempty)
    have hother : decodeOption [] ≠ "sslmode" := by decide
    simp [Pair.option, hname, hother]

end Outline

section Every

/-- Every part of a query is a pair. -/
theorem exists_pair {part : List Char} (hplain : ∀ c ∈ part, c ∉ ['&', '#']) :
    ∃ pair : Pair, pair.text = part := by
  have hname {name : List Char} (hmem : ∀ c ∈ name, c ∈ part)
      (hsign : ∀ c ∈ name, (c == '=') = false) : name.all (· ∉ ['&', '=', '#']) = true := by
    rw [List.all_eq_true]
    intro c hc
    have hother := hplain c (hmem c hc)
    have hequals := hsign c hc
    simp_all
  cases hsplit : splitAtFirst? (· == '=') part with
  | none =>
    have hsign := splitAtFirst?_eq_none_iff.mp hsplit
    exact ⟨⟨part, none, hname (fun _ hc => hc) hsign, by simp⟩, List.append_nil part⟩
  | some parts =>
    obtain ⟨name, value⟩ := parts
    obtain ⟨c, rfl, hc, hsign⟩ := splitAtFirst?_eq_some_iff.mp hsplit
    obtain rfl := beq_iff_eq.mp hc
    have hvalue : value.all (· ∉ ['&', '#']) = true := by
      rw [List.all_eq_true]
      intro c hc
      exact decide_eq_true (hplain c (List.mem_append_right _ (List.mem_cons_of_mem _ hc)))
    exact ⟨⟨name, some value, hname (fun _ hc => List.mem_append_left _ hc) hsign, hvalue⟩, rfl⟩

theorem exists_pairs {parts : List (List Char)}
    (hplain : ∀ part ∈ parts, ∀ c ∈ part, c ∉ ['&', '#']) :
    ∃ pairs : List Pair, pairs.map Pair.text = parts := by
  induction parts with
  | nil => exact ⟨[], rfl⟩
  | cons part rest ih =>
    obtain ⟨pair, rfl⟩ := exists_pair (hplain part List.mem_cons_self)
    obtain ⟨pairs, rfl⟩ := ih fun other hother => hplain other (List.mem_cons_of_mem _ hother)
    exact ⟨pair :: pairs, rfl⟩

/-- Every query is made of pairs. -/
theorem exists_queryText {query : List Char} (hfragment : '#' ∉ query) :
    ∃ pairs, queryText pairs = query := by
  have hplain : ∀ part ∈ query.splitOn '&', ∀ c ∈ part, c ∉ ['&', '#'] := by
    intro part hpart c hc hsign
    simp only [List.mem_cons, List.not_mem_nil, or_false] at hsign
    obtain rfl | rfl := hsign
    · exact not_mem_part hpart hc
    · exact hfragment (mem_of_mem_part hpart hc)
  obtain ⟨pairs, hpairs⟩ := exists_pairs hplain
  exact ⟨pairs, by rw [queryText, hpairs, List.intercalate_splitOn]⟩

/-- Every text has an outline. -/
theorem exists_outline (text : String) : Nonempty (Outline text) := by
  cases hquery : splitAtFirst? (fun c => c == '?' || c == '#') (clean text.toList) with
  | none =>
    have hplain := splitAtFirst?_eq_none_iff.mp hquery
    exact ⟨⟨clean text.toList, none, none, by simpa using hplain, (List.append_nil _).symm⟩⟩
  | some parts =>
    obtain ⟨base, rest⟩ := parts
    obtain ⟨c, htext, hc, hplain⟩ := splitAtFirst?_eq_some_iff.mp hquery
    have hbase : base.all (· ∉ ['?', '#']) = true := by simpa using hplain
    simp only [Bool.or_eq_true, beq_iff_eq] at hc
    obtain rfl | rfl := hc
    · cases hfragment : splitAtFirst? (· == '#') rest with
      | none =>
        have hsign : '#' ∉ rest := fun hsign => by
          simpa using splitAtFirst?_eq_none_iff.mp hfragment '#' hsign
        obtain ⟨pairs, rfl⟩ := exists_queryText hsign
        exact ⟨⟨base, some pairs, none, hbase, by simpa [tailText] using htext⟩⟩
      | some parts =>
        obtain ⟨query, fragment⟩ := parts
        obtain ⟨c, rfl, hc, hsign⟩ := splitAtFirst?_eq_some_iff.mp hfragment
        obtain rfl := beq_iff_eq.mp hc
        obtain ⟨pairs, rfl⟩ := exists_queryText fun hmem => by simpa using hsign '#' hmem
        exact ⟨⟨base, some pairs, some fragment, hbase, by simpa [tailText] using htext⟩⟩
    · exact ⟨⟨base, none, some rest, hbase, by simpa [tailText] using htext⟩⟩

end Every

end ConnectionUrl

namespace ConnectionTarget

open ConnectionUrl (Outline)

/-- Behind a path that a target is read from, the words for the mode decide whether a target is
read, and then which mode it has. -/
theorem ofUrl?_of_same_base {known text : String} {plain : ConnectionTarget}
    (given : Outline known) (asked : Outline text) (hbase : asked.base = given.base)
    (hknown : ofUrl? known = some plain) :
    ofUrl? text = ((modeWords asked.options).foldlM (fun _ => SslMode.ofOption?) .prefer).map
      fun mode => { plain with sslMode := mode } := by
  obtain ⟨url, hurl, htarget⟩ := Option.bind_eq_some_iff.mp hknown
  have hplain : ∀ c ∈ given.base, c ≠ '?' ∧ c ≠ '#' := by simpa using given.base_plain
  have hread := ConnectionUrl.ofText?_of_same_base hplain
    (ConnectionUrl.isTail_tailText _ _) (ConnectionUrl.isTail_tailText _ _) given.written
    (hbase ▸ asked.written) hurl
  rw [ofUrl?, hread, Option.bind_eq_bind, Option.bind_some, ofUrlParts?_of_same_parts htarget rfl,
    sslMode?_eq_foldlM, asked.modeWords_options rfl]

/-- The mode that a URL asks for is the one that is used. What it asks for is told from the pairs of
its query: each word for the mode has to be one, or the URL is that of no target, and the last one
is taken. Everything else of the target is told by what the URL holds in front of its query. Any
text behind that has its pairs and its fragment, as `exists_outline` says. -/
theorem ofUrl?_asks_for_mode {known text : String} {plain : ConnectionTarget}
    (given : Outline known) (asked : Outline text) (hbase : asked.base = given.base)
    (hplain : ofUrl? known = some plain) :
    ((∃ target, ofUrl? text = some target) ↔
      ∀ word, ("sslmode", word) ∈ asked.options → ∃ mode, (word, mode) ∈ SslMode.documented) ∧
    (∀ target, ofUrl? text = some target →
      (modeWords asked.options).getLast?.elim (target.sslMode = .prefer)
        (fun word => (word, target.sslMode) ∈ SslMode.documented) ∧
      target = { plain with sslMode := target.sslMode } ∧
      target.options = { plain.options with sslMode := target.sslMode } ∧
      target.serverOptions = { plain.serverOptions with sslMode := target.sslMode }) ∧
    ∀ {other : String} (outline : Outline other), outline.base = given.base →
      modeWords outline.options = modeWords asked.options → ofUrl? other = ofUrl? text := by
  have hread := ofUrl?_of_same_base given asked hbase hplain
  refine ⟨?_, fun target htarget => ?_, fun outline hsame hwords => ?_⟩
  · rw [hread, ← Option.isSome_iff_exists, Option.isSome_map, Option.isSome_iff_exists,
      exists_foldlM_ofOption?_iff]
    simp only [mem_modeWords, SslMode.mem_documented]
  · rw [hread] at htarget
    obtain ⟨mode, hmode, rfl⟩ := Option.map_eq_some_iff.mp htarget
    refine ⟨?_, rfl, rfl, rfl⟩
    simp only [SslMode.mem_documented]
    exact (foldlM_ofOption?_eq_some_iff.mp hmode).2
  · rw [hread, ofUrl?_of_same_base given outline hsame hplain, hwords]

/-- A mode is asked for twice, once in other letters, among pairs that only look like one and in
front of a fragment that does too. A word that is no mode is not made good by a later one. -/
theorem ofUrl?_asks_for_mode_twice :
    let asked := "postgres://u:p@h/d?sslmode=allow&x&ssl%6Dode=verify%2dca&Sslmode&&sslmode+#&"
    ofUrl? asked = some ⟨"u", "p", 5432, "h", "d", .verifyCa⟩ ∧
      ofUrl? "postgres://u:p@h/d?sslmode&sslmode=require" = none := by
  intro asked
  have hplain : ofUrl? "postgres://u:p@h/d" = some ⟨"u", "p", 5432, "h", "d", .prefer⟩ := by
    decide +kernel
  let given : Outline "postgres://u:p@h/d" :=
    { base := "postgres://u:p@h/d".toList, pairs := none, fragment := none }
  let twice : Outline asked :=
    { base := "postgres://u:p@h/d".toList
      pairs := some
        [{ name := "sslmode".toList, value := "allow".toList },
          { name := "x".toList, value := none },
          { name := "ssl%6Dode".toList, value := "verify%2dca".toList },
          { name := "Sslmode".toList, value := none },
          { name := [], value := none },
          { name := "sslmode+".toList, value := none }]
      fragment := some ['&']
      written := by decide +kernel }
  let masked : Outline "postgres://u:p@h/d?sslmode&sslmode=require" :=
    { base := "postgres://u:p@h/d".toList
      pairs := some
        [{ name := "sslmode".toList, value := none },
          { name := "sslmode".toList, value := "require".toList }]
      fragment := none }
  constructor
  · have hwords : modeWords twice.options = ["allow", "verify-ca"] := by decide +kernel
    obtain ⟨hread, hmode, -⟩ := ofUrl?_asks_for_mode given twice rfl hplain
    obtain ⟨target, htarget⟩ := hread.mpr fun word hword => by
      have hmem : word ∈ ["allow", "verify-ca"] := hwords ▸ mem_modeWords.mpr hword
      simp only [List.mem_cons, List.not_mem_nil, or_false] at hmem
      obtain rfl | rfl := hmem
      · exact ⟨.allow, by decide⟩
      · exact ⟨.verifyCa, by decide⟩
    obtain ⟨hlast, hparts, -⟩ := hmode target htarget
    rw [hwords] at hlast
    have hcertified : target.sslMode = .verifyCa :=
      SslMode.option_injective (SslMode.mem_documented.mp hlast)
    rw [htarget, hparts, hcertified]
  · have hword : ("sslmode", "") ∈ masked.options := by decide +kernel
    obtain ⟨hread, -⟩ := ofUrl?_asks_for_mode given masked rfl hplain
    rw [Option.eq_none_iff_forall_ne_some]
    intro target htarget
    obtain ⟨mode, hmode⟩ := hread.mp ⟨target, htarget⟩ "" hword
    revert hmode
    cases mode <;> decide

end ConnectionTarget

end WaitingList

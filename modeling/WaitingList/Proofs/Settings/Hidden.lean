import WaitingList.Proofs.Settings.Section

namespace WaitingList

namespace Setting

variable {key other : String} {f : Setting → Setting} {value : Setting}
  {entries lower upper : List (String × Setting)}

/-- A setting of which only is left where it was written. -/
def hidden (s : Setting) : Setting := scalar s.source (.text "")

/-- Entries with what stands under a key changed. -/
def adjust (key : String) (f : Setting → Setting) (entries : List (String × Setting)) :
    List (String × Setting) :=
  entries.map fun entry => (entry.1, if entry.1 = key then f entry.2 else entry.2)

theorem adjust_cons (key k : String) (f : Setting → Setting) (v : Setting)
    (rest : List (String × Setting)) :
    adjust key f ((k, v) :: rest) = (k, if k = key then f v else v) :: adjust key f rest := rfl

theorem lookup_adjust : (adjust key f entries).lookup other =
    (entries.lookup other).map fun found => if other = key then f found else found := by
  induction entries with
  | nil => rfl
  | cons entry rest ih =>
    obtain ⟨k, v⟩ := entry
    rw [adjust_cons, lookup_cons_eq, lookup_cons_eq, ih]
    by_cases hother : other = k
    · subst hother
      rw [if_pos rfl, if_pos rfl, Option.map_some]
    · rw [if_neg hother, if_neg hother]

theorem adjust_put : adjust key f (put other value entries) =
    put other (if other = key then f value else value) (adjust key f entries) := by
  induction entries with
  | nil => rfl
  | cons entry rest ih =>
    obtain ⟨k, v⟩ := entry
    rw [put, adjust_cons, put]
    by_cases hk : k = other
    · rw [if_pos hk, if_pos hk, adjust_cons]
    · rw [if_neg hk, if_neg hk, adjust_cons, ih]

/-- A change that may be made before or after one value is laid over another may be made so in
entries too. -/
theorem adjust_mergeEntries
    (hf : ∀ below above, f (below.merge above) = (f below).merge (f above)) :
    adjust key f (mergeEntries lower upper) =
      mergeEntries (adjust key f lower) (adjust key f upper) := by
  induction upper generalizing lower with
  | nil => rfl
  | cons entry rest ih =>
    obtain ⟨k, above⟩ := entry
    rw [mergeEntries, adjust_cons, mergeEntries, ih, adjust_put, lookup_adjust]
    cases lower.lookup k with
    | none => rfl
    | some below =>
      by_cases hk : k = key
      · subst hk
        simp [hf]
      · simp [hk]

theorem hidden_merge (below above : Setting) :
    (below.merge above).hidden = below.hidden.merge above.hidden := by
  cases above <;> rfl

/-- What names the store, with the password hidden. -/
def hideInSection : Setting → Setting
  | table source entries => table source (adjust "password" hidden entries)
  | list source items => list source (items.modify 1 hidden)
  | scalar source value => scalar source value

theorem hideInSection_merge (below above : Setting) :
    (below.merge above).hideInSection = below.hideInSection.merge above.hideInSection := by
  cases above with
  | scalar | list => rfl
  | table source entries =>
    have hbelow : below.hideInSection.entries = adjust "password" hidden below.entries := by
      cases below <;> rfl
    rw [merge, hideInSection, hideInSection, merge, hbelow, adjust_mergeEntries hidden_merge]

/-- A tree of settings with the password of the store hidden. -/
def hidePassword : Setting → Setting
  | table source entries => table source (adjust "db_config" hideInSection entries)
  | list source items => list source items
  | scalar source value => scalar source value

theorem entries_hidePassword (s : Setting) :
    s.hidePassword.entries = adjust "db_config" hideInSection s.entries := by
  cases s <;> rfl

/-- What lies over each other hides the password like what it is put together from. -/
theorem hidePassword_merge (below above : Setting) :
    (below.merge above).hidePassword = below.hidePassword.merge above.hidePassword := by
  cases above with
  | scalar | list => rfl
  | table source entries =>
    rw [merge, hidePassword, hidePassword, merge, entries_hidePassword,
      adjust_mergeEntries hideInSection_merge]

theorem hidePassword_foldl (layers : List Setting) (bottom : Setting) :
    (layers.foldl merge bottom).hidePassword =
      (layers.map hidePassword).foldl merge bottom.hidePassword := by
  induction layers generalizing bottom with
  | nil => rfl
  | cons layer rest ih =>
    rw [List.foldl_cons, ih, hidePassword_merge, List.map_cons, List.foldl_cons]

/-- The password in what names the store, with the last key of its path. -/
def sectionPassword? : Setting → Option (String × Setting)
  | table _ entries => (entries.lookup "password").map fun found => ("password", found)
  | list _ items => items[1]?.map fun found => ("1", found)
  | scalar _ _ => none

/-- The password in a tree of settings, with the last key of its path. -/
def password? (tree : Setting) : Option (String × Setting) :=
  (tree.entries.lookup "db_config").bind sectionPassword?

/-- Whether a setting passes for a text. -/
def isText : Setting → Bool
  | scalar _ (.text _) | scalar _ (.char _) => true
  | _ => false

end Setting

/-- Settings with the password of the store hidden. -/
def Settings.hidePassword (r : Settings) : Settings :=
  { r with target := TextField.password.put "" r.target }

namespace Extraction

open Setting (adjust hideInSection sectionPassword? password?)

variable {α β : Type} {key other : String} {path : List String}
  {entries : List (String × Setting)}

theorem value?_adjust_of_ne {read : Reader α} {f : Setting → Setting} (hne : other ≠ key) :
    value? read other path (adjust key f entries) = value? read other path entries := by
  rw [value?, value?, Setting.lookup_adjust]
  cases entries.lookup other with
  | none => rfl
  | some found => rw [Option.map_some, if_neg hne]

theorem text_eq_of_isText {setting : Setting} (h : setting.isText = true) :
    ∃ written, text path setting = .ok written := by
  cases setting with
  | scalar source value => cases value <;> first | exact ⟨_, rfl⟩ | cases h
  | list | table => cases h

theorem text_eq_of_not_isText {setting : Setting} (h : setting.isText = false) :
    text path setting = wrongKind "a string" path setting := by
  cases setting with
  | scalar source value => cases value <;> first | rfl | cases h
  | list | table => rfl

theorem value?_hidden : value? text key path (adjust key Setting.hidden entries) =
    .ok ((entries.lookup key).map fun _ => "") := by
  rw [value?, Setting.lookup_adjust]
  cases entries.lookup key with
  | none => rfl
  | some found =>
    rw [Option.map_some, if_pos rfl]
    rfl

/-- A key for a text is read as one, or not there, or refused. -/
theorem value?_text_cases (key : String) (path : List String)
    (entries : List (String × Setting)) :
    (∃ written : Option String, value? text key path entries = .ok written ∧
      value? text key path (adjust key Setting.hidden entries) = .ok (written.map fun _ => "")) ∨
      ∃ found, entries.lookup key = some found ∧ found.isText = false ∧
        value? text key path entries = wrongKind "a string" (path ++ [key]) found := by
  rw [value?_hidden]
  cases hfound : entries.lookup key with
  | none => exact .inl ⟨none, by rw [value?, hfound], rfl⟩
  | some found =>
    rw [value?_of_lookup hfound]
    cases htext : found.isText with
    | false =>
      refine .inr ⟨found, rfl, htext, ?_⟩
      rw [text_eq_of_not_isText htext]
      rfl
    | true =>
      have hread : ∃ written, text (path ++ [key]) found = .ok written := text_eq_of_isText htext
      obtain ⟨written, hwritten⟩ := hread
      exact .inl ⟨some written, by rw [hwritten]; rfl, rfl⟩

/-- The keys of the store but for the password are read as before. -/
theorem target_hidden_table (path : List String) (source : Source)
    (entries : List (String × Setting)) :
    target path (hideInSection (.table source entries)) =
        (target path (.table source entries)).map (TextField.password.put "") ∨
      ∃ found, entries.lookup "password" = some found ∧ found.isText = false ∧
        target path (.table source entries) =
          wrongKind "a string" (path ++ ["password"]) found := by
  simp only [hideInSection, target, value?_adjust_of_ne (show "db_name" ≠ "password" by decide),
    value?_adjust_of_ne (show "host" ≠ "password" by decide),
    value?_adjust_of_ne (show "port" ≠ "password" by decide),
    value?_adjust_of_ne (show "require_ssl" ≠ "password" by decide),
    value?_adjust_of_ne (show "username" ≠ "password" by decide), map_bind]
  cases value? text "db_name" path entries with
  | error mismatch => exact .inl rfl
  | ok database =>
    cases value? text "host" path entries with
    | error mismatch => exact .inl rfl
    | ok host =>
      obtain ⟨written, hread, hhidden⟩ | ⟨found, hfound, htext, hread⟩ :=
        value?_text_cases "password" path entries
      · left
        rw [hread, hhidden]
        simp only [ok_bind]
        refine bind_congr fun port => bind_congr fun mode => bind_congr fun username =>
          bind_congr fun user => ?_
        cases written <;> rfl
      · exact .inr ⟨found, hfound, htext, by rw [hread]; rfl⟩

theorem item_modify_of_ne {read : Reader α} {index : Nat} {expected : String} {source : Source}
    {items : List Setting} (hne : index ≠ 1) :
    item read index expected path source (items.modify 1 Setting.hidden) =
      item read index expected path source items := by
  have hkept : (items.modify 1 Setting.hidden)[index]? = items[index]? := by
    simp [hne.symm]
  rw [item, item, hkept]

/-- A text in a list is read as one, or the list is too short, or the text is refused. -/
theorem item_text_cases (expected : String) (path : List String) (source : Source)
    (items : List Setting) :
    (∃ mismatch, item text 1 expected path source items = .error mismatch ∧
      item text 1 expected path source (items.modify 1 Setting.hidden) = .error mismatch) ∨
    (∃ written, item text 1 expected path source items = .ok written ∧
      item text 1 expected path source (items.modify 1 Setting.hidden) = .ok "") ∨
    ∃ found, items[1]? = some found ∧ found.isText = false ∧
      item text 1 expected path source items = wrongKind "a string" (path ++ ["1"]) found := by
  have hhidden : (items.modify 1 Setting.hidden)[1]? = items[1]?.map Setting.hidden := by
    simp
  rw [item, item, hhidden]
  cases hfound : items[1]? with
  | none => exact .inl ⟨_, rfl, rfl⟩
  | some found =>
    right
    cases htext : found.isText with
    | false => exact .inr ⟨found, rfl, htext, text_eq_of_not_isText htext⟩
    | true =>
      have hread : ∃ written, text (path ++ [toString 1]) found = .ok written :=
        text_eq_of_isText htext
      obtain ⟨written, hwritten⟩ := hread
      exact .inl ⟨written, hwritten, rfl⟩

theorem target_hidden_list (path : List String) (source : Source) (items : List Setting) :
    target path (hideInSection (.list source items)) =
        (target path (.list source items)).map (TextField.password.put "") ∨
      ∃ found, items[1]? = some found ∧ found.isText = false ∧
        target path (.list source items) = wrongKind "a string" (path ++ ["1"]) found := by
  simp only [hideInSection, target, item_modify_of_ne (show 0 ≠ 1 by decide),
    item_modify_of_ne (show 2 ≠ 1 by decide), item_modify_of_ne (show 3 ≠ 1 by decide),
    item_modify_of_ne (show 4 ≠ 1 by decide), item_modify_of_ne (show 5 ≠ 1 by decide), map_bind]
  cases item text 0 "struct DbConfig with 6 elements" path source items with
  | error mismatch => exact .inl rfl
  | ok username =>
    obtain ⟨mismatch, hread, hhidden⟩ | ⟨written, hread, hhidden⟩ | ⟨found, hfound, htext, hread⟩ :=
      item_text_cases "struct DbConfig with 6 elements" path source items
    · exact .inl (by rw [hread, hhidden]; rfl)
    · exact .inl (by rw [hread, hhidden]; rfl)
    · exact .inr ⟨found, hfound, htext, by rw [hread]; rfl⟩

/-- Hiding the password hides it in the target that is read, unless the reading ends with the
password because it is no text. -/
theorem target_hideInSection (path : List String) (part : Setting) :
    target path part.hideInSection = (target path part).map (TextField.password.put "") ∨
      ∃ key found, sectionPassword? part = some (key, found) ∧ found.isText = false ∧
        target path part = wrongKind "a string" (path ++ [key]) found := by
  cases part with
  | scalar source value => exact .inl rfl
  | list source items =>
    obtain hhidden | ⟨found, hfound, htext, hread⟩ := target_hidden_list path source items
    · exact .inl hhidden
    · exact .inr ⟨"1", found, by rw [sectionPassword?, hfound]; rfl, htext, hread⟩
  | table source entries =>
    obtain hhidden | ⟨found, hfound, htext, hread⟩ := target_hidden_table path source entries
    · exact .inl hhidden
    · exact .inr ⟨"password", found, by rw [sectionPassword?, hfound]; rfl, htext, hread⟩

/-- Hiding the password in a tree hides it in the settings that the tree amounts to, unless the
reading ends with the password because it is no text. -/
theorem settings_hidePassword (tree : Setting) :
    settings tree.hidePassword.entries = (settings tree.entries).map Settings.hidePassword ∨
      ∃ key found, tree.password? = some (key, found) ∧ found.isText = false ∧
        settings tree.entries = wrongKind "a string" ["db_config", key] found := by
  rw [Setting.entries_hidePassword]
  simp only [settings, value?_adjust_of_ne (show "net_config" ≠ "db_config" by decide),
    value?_adjust_of_ne (show "pool_config" ≠ "db_config" by decide),
    value?_adjust_of_ne (show "subscribe_config" ≠ "db_config" by decide), map_bind]
  cases hpart : tree.entries.lookup "db_config" with
  | none =>
    have hnone : value? target "db_config" [] tree.entries = .ok none := by rw [value?, hpart]
    have hhidden : value? target "db_config" [] (adjust "db_config" hideInSection tree.entries) =
        .ok none := by
      rw [value?, Setting.lookup_adjust, hpart, Option.map_none]
    left
    rw [hnone, hhidden]
    rfl
  | some part =>
    have hhiddenPart : (adjust "db_config" hideInSection tree.entries).lookup "db_config" =
        some part.hideInSection := by
      rw [Setting.lookup_adjust, hpart, Option.map_some, if_pos rfl]
    rw [value?_of_lookup hpart, value?_of_lookup hhiddenPart]
    obtain hhidden | ⟨key, found, hfound, htext, hread⟩ :=
      target_hideInSection ([] ++ ["db_config"]) part
    · left
      rw [hhidden]
      cases target ([] ++ ["db_config"]) part with
      | error mismatch => rfl
      | ok read => rfl
    · refine .inr ⟨key, found, by rw [password?, hpart]; exact hfound, htext, ?_⟩
      rw [hread]
      rfl

end Extraction

end WaitingList

import WaitingList.Connection.Target

namespace WaitingList

namespace SslMode

/-- The word for a mode stands for that mode and no other. -/
theorem ofOption?_eq_some_iff {word : String} {mode : SslMode} :
    ofOption? word = some mode ↔ mode.option = word := by
  constructor
  · intro hfound
    unfold ofOption? at hfound
    have hword := List.find?_some hfound
    exact beq_iff_eq.mp hword
  · rintro rfl
    cases mode <;> decide

theorem option_injective : Function.Injective option := by
  intro mode other hoption
  have hmode := ofOption?_eq_some_iff.mpr hoption
  rw [ofOption?_eq_some_iff.mpr rfl] at hmode
  exact (Option.some.inj hmode).symm

/-- The words that are documented, each with the mode that it is documented for. -/
def documented : List (String × SslMode) :=
  [("disable", disable), ("allow", allow), ("prefer", prefer), ("require", require),
    ("verify-ca", verifyCa), ("verify-full", verifyFull)]

theorem mem_documented {word : String} {mode : SslMode} :
    (word, mode) ∈ documented ↔ mode.option = word := by
  constructor
  · intro hentry
    have hall : ∀ entry ∈ documented, entry.2.option = entry.1 := by decide
    exact hall (word, mode) hentry
  · rintro rfl
    cases mode <;> decide

end SslMode

namespace ConnectionTarget

/-- The words that options give for the mode, in order. -/
def modeWords (options : List (String × String)) : List String :=
  options.filterMap fun (name, value) => if name = "sslmode" then some value else none

theorem mem_modeWords {options : List (String × String)} {word : String} :
    word ∈ modeWords options ↔ ("sslmode", word) ∈ options := by
  rw [modeWords, List.mem_filterMap]
  constructor
  · rintro ⟨⟨name, value⟩, hoption, hword⟩
    dsimp only at hword
    split at hword
    next hname =>
      obtain rfl := Option.some.inj hword
      exact hname ▸ hoption
    · cases hword
  · exact fun hoption => ⟨_, hoption, rfl⟩

theorem modeWords_eq_nil {options : List (String × String)}
    (hother : ∀ option ∈ options, option.1 ≠ "sslmode") : modeWords options = [] := by
  rw [modeWords, List.filterMap_eq_nil_iff]
  intro option hoption
  exact if_neg (hother option hoption)

/-- Options that set no mode do not count. -/
theorem sslMode?_eq_foldlM (options : List (String × String)) :
    sslMode? options = (modeWords options).foldlM (fun _ => SslMode.ofOption?) .prefer := by
  rw [sslMode?]
  generalize SslMode.prefer = start
  induction options generalizing start with
  | nil => rfl
  | cons option rest ih =>
    obtain ⟨name, value⟩ := option
    by_cases hname : name = "sslmode"
    · simp only [modeWords, hname, sslModeKey, List.foldlM_cons, List.filterMap_cons, if_true,
        Option.bind_eq_bind]
      exact Option.bind_congr fun found _ => ih found
    · simp only [modeWords, hname, sslModeKey, List.foldlM_cons, List.filterMap_cons, if_false,
        Option.bind_eq_bind, Option.bind_some]
      exact ih start

/-- Each word has to be one for a mode, and the last one is taken. -/
theorem foldlM_ofOption?_eq_some_iff {words : List String} {start mode : SslMode} :
    words.foldlM (fun _ => SslMode.ofOption?) start = some mode ↔
      (∀ word ∈ words, ∃ mode : SslMode, mode.option = word) ∧
        words.getLast?.elim (mode = start) (mode.option = ·) := by
  induction words generalizing start with
  | nil => simp [eq_comm]
  | cons word rest ih =>
    rw [List.foldlM_cons, Option.bind_eq_bind, Option.bind_eq_some_iff]
    simp only [SslMode.ofOption?_eq_some_iff, ih, List.mem_cons, forall_eq_or_imp,
      List.getLast?_cons]
    -- The mode of the first word counts only if no other word follows.
    constructor
    · rintro ⟨found, hfound, hrest, hlast⟩
      refine ⟨⟨⟨found, hfound⟩, hrest⟩, ?_⟩
      cases hend : rest.getLast? with
      | none =>
        rw [hend] at hlast
        subst hlast
        exact hfound
      | some last =>
        rw [hend] at hlast
        exact hlast
    · rintro ⟨⟨⟨found, hfound⟩, hrest⟩, hlast⟩
      refine ⟨found, hfound, hrest, ?_⟩
      cases hend : rest.getLast? with
      | none =>
        rw [hend] at hlast
        exact SslMode.option_injective (hlast.trans hfound.symm)
      | some last =>
        rw [hend] at hlast
        exact hlast

theorem exists_foldlM_ofOption?_iff {words : List String} {start : SslMode} :
    (∃ mode, words.foldlM (fun _ => SslMode.ofOption?) start = some mode) ↔
      ∀ word ∈ words, ∃ mode : SslMode, mode.option = word := by
  simp only [foldlM_ofOption?_eq_some_iff, exists_and_left, and_iff_left_iff_imp]
  intro hwords
  cases hlast : words.getLast? with
  | none => exact ⟨start, rfl⟩
  | some word => exact hwords word (List.mem_of_getLast? hlast)

/-- Options ask for a mode if every word that they give for it is one. It is the last of them. -/
theorem sslMode?_eq_some_iff {options : List (String × String)} {mode : SslMode} :
    sslMode? options = some mode ↔
      (∀ word ∈ modeWords options, ∃ mode : SslMode, mode.option = word) ∧
        (modeWords options).getLast?.elim (mode = .prefer) (mode.option = ·) := by
  rw [sslMode?_eq_foldlM, foldlM_ofOption?_eq_some_iff]

/-- Of the query of a URL a target takes the mode and nothing else. -/
theorem ofUrlParts?_of_same_parts {url other : ConnectionUrl} {target : ConnectionTarget}
    (h : ofUrlParts? url = some target) (hsame : other = { url with query := other.query }) :
    ofUrlParts? other =
      (sslMode? other.options).map fun mode => { target with sslMode := mode } := by
  unfold ofUrlParts? at h
  split at h
  · cases h
  next hscheme =>
  obtain ⟨username, husername, h⟩ := Option.bind_eq_some_iff.mp h
  dsimp only at h
  split at h
  · cases h
  next hnamed =>
  obtain ⟨password, hpassword, h⟩ := Option.bind_eq_some_iff.mp h
  obtain ⟨database, hdatabase, h⟩ := Option.bind_eq_some_iff.mp h
  obtain ⟨mode, -, h⟩ := Option.bind_eq_some_iff.mp h
  obtain rfl := Option.some.inj h
  rw [ofUrlParts?]
  generalize sslMode? other.options = asked
  rw [hsame]
  simp only [hscheme, husername, hnamed, hpassword, hdatabase, Bool.false_eq_true, if_false,
    Option.bind_eq_bind, Option.bind_some]
  cases asked <;> rfl

/-- The mode of a target is the one that the options of its URL ask for. -/
theorem sslMode?_of_ofUrlParts? {url : ConnectionUrl} {target : ConnectionTarget}
    (h : ofUrlParts? url = some target) : sslMode? url.options = some target.sslMode := by
  have hread := ofUrlParts?_of_same_parts h (Eq.refl url)
  rw [h] at hread
  obtain ⟨mode, hmode, htarget⟩ := Option.map_eq_some_iff.mp hread.symm
  rw [hmode, ← htarget]

end ConnectionTarget

end WaitingList

import WaitingList.Proofs.Settings.Environment
import WaitingList.Settings.Cache

namespace WaitingList

namespace SettingsCache

variable {cache : SettingsCache} {s : Surroundings} {calls : List Surroundings}
  {settings : Settings} {error : SettingsError} {i j : Nat}

/-- The cache after settings were asked for, each time in other surroundings. -/
def after (cache : SettingsCache) (calls : List Surroundings) : SettingsCache :=
  calls.foldl (fun cache s => (cache.get s).2) cache

/-- The settings that can be read at one place of a run are the first: in none of the surroundings
before it can any be read. -/
structure FirstRead (calls : List Surroundings) (j : Nat) (settings : Settings) : Prop where
  failed : ∀ s ∈ calls.take j, ∃ error, s.settings = .error error
  read : ∃ s, calls[j]? = some s ∧ s.settings = .ok settings

section Step

theorem get_of_kept (s : Surroundings) : (⟨some settings⟩ : SettingsCache).get s =
    (.ok settings, ⟨some settings⟩) := rfl

theorem get_of_read (h : s.settings = .ok settings) :
    empty.get s = (.ok settings, ⟨some settings⟩) := by
  simp only [get, empty, h]

theorem get_of_failed (h : s.settings = .error error) : empty.get s = (.error error, empty) := by
  simp only [get, empty, h]

/-- A call that fails leaves the cache as it was. -/
theorem get_snd_of_error (h : (cache.get s).1 = .error error) : (cache.get s).2 = cache := by
  obtain ⟨_ | kept⟩ := cache
  · change (empty.get s).1 = .error error at h
    change (empty.get s).2 = empty
    cases hread : s.settings with
    | ok settings =>
      rw [get_of_read hread] at h
      cases h
    | error own => rw [get_of_failed hread]
  · cases h

end Step

section Run

theorem after_append (cache : SettingsCache) (calls later : List Surroundings) :
    cache.after (calls ++ later) = (cache.after calls).after later := List.foldl_append

theorem getAll_append (cache : SettingsCache) (calls later : List Surroundings) :
    cache.getAll (calls ++ later) = cache.getAll calls ++ (cache.after calls).getAll later := by
  induction calls generalizing cache with
  | nil => rfl
  | cons s rest ih => exact congrArg ((cache.get s).1 :: ·) (ih (cache.get s).2)

theorem length_getAll (cache : SettingsCache) (calls : List Surroundings) :
    (cache.getAll calls).length = calls.length := by
  induction calls generalizing cache with
  | nil => rfl
  | cons s rest ih => exact congrArg (· + 1) (ih (cache.get s).2)

/-- Each answer of a run is given from the cache that the calls before it left. -/
theorem getElem?_getAll (cache : SettingsCache) (calls : List Surroundings) (i : Nat) :
    (cache.getAll calls)[i]? = calls[i]?.map fun s => ((cache.after (calls.take i)).get s).1 := by
  induction calls generalizing cache i with
  | nil => simp [getAll]
  | cons s rest ih =>
    cases i with
    | zero => rfl
    | succ i => exact ih (cache.get s).2 i

/-- A call that failed might as well not have been made. -/
theorem getAll_eraseIdx (h : (cache.getAll calls)[i]? = some (.error error)) :
    cache.getAll (calls.eraseIdx i) = (cache.getAll calls).eraseIdx i := by
  induction calls generalizing cache i with
  | nil => rfl
  | cons s rest ih =>
    cases i with
    | zero =>
      have hsame : (cache.get s).2 = cache := get_snd_of_error (Option.some.inj h)
      exact congrArg (getAll · rest) hsame.symm
    | succ i => exact congrArg ((cache.get s).1 :: ·) (ih h)

theorem after_of_kept (settings : Settings) (calls : List Surroundings) :
    (⟨some settings⟩ : SettingsCache).after calls = ⟨some settings⟩ := by
  induction calls with
  | nil => rfl
  | cons s rest ih => exact ih

theorem getAll_of_kept (settings : Settings) (calls : List Surroundings) :
    (⟨some settings⟩ : SettingsCache).getAll calls =
      List.replicate calls.length (.ok settings) := by
  induction calls with
  | nil => rfl
  | cons s rest ih => exact congrArg (.ok settings :: ·) ih

theorem after_of_failed (h : ∀ s ∈ calls, ∃ error, s.settings = .error error) :
    empty.after calls = empty := by
  induction calls with
  | nil => rfl
  | cons s rest ih =>
    obtain ⟨⟨error, hs⟩, hrest⟩ := List.forall_mem_cons.mp h
    rw [after, List.foldl_cons, get_of_failed hs]
    exact ih hrest

end Run

namespace FirstRead

/-- The settings that are read first are kept, whatever is asked for afterwards. -/
theorem after_take_append (h : FirstRead calls j settings) (later : List Surroundings) :
    empty.after (calls.take (j + 1) ++ later) = ⟨some settings⟩ := by
  obtain ⟨s, hs, hread⟩ := h.read
  have hbefore : empty.after (calls.take j) = empty := after_of_failed h.failed
  have hkept : empty.after (calls.take (j + 1)) = ⟨some settings⟩ := by
    rw [List.take_add_one, hs, after_append, hbefore]
    exact congrArg Prod.snd (get_of_read hread)
  rw [after_append, hkept, after_of_kept]

theorem after_take (h : FirstRead calls j settings) (hji : j < i) :
    empty.after (calls.take i) = ⟨some settings⟩ := by
  have hsplit : calls.take i = calls.take (j + 1) ++ (calls.take i).drop (j + 1) := by
    conv_lhs => rw [← List.take_append_drop (j + 1) (calls.take i), List.take_take,
      Nat.min_eq_left hji]
  rw [hsplit, h.after_take_append]

theorem getAll_take_append (h : FirstRead calls j settings) (later : List Surroundings) :
    empty.getAll (calls.take (j + 1) ++ later) =
      empty.getAll (calls.take (j + 1)) ++ List.replicate later.length (.ok settings) := by
  have hkept : empty.after (calls.take (j + 1)) = ⟨some settings⟩ := h.after_take (by omega)
  rw [getAll_append, hkept, getAll_of_kept]

/-- Two runs that do not part before the settings have been read are answered alike. -/
theorem getAll_eq_of_take_eq (h : FirstRead calls j settings) {changed : List Surroundings}
    (hlength : changed.length = calls.length)
    (hsame : changed.take (j + 1) = calls.take (j + 1)) :
    empty.getAll changed = empty.getAll calls := by
  calc empty.getAll changed
      = empty.getAll (calls.take (j + 1) ++ changed.drop (j + 1)) := by
        rw [← hsame, List.take_append_drop]
    _ = empty.getAll (calls.take (j + 1) ++ calls.drop (j + 1)) := by
        rw [h.getAll_take_append, h.getAll_take_append, List.length_drop, List.length_drop, hlength]
    _ = empty.getAll calls := by rw [List.take_append_drop]

end FirstRead

/-- After any number of calls, either settings have been read or all of the calls have failed. -/
theorem firstRead_or_failed (calls : List Surroundings) (i : Nat) :
    (∃ j < i, ∃ settings, FirstRead calls j settings) ∨
      ∀ s ∈ calls.take i, ∃ error, s.settings = .error error := by
  -- Over the number of calls, since only the call that comes next can be the first success.
  induction i with
  | zero => exact .inr (by simp)
  | succ i ih =>
    obtain ⟨j, hji, hfirst⟩ | hfailed := ih
    · exact .inl ⟨j, by omega, hfirst⟩
    rw [List.take_add_one]
    cases hs : calls[i]? with
    | none => exact .inr (by simpa using hfailed)
    | some s =>
      cases hread : s.settings with
      | ok settings => exact .inl ⟨i, by omega, settings, hfailed, s, hs, hread⟩
      | error error =>
        exact .inr (List.forall_mem_append.mpr ⟨hfailed, by simp [hread]⟩)

section Answer

variable (hcall : calls[i]? = some s)

include hcall

theorem answer_eq : (empty.getAll calls)[i]? = some ((empty.after (calls.take i)).get s).1 := by
  rw [getElem?_getAll, hcall, Option.map_some]

theorem answer_of_failed (h : ∀ t ∈ calls.take i, ∃ error, t.settings = .error error) :
    (empty.getAll calls)[i]? = some s.settings := by
  rw [answer_eq hcall, after_of_failed h]
  cases hread : s.settings with
  | ok settings => rw [get_of_read hread]
  | error error => rw [get_of_failed hread]

theorem answer_of_firstRead (h : FirstRead calls j settings) (hji : j ≤ i) :
    (empty.getAll calls)[i]? = some (.ok settings) := by
  obtain hlt | rfl := Nat.lt_or_eq_of_le hji
  · rw [answer_eq hcall, h.after_take hlt, get_of_kept]
  · obtain ⟨t, ht, hread⟩ := h.read
    obtain rfl : s = t := Option.some.inj (hcall.symm.trans ht)
    rw [answer_of_failed hcall h.failed, hread]

theorem answer_eq_ok_iff : (empty.getAll calls)[i]? = some (.ok settings) ↔
    ∃ j ≤ i, FirstRead calls j settings := by
  refine ⟨fun h => ?_, fun ⟨j, hji, hfirst⟩ => answer_of_firstRead hcall hfirst hji⟩
  obtain ⟨j, hji, kept, hfirst⟩ | hfailed := firstRead_or_failed calls i
  · rw [answer_of_firstRead hcall hfirst hji.le] at h
    cases h
    exact ⟨j, hji.le, hfirst⟩
  · rw [answer_of_failed hcall hfailed] at h
    exact ⟨i, le_rfl, hfailed, s, hcall, Option.some.inj h⟩

theorem answer_eq_error_iff : (empty.getAll calls)[i]? = some (.error error) ↔
    s.settings = .error error ∧
      ∀ t ∈ calls.take i, ∃ earlier, t.settings = .error earlier := by
  refine ⟨fun h => ?_, fun ⟨hread, hfailed⟩ => by rw [answer_of_failed hcall hfailed, hread]⟩
  obtain ⟨j, hji, kept, hfirst⟩ | hfailed := firstRead_or_failed calls i
  · rw [answer_of_firstRead hcall hfirst hji.le] at h
    cases h
  · rw [answer_of_failed hcall hfailed] at h
    exact ⟨Option.some.inj h, hfailed⟩

end Answer

/-- A process may ask for its settings again and again, each time in other surroundings. Every call
has an answer. A call is given settings exactly if they are the first that can be read at that call
or before it. It fails exactly if no settings can be read before it and its own surroundings give
that error. A call that fails could be left out without a change to any other answer, and nothing
that becomes of the surroundings once settings have been read changes an answer. -/
theorem first_read_kept (calls : List Surroundings) :
    (empty.getAll calls).length = calls.length ∧
    (∀ i s, calls[i]? = some s →
      (∀ settings, (empty.getAll calls)[i]? = some (.ok settings) ↔
        ∃ j ≤ i, FirstRead calls j settings) ∧
      (∀ error, (empty.getAll calls)[i]? = some (.error error) ↔
        s.settings = .error error ∧
          ∀ t ∈ calls.take i, ∃ earlier, t.settings = .error earlier)) ∧
    (∀ i error, (empty.getAll calls)[i]? = some (.error error) →
      empty.getAll (calls.eraseIdx i) = (empty.getAll calls).eraseIdx i) ∧
    ∀ j settings, FirstRead calls j settings → ∀ changed : List Surroundings,
      changed.length = calls.length → changed.take (j + 1) = calls.take (j + 1) →
        empty.getAll changed = empty.getAll calls :=
  ⟨length_getAll empty calls,
    fun _ _ hcall => ⟨fun _ => answer_eq_ok_iff hcall, fun _ => answer_eq_error_iff hcall⟩,
    fun _ _ hfailed => getAll_eraseIdx hfailed,
    fun _ _ hfirst _ hlength hsame => hfirst.getAll_eq_of_take_eq hlength hsame⟩

/-- Settings can be read at the third call only. The two failures before it have reasons of their
own. Afterwards the files are gone, or else the environment is a wrong one again. -/
theorem first_read_kept_behind_failures :
    let unknown := Surroundings.complete [⟨"APP_ENVIRONMENT", Utf8.encode "staging".toList⟩]
    let unnamed := Surroundings.complete [⟨"APP_ENVIRONMENT", Utf8.encode "production".toList⟩]
    let readable := Surroundings.complete []
    let calls := [unknown, unnamed, readable, ⟨[], []⟩]
    FirstRead calls 2 Surroundings.completeSettings ∧
      (empty.getAll calls)[0]? = some (.error (.unknownEnvironment "staging")) ∧
      (empty.getAll calls)[1]? = some (.error .missingConnectionUrl) ∧
      (empty.getAll calls)[3]? = some (.ok Surroundings.completeSettings) ∧
      empty.getAll [unnamed, readable, ⟨[], []⟩] = (empty.getAll calls).eraseIdx 0 ∧
      empty.getAll [unknown, unnamed, readable, unknown] = empty.getAll calls := by
  intro unknown unnamed readable calls
  have hunknown : unknown.settings = .error (.unknownEnvironment "staging") := by
    have henvironment : unknown.environment = .error (.unknownEnvironment "staging") := by
      decide +kernel
    rw [Surroundings.settings, henvironment]
    rfl
  have hunnamed : unnamed.settings = .error .missingConnectionUrl := by
    have henvironment : unnamed.environment = .ok .production := by decide +kernel
    have hload : unnamed.load .production = .ok Surroundings.completeSettings := by
      rw [Surroundings.load_of_layers (Surroundings.layers_complete_in .production _)]
      decide +kernel
    rw [Surroundings.settings_of_production henvironment, hload]
    decide +kernel
  have hreadable : readable.settings = .ok Surroundings.completeSettings := by
    rw [Surroundings.settings_of_development rfl, Surroundings.load_complete]
    rfl
  have hfirst : FirstRead calls 2 Surroundings.completeSettings :=
    ⟨by simp [calls, hunknown, hunnamed], readable, rfl, hreadable⟩
  obtain ⟨_, hanswers, hwithout, hchanged⟩ := first_read_kept calls
  have hzero : (empty.getAll calls)[0]? = some (.error (.unknownEnvironment "staging")) :=
    ((hanswers 0 unknown rfl).2 _).mpr ⟨hunknown, by simp⟩
  exact ⟨hfirst, hzero,
    ((hanswers 1 unnamed rfl).2 _).mpr ⟨hunnamed, by simp [calls, hunknown]⟩,
    ((hanswers 3 ⟨[], []⟩ rfl).1 _).mpr ⟨2, by decide, hfirst⟩, hwithout 0 _ hzero,
    hchanged 2 _ hfirst [unknown, unnamed, readable, unknown] rfl rfl⟩

end SettingsCache

end WaitingList

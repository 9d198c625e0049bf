import WaitingList.Proofs.Outcome
import WaitingList.Proofs.Settings.Extraction

namespace WaitingList

/-- A value as both files and variables can give it. -/
def Scalar.plain : Scalar → Scalar
  | unsigned n => signed n
  | value => value

namespace Setting

mutual

/-- A setting without where it was written. -/
def plain : Setting → Setting
  | scalar _ value => scalar .process value.plain
  | list _ items => list .process (plainItems items)
  | table _ entries => table .process (plainEntries entries)

def plainItems : List Setting → List Setting
  | [] => []
  | item :: rest => item.plain :: plainItems rest

def plainEntries : List (String × Setting) → List (String × Setting)
  | [] => []
  | (key, value) :: rest => (key, value.plain) :: plainEntries rest

end

theorem plainItems_eq (items : List Setting) : plainItems items = items.map plain := by
  induction items with
  | nil => rfl
  | cons item rest ih => rw [plainItems, ih, List.map_cons]

theorem keys_plainEntries (entries : List (String × Setting)) :
    (plainEntries entries).map (·.1) = entries.map (·.1) := by
  induction entries with
  | nil => rfl
  | cons entry rest ih => rw [plainEntries, List.map_cons, List.map_cons, ih]

theorem lookup_plainEntries (key : String) (entries : List (String × Setting)) :
    (plainEntries entries).lookup key = (entries.lookup key).map plain := by
  induction entries with
  | nil => rfl
  | cons entry rest ih =>
    obtain ⟨k, v⟩ := entry
    rw [plainEntries, lookup_cons_eq, lookup_cons_eq, ih]
    split <;> rfl

theorem entries_plain (s : Setting) : s.plain.entries = plainEntries s.entries := by
  cases s <;> rfl

theorem face_plain (s : Setting) : s.plain.face = s.face.plain := by
  cases s <;> rfl

theorem shows?_plain (s : Setting) (path : List String) :
    s.plain.shows? path = (s.shows? path).map plain := by
  induction path generalizing s with
  | nil => exact congrArg some (face_plain s)
  | cons key path ih =>
    rw [shows?_cons, shows?_cons, entries_plain, lookup_plainEntries]
    cases s.entries.lookup key with
    | none => rfl
    | some inner => exact ih inner

theorem mem_plainEntries {entry : String × Setting} {entries : List (String × Setting)}
    (h : entry ∈ plainEntries entries) : ∃ written ∈ entries, entry.2 = written.2.plain := by
  induction entries with
  | nil => cases h
  | cons first rest ih =>
    obtain rfl | hrest := List.mem_cons.mp h
    · exact ⟨first, List.mem_cons_self, rfl⟩
    · obtain ⟨written, hwritten, hentry⟩ := ih hrest
      exact ⟨written, List.mem_cons_of_mem first hwritten, hentry⟩

theorem Proper.plain {s : Setting} (h : s.Proper) : s.plain.Proper := by
  induction h with
  | scalar => exact .scalar
  | list => exact .list
  | @table source entries hkeys hinner ih =>
    refine .table (by rwa [keys_plainEntries]) fun entry hentry => ?_
    obtain ⟨written, hwritten, hplain⟩ := mem_plainEntries hentry
    rw [hplain]
    exact ih written hwritten

end Setting

namespace Extraction

open Setting (plain plainEntries)

variable {α β : Type}

@[simp] theorem toOption_required (key : String) (path : List String) (source : Option Source)
    (value : Option α) : (required key path source value).toOption = value := by
  cases value <;> rfl

@[simp] theorem toOption_wrongKind (expected : String) (path : List String) (s : Setting) :
    (wrongKind expected path s : Except Mismatch α).toOption = none := rfl

/-- A reader that reads the same value wherever it is written, if it reads one. -/
def IgnoresPlace (read : Reader α) : Prop :=
  ∀ path s, (read path s.plain).toOption = (read path s).toOption

theorem ignoresPlace_text : IgnoresPlace text := by
  intro path s
  cases s with
  | scalar source value => cases value <;> rfl
  | list | table => rfl

theorem ignoresPlace_boolean : IgnoresPlace boolean := by
  intro path s
  cases s with
  | scalar source value => cases value <;> rfl
  | list | table => rfl

theorem ignoresPlace_unsigned (bits : Nat) : IgnoresPlace (unsigned bits) := by
  intro path s
  cases s with
  | scalar source value =>
    cases value with
    | unsigned n =>
      by_cases hn : n < twoTo bits
      · simp [Setting.plain, Scalar.plain, unsigned, hn]
      · simp [Setting.plain, Scalar.plain, unsigned, hn]
        rfl
    | signed n =>
      by_cases hn : 0 ≤ n ∧ n < (twoTo bits : Int)
      · simp [Setting.plain, Scalar.plain, unsigned, hn]
      · simp [Setting.plain, Scalar.plain, unsigned, hn]
        rfl
    | boolean | text | char | floating => rfl
  | list | table => rfl

/-- None of the names takes a value, so a table stands for none of them. -/
theorem toOption_name_table {kind : String} {known : List (String × α)} {path : List String}
    {source : Source} {entries : List (String × Setting)} :
    (name kind known path (.table source entries)).toOption = none := by
  rw [name]
  cases entries.mergeSort (fun a b => a.1 ≤ b.1) with
  | nil => rfl
  | cons first rest =>
    dsimp only
    cases known.lookup first.1 <;> rfl

theorem ignoresPlace_name {kind : String} {known : List (String × α)} :
    IgnoresPlace (name kind known) := by
  intro path s
  cases s with
  | scalar source value =>
    cases value with
    | text written =>
      simp only [Setting.plain, Scalar.plain, name]
      cases known.lookup written <;> rfl
    | boolean | char | unsigned | signed | floating => rfl
  | list => rfl
  | table source entries => rw [Setting.plain, toOption_name_table, toOption_name_table]

theorem IgnoresPlace.item {read : Reader α} (h : IgnoresPlace read) (index : Nat)
    (expected : String) (path : List String) (source : Source) (items : List Setting) :
    (item read index expected path .process (Setting.plainItems items)).toOption =
      (item read index expected path source items).toOption := by
  rw [Extraction.item, Extraction.item, Setting.plainItems_eq, List.getElem?_map]
  cases items[index]? with
  | none => rfl
  | some setting => exact h _ setting

theorem IgnoresPlace.value? {read : Reader α} (h : IgnoresPlace read) (key : String)
    (path : List String) (entries : List (String × Setting)) :
    (value? read key path (plainEntries entries)).toOption =
      (value? read key path entries).toOption := by
  rw [Extraction.value?, Extraction.value?, Setting.lookup_plainEntries]
  cases entries.lookup key with
  | none => rfl
  | some setting =>
    dsimp only [Option.map_some]
    rw [toOption_bind, toOption_bind, h]

theorem ignoresPlace_host : IgnoresPlace host := by
  intro path s
  cases s with
  | scalar | table => rfl
  | list source items =>
    simp only [Setting.plain, host, toOption_bind, (ignoresPlace_unsigned 8).item _ _ _ source]

theorem ignoresPlace_target : IgnoresPlace target := by
  intro path s
  cases s with
  | scalar => rfl
  | list source items =>
    simp only [Setting.plain, target, toOption_bind, ignoresPlace_text.item _ _ _ source,
      (ignoresPlace_unsigned 16).item _ _ _ source, sslMode, ignoresPlace_name.item _ _ _ source]
  | table source entries =>
    simp only [Setting.plain, target, toOption_bind, ignoresPlace_text.value?,
      (ignoresPlace_unsigned 16).value?, sslMode, ignoresPlace_name.value?, toOption_required]

theorem ignoresPlace_network : IgnoresPlace network := by
  intro path s
  cases s with
  | scalar => rfl
  | list source items =>
    simp only [Setting.plain, network, toOption_bind, ignoresPlace_host.item _ _ _ source,
      (ignoresPlace_unsigned 16).item _ _ _ source]
  | table source entries =>
    simp only [Setting.plain, network, toOption_bind, ignoresPlace_host.value?,
      (ignoresPlace_unsigned 16).value?, toOption_required]

theorem ignoresPlace_pool : IgnoresPlace pool := by
  intro path s
  cases s with
  | scalar => rfl
  | list source items =>
    simp only [Setting.plain, pool, toOption_bind, ignoresPlace_boolean.item _ _ _ source,
      (ignoresPlace_unsigned _).item _ _ _ source]
  | table source entries =>
    simp only [Setting.plain, pool, toOption_bind, ignoresPlace_boolean.value?,
      (ignoresPlace_unsigned _).value?, toOption_required]

theorem ignoresPlace_submissions : IgnoresPlace submissions := by
  intro path s
  cases s with
  | scalar => rfl
  | list source items =>
    cases items with
    | nil => rfl
    | cons first rest => exact ignoresPlace_name _ first
  | table source entries =>
    simp only [Setting.plain, submissions, toOption_bind, emailPolicy, ignoresPlace_name.value?]

/-- The settings that a tree amounts to do not depend on where its values are written. -/
theorem settings_plain (entries : List (String × Setting)) :
    (settings (plainEntries entries)).toOption = (settings entries).toOption := by
  simp only [settings, toOption_bind, ignoresPlace_target.value?, ignoresPlace_network.value?,
    ignoresPlace_pool.value?, ignoresPlace_submissions.value?]

/-- Trees that show the same at every path that settings are read from, though it may be written
elsewhere, amount to the same settings if to any. -/
theorem settings_congr_plain {s t : Setting} (hs : s.Proper) (ht : t.Proper)
    (hshows : ∀ path, Reads path → (s.shows? path).map plain = (t.shows? path).map plain) :
    (settings s.entries).toOption = (settings t.entries).toOption := by
  have hplain : settings s.plain.entries = settings t.plain.entries := by
    refine settings_congr hs.plain ht.plain fun path hpath => ?_
    rw [Setting.shows?_plain, Setting.shows?_plain, hshows path hpath]
  rw [← settings_plain s.entries, ← settings_plain t.entries, ← Setting.entries_plain,
    ← Setting.entries_plain, hplain]

end Extraction

end WaitingList

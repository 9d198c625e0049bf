import WaitingList.Settings.Setting
import Mathlib.Data.List.Induction

namespace WaitingList.Setting

/-- A value without the parts that have paths of their own: a table is told as nothing but one. -/
def face : Setting → Setting
  | scalar source value => scalar source value
  | list source items => list source items
  | table source _ => table source []

/-- What stands at a path. -/
def shows? (setting : Setting) (path : List String) : Option Setting :=
  (setting.get? path).map face

/-- What a layer rules about a path. It rules that nothing stands there if a value on the way is no
table, and it has no say if a table on the way lacks the next key. -/
def ruling? (layer : Setting) : List String → Option (Option Setting)
  | [] => some (some layer.face)
  | key :: path =>
    match layer with
    | table _ entries =>
      match entries.lookup key with
      | some inner => inner.ruling? path
      | none => none
    | scalar _ _ | list _ _ => some none

/-- What the first of some layers rules that has a say about a path. -/
def winner? (layers : List Setting) (path : List String) : Option Setting :=
  (layers.findSome? (·.ruling? path)).join

/-- A table has each key once, and so have the tables in it. -/
inductive Proper : Setting → Prop where
  | scalar {source : Source} {value : Scalar} : Proper (scalar source value)
  | list {source : Source} {items : List Setting} : Proper (list source items)
  | table {source : Source} {entries : List (String × Setting)}
      (hkeys : (entries.map (·.1)).Nodup) (hinner : ∀ entry ∈ entries, Proper entry.2) :
      Proper (table source entries)

theorem proper_empty (source : Source) : (table source []).Proper :=
  .table .nil fun _ hentry => absurd hentry List.not_mem_nil

section Entries

variable {key other : String} {value : Setting} {entries lower upper : List (String × Setting)}

theorem lookup_cons_eq {α : Type} (k : String) (v : α) (rest : List (String × α)) (key : String) :
    ((k, v) :: rest).lookup key = if key = k then some v else rest.lookup key := by
  by_cases hkey : key = k
  · subst hkey
    simp
  · have hne : (key == k) = false := by simpa using hkey
    simp [List.lookup_cons, hne, hkey]

theorem lookup_put (key other : String) (value : Setting) (entries : List (String × Setting)) :
    (put key value entries).lookup other =
      if other = key then some value else entries.lookup other := by
  induction entries with
  | nil => rw [put, lookup_cons_eq]
  | cons entry rest ih =>
    obtain ⟨k, v⟩ := entry
    by_cases hkey : k = key
    · subst hkey
      simp only [put, if_true, lookup_cons_eq]
      split <;> rfl
    · rw [put, if_neg hkey, lookup_cons_eq, lookup_cons_eq, ih]
      by_cases hother : other = k
      · subst hother
        simp [hkey]
      · simp [hother]

theorem mem_keys_put : other ∈ (put key value entries).map (·.1) ↔
    other = key ∨ other ∈ entries.map (·.1) := by
  induction entries with
  | nil => simp [put]
  | cons entry rest ih =>
    obtain ⟨k, v⟩ := entry
    by_cases hkey : k = key
    · subst hkey
      simp [put]
    · rw [put, if_neg hkey, List.map_cons, List.mem_cons, ih, List.map_cons, List.mem_cons]
      tauto

theorem nodup_keys_put (h : (entries.map (·.1)).Nodup) :
    ((put key value entries).map (·.1)).Nodup := by
  induction entries with
  | nil => simp [put]
  | cons entry rest ih =>
    obtain ⟨k, v⟩ := entry
    obtain ⟨hk, hrest⟩ := List.nodup_cons.mp h
    by_cases hkey : k = key
    · subst hkey
      simpa [put] using h
    · rw [put, if_neg hkey, List.map_cons, List.nodup_cons, mem_keys_put, not_or]
      exact ⟨⟨hkey, hk⟩, ih hrest⟩

theorem mem_put {entry : String × Setting} (h : entry ∈ put key value entries) :
    entry = (key, value) ∨ entry ∈ entries := by
  induction entries with
  | nil => simpa [put] using h
  | cons first rest ih =>
    obtain ⟨k, v⟩ := first
    rw [put] at h
    split at h
    · obtain rfl | hrest := List.mem_cons.mp h
      · exact .inl rfl
      · exact .inr (List.mem_cons_of_mem _ hrest)
    · obtain rfl | hrest := List.mem_cons.mp h
      · exact .inr List.mem_cons_self
      · exact (ih hrest).imp_right (List.mem_cons_of_mem _)

theorem lookup_eq_none_of_notMem (h : key ∉ entries.map (·.1)) : entries.lookup key = none := by
  rw [List.lookup_eq_none_iff]
  intro entry hentry
  rw [bne_iff_ne]
  rintro rfl
  exact h (List.mem_map_of_mem hentry)

/-- Entries laid over others show through where they have a key, merged with what lies below. -/
theorem lookup_mergeEntries (hkeys : (upper.map (·.1)).Nodup) (key : String) :
    (mergeEntries lower upper).lookup key =
      match upper.lookup key with
      | some value => some (((lower.lookup key).map fun below => below.merge value).getD value)
      | none => lower.lookup key := by
  induction upper generalizing lower with
  | nil => simp [mergeEntries]
  | cons entry rest ih =>
    obtain ⟨k, value⟩ := entry
    obtain ⟨hk, hrest⟩ := List.nodup_cons.mp hkeys
    rw [mergeEntries, ih hrest, lookup_put, lookup_cons_eq]
    by_cases hkey : key = k
    · subst hkey
      rw [lookup_eq_none_of_notMem hk]
      cases lower.lookup key <;> simp
    · simp [hkey]

end Entries

section Paths

variable {lower upper : Setting}

theorem shows?_cons (setting : Setting) (key : String) (path : List String) :
    setting.shows? (key :: path) =
      (setting.entries.lookup key).bind fun inner => inner.shows? path := by
  rw [shows?, get?]
  cases setting.entries.lookup key <;> rfl

theorem shows?_singleton (setting : Setting) (key : String) :
    setting.shows? [key] = (setting.entries.lookup key).map face := by
  rw [shows?_cons]
  cases setting.entries.lookup key <;> rfl

theorem ruling?_table (source : Source) (entries : List (String × Setting)) (key : String)
    (path : List String) :
    (table source entries).ruling? (key :: path) =
      (entries.lookup key).bind fun inner => inner.ruling? path := by
  rw [ruling?]
  cases entries.lookup key <;> rfl

/-- What stands at a path of a layer is what the layer rules. -/
theorem join_ruling? (layer : Setting) (path : List String) :
    (layer.ruling? path).join = layer.shows? path := by
  induction path generalizing layer with
  | nil => rfl
  | cons key path ih =>
    rw [shows?_cons]
    cases layer with
    | scalar source value => rfl
    | list source items => rfl
    | table source entries =>
      rw [ruling?_table, Setting.entries]
      cases entries.lookup key with
      | none => rfl
      | some inner => exact ih inner

theorem ruling?_of_shows? {layer value : Setting} {path : List String}
    (h : layer.shows? path = some value) : layer.ruling? path = some (some value) :=
  Option.join_eq_some_iff.mp ((join_ruling? layer path).trans h)

/-- A layer without a say about a path leaves it to the next one. -/
theorem winner?_cons (layer : Setting) (layers : List Setting) (path : List String) :
    winner? (layer :: layers) path = (layer.ruling? path).getD (winner? layers path) := by
  rw [winner?, List.findSome?_cons]
  cases layer.ruling? path <;> rfl

theorem winner?_append (upper layers : List Setting) (path : List String) :
    winner? (upper ++ layers) path =
      (upper.findSome? (·.ruling? path)).getD (winner? layers path) := by
  rw [winner?, List.findSome?_append]
  cases upper.findSome? (·.ruling? path) <;> rfl

theorem winner?_singleton (layer : Setting) (path : List String) :
    winner? [layer] path = layer.shows? path := by
  rw [winner?_cons, ← join_ruling?]
  cases layer.ruling? path <;> rfl

theorem Proper.keys {source : Source} {entries : List (String × Setting)}
    (h : (Setting.table source entries).Proper) : (entries.map (·.1)).Nodup := by
  cases h with
  | table hkeys _ => exact hkeys

theorem Proper.lookup {source : Source} {entries : List (String × Setting)} {key : String}
    {value : Setting} (h : (Setting.table source entries).Proper)
    (hlookup : entries.lookup key = some value) : value.Proper := by
  obtain ⟨before, after, hentries, _⟩ := List.lookup_eq_some_iff.mp hlookup
  cases h with
  | table _ hinner => exact hinner (key, value) (by simp [hentries])

/-- Of two layers the upper one is right about every path that it rules on. -/
theorem shows?_merge (hupper : upper.Proper) (path : List String) :
    (lower.merge upper).shows? path = winner? [upper, lower] path := by
  rw [winner?_cons, winner?_singleton]
  induction path generalizing lower upper with
  | nil => cases upper <;> rfl
  | cons key path ih =>
    cases upper with
    | scalar source value => rfl
    | list source items => rfl
    | table source entries =>
      rw [merge, shows?_cons, Setting.entries, lookup_mergeEntries hupper.keys, ruling?_table,
        shows?_cons]
      cases hlookup : entries.lookup key with
      | none => rfl
      | some value =>
        rw [Option.bind_some]
        cases hbelow : lower.entries.lookup key with
        | none =>
          rw [Option.map_none, Option.getD_none, Option.bind_some, Option.bind_none,
            ← join_ruling?]
          cases value.ruling? path <;> rfl
        | some below =>
          rw [Option.map_some, Option.getD_some, Option.bind_some, Option.bind_some,
            ih (hupper.lookup hlookup)]

end Paths

section Merging

variable {source : Source} {entries : List (String × Setting)}

theorem Proper.put {key : String} {value : Setting} (h : (Setting.table source entries).Proper)
    (hvalue : value.Proper) : (Setting.table source (put key value entries)).Proper := by
  cases h with
  | table hkeys hinner =>
    refine .table (nodup_keys_put hkeys) fun entry hentry => ?_
    obtain rfl | hold := mem_put hentry
    · exact hvalue
    · exact hinner entry hold

theorem Proper.ofEntries {setting : Setting} (h : setting.Proper) (source : Source) :
    (Setting.table source setting.entries).Proper := by
  cases h with
  | scalar | list => exact proper_empty source
  | table hkeys hinner => exact .table hkeys hinner

private theorem proper_mergeEntries {lower upper : List (String × Setting)}
    (hlower : (table source lower).Proper) (hupper : ∀ entry ∈ upper, entry.2.Proper)
    (hmerge : ∀ entry ∈ upper, ∀ below : Setting, below.Proper → (below.merge entry.2).Proper) :
    (table source (mergeEntries lower upper)).Proper := by
  induction upper generalizing lower with
  | nil => exact hlower
  | cons entry rest ih =>
    obtain ⟨key, value⟩ := entry
    have hrest {below : List (String × Setting)} (hbelow : (table source below).Proper) :=
      ih hbelow (fun e he => hupper e (List.mem_cons_of_mem _ he))
        (fun e he => hmerge e (List.mem_cons_of_mem _ he))
    rw [mergeEntries]
    cases hlookup : lower.lookup key with
    | none => exact hrest (hlower.put (hupper _ List.mem_cons_self))
    | some below =>
      exact hrest (hlower.put (hmerge _ List.mem_cons_self below (hlower.lookup hlookup)))

/-- Layers in which no key is written twice lie over each other to one. -/
theorem Proper.merge {lower upper : Setting} (hlower : lower.Proper) (hupper : upper.Proper) :
    (lower.merge upper).Proper := by
  induction hupper generalizing lower with
  | scalar => exact .scalar
  | list => exact .list
  | @table source entries hkeys hinner ih =>
    exact proper_mergeEntries (hlower.ofEntries source) hinner
      fun entry hentry below hbelow => ih entry hentry hbelow

theorem Proper.foldl {layers : List Setting} {bottom : Setting} (hbottom : bottom.Proper)
    (hlayers : ∀ layer ∈ layers, layer.Proper) : (layers.foldl Setting.merge bottom).Proper := by
  induction layers generalizing bottom with
  | nil => exact hbottom
  | cons layer rest ih =>
    exact ih (hbottom.merge (hlayers layer List.mem_cons_self))
      fun l hl => hlayers l (List.mem_cons_of_mem _ hl)

/-- Of layers that are laid over each other one by one, the last one that rules on a path is right
about it. -/
theorem shows?_foldl {layers : List Setting} (bottom : Setting)
    (hlayers : ∀ layer ∈ layers, layer.Proper) (path : List String) :
    (layers.foldl Setting.merge bottom).shows? path =
      winner? (layers.reverse ++ [bottom]) path := by
  induction layers using List.reverseRecOn with
  | nil => exact (winner?_singleton bottom path).symm
  | append_singleton rest layer ih =>
    have hrest := ih fun l hl => hlayers l (List.mem_append_left _ hl)
    have hlayer := hlayers layer (List.mem_append_right _ (List.mem_singleton_self layer))
    rw [List.foldl_append, List.foldl_cons, List.foldl_nil, shows?_merge hlayer, winner?_cons,
      winner?_singleton, hrest, List.reverse_append, List.reverse_singleton,
      List.singleton_append, List.cons_append, winner?_cons]

end Merging

section Agreement

variable {s t : Setting} {path : List String}

/-- A path on which a value that is no table stands in the way. -/
def Barred (setting : Setting) (path : List String) : Prop :=
  ∃ way rest, path = way ++ rest ∧ rest ≠ [] ∧
    ∃ value, setting.shows? way = some value ∧ ∀ source, value ≠ table source []

theorem Barred.cons_iff {key : String} :
    s.Barred (key :: path) ↔ (∀ source, s.face ≠ table source []) ∨
      ∃ inner, s.entries.lookup key = some inner ∧ inner.Barred path := by
  constructor
  · rintro ⟨way, rest, hpath, hrest, value, hvalue, hplain⟩
    cases way with
    | nil =>
      obtain rfl := Option.some.inj hvalue
      exact .inl hplain
    | cons first way =>
      obtain ⟨rfl, rfl⟩ := List.cons.inj hpath
      rw [shows?_cons, Option.bind_eq_some_iff] at hvalue
      obtain ⟨inner, hinner, hvalue⟩ := hvalue
      exact .inr ⟨inner, hinner, way, rest, rfl, hrest, value, hvalue, hplain⟩
  · rintro (hplain | ⟨inner, hinner, way, rest, rfl, hrest, value, hvalue, hplain⟩)
    · exact ⟨[], key :: path, rfl, by simp, s.face, rfl, hplain⟩
    · refine ⟨key :: way, rest, rfl, hrest, value, ?_, hplain⟩
      rw [shows?_cons, hinner, Option.bind_some, hvalue]

open Classical in
/-- A layer rules a path out if it bars it, and otherwise has a say only if something stands
there. -/
theorem ruling?_eq (setting : Setting) (path : List String) :
    setting.ruling? path =
      if setting.Barred path then some none else (setting.shows? path).map some := by
  induction path generalizing setting with
  | nil =>
    have hfree : ¬ setting.Barred [] := by
      rintro ⟨way, rest, hpath, hrest, _⟩
      exact hrest (List.append_eq_nil_iff.mp hpath.symm).2
    rw [if_neg hfree]
    rfl
  | cons key path ih =>
    cases setting with
    | scalar | list =>
      rw [if_pos (Barred.cons_iff.mpr (.inl fun source => by simp [face]))]
      rfl
    | table source entries =>
      have htable : ¬ ∀ other, (table source entries).face ≠ table other [] :=
        fun h => h source rfl
      rw [ruling?_table, shows?_cons, Setting.entries]
      cases hlookup : entries.lookup key with
      | none =>
        have hfree : ¬ (table source entries).Barred (key :: path) := by
          rw [Barred.cons_iff, Setting.entries, hlookup]
          simpa using htable
        rw [if_neg hfree]
        rfl
      | some inner =>
        have hbarred : (table source entries).Barred (key :: path) ↔ inner.Barred path := by
          rw [Barred.cons_iff, Setting.entries, hlookup, or_iff_right htable]
          simp
        rw [Option.bind_some, Option.bind_some, ih]
        simp only [hbarred]

theorem shows?_merge_of_none {lower upper : Setting} (hupper : upper.Proper)
    (habove : upper.shows? path = none) (hbelow : lower.shows? path = none) :
    (lower.merge upper).shows? path = none := by
  rw [shows?_merge hupper, winner?_cons, winner?_singleton, ruling?_eq, habove, hbelow]
  split <;> rfl

/-- Trees that show the same at every path that does not begin with a way. -/
def AlikeOff (way : List String) (s t : Setting) : Prop :=
  ∀ path, ¬ way <+: path → s.shows? path = t.shows? path

theorem AlikeOff.refl (way : List String) (s : Setting) : s.AlikeOff way s := fun _ _ => rfl

theorem AlikeOff.symm {way : List String} (h : s.AlikeOff way t) : t.AlikeOff way s :=
  fun path hpath => (h path hpath).symm

theorem AlikeOff.barred {way : List String} (h : s.AlikeOff way t) (hpath : ¬ way <+: path)
    (hbarred : s.Barred path) : t.Barred path := by
  obtain ⟨first, rest, rfl, hrest, value, hvalue, hplain⟩ := hbarred
  have hfirst : ¬ way <+: first := fun hbegins => hpath (hbegins.trans (List.prefix_append _ _))
  exact ⟨first, rest, rfl, hrest, value, (h first hfirst).symm.trans hvalue, hplain⟩

theorem AlikeOff.ruling? {way : List String} (h : s.AlikeOff way t) (hpath : ¬ way <+: path) :
    s.ruling? path = t.ruling? path := by
  rw [ruling?_eq, ruling?_eq, h path hpath]
  by_cases hbarred : s.Barred path
  · rw [if_pos hbarred, if_pos (h.barred hpath hbarred)]
  · rw [if_neg hbarred, if_neg fun hother => hbarred (h.symm.barred hpath hother)]

/-- Layers that are alike off a way lie over each other to trees that are so too. -/
theorem AlikeOff.merge {way : List String} {lower below upper above : Setting}
    (hlower : lower.AlikeOff way below) (hupper : upper.AlikeOff way above)
    (hproper : upper.Proper) (hproper' : above.Proper) :
    (lower.merge upper).AlikeOff way (below.merge above) := by
  intro path hpath
  rw [shows?_merge hproper, winner?_cons, winner?_singleton, shows?_merge hproper', winner?_cons,
    winner?_singleton, hupper.ruling? hpath, hlower path hpath]

end Agreement

section Tables

variable {tree : Setting} {first second : String} {source : Source}

theorem shows?_of_lookup {key : String} {inner : Setting} (h : tree.entries.lookup key = some inner)
    (path : List String) : inner.shows? path = tree.shows? (key :: path) := by
  rw [shows?_cons tree, h, Option.bind_some]

theorem exists_entries_of_shows? {key : String} (h : tree.shows? [key] = some (table source [])) :
    ∃ entries, tree.entries.lookup key = some (table source entries) := by
  rw [shows?_singleton] at h
  obtain ⟨inner, hinner, hface⟩ := Option.map_eq_some_iff.mp h
  cases inner with
  | scalar | list => cases hface
  | table other entries =>
    obtain ⟨rfl, _⟩ := table.inj hface
    exact ⟨entries, hinner⟩

theorem shows?_of_none (h : tree.shows? [first] = none) : tree.shows? [first, second] = none := by
  rw [shows?_singleton, Option.map_eq_none_iff] at h
  rw [shows?_cons, h, Option.bind_none]

theorem shows?_of_list {items : List Setting} (h : tree.shows? [first] = some (list source items)) :
    tree.shows? [first, second] = none := by
  rw [shows?_singleton] at h
  obtain ⟨inner, hinner, hface⟩ := Option.map_eq_some_iff.mp h
  rw [← shows?_of_lookup hinner]
  cases inner with
  | list => rfl
  | scalar | table => cases hface

/-- Under a path of two keys that leads through a table there are only tables on the way. -/
theorem exists_table_on_way (h : tree.shows? [first] = some (table source [])) {path : List String}
    (hpath : path <+: [first, second]) (hne : path ≠ [first, second]) :
    ∃ own, tree.shows? path = some (table own []) := by
  obtain ⟨rest, hrest⟩ := hpath
  match path with
  | [] =>
    cases tree with
    | scalar | list => cases h
    | table own entries => exact ⟨own, rfl⟩
  | [key] =>
    obtain ⟨rfl, _⟩ := List.cons.inj hrest
    exact ⟨source, h⟩
  | [key, other] => simp_all
  | key :: other :: third :: more => simp at hrest

end Tables

end WaitingList.Setting

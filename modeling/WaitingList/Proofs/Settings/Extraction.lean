import WaitingList.Proofs.Settings.Layer
import WaitingList.Settings.Extraction
import Mathlib.Data.Set.Basic

namespace WaitingList

namespace Setting

variable {s t : Setting} {key : String}

theorem Proper.inner {inner : Setting} (h : s.Proper)
    (hlookup : s.entries.lookup key = some inner) : inner.Proper := by
  cases s with
  | scalar | list => cases hlookup
  | table source entries => exact h.lookup hlookup

theorem mem_of_lookup {entries : List (String × Setting)} {value : Setting}
    (h : entries.lookup key = some value) : (key, value) ∈ entries := by
  obtain ⟨before, after, rfl, _⟩ := List.lookup_eq_some_iff.mp h
  exact List.mem_append_right _ List.mem_cons_self

/-- Where a key is written once, what it is looked up as is what is written. -/
theorem lookup_of_mem {entries : List (String × Setting)} {value : Setting}
    (hkeys : (entries.map (·.1)).Nodup) (h : (key, value) ∈ entries) :
    entries.lookup key = some value := by
  induction entries with
  | nil => cases h
  | cons entry rest ih =>
    obtain ⟨k, v⟩ := entry
    obtain ⟨hk, hrest⟩ := List.nodup_cons.mp hkeys
    rw [lookup_cons_eq]
    obtain heq | hmem := List.mem_cons.mp h
    · obtain ⟨rfl, rfl⟩ := Prod.mk.inj heq
      exact if_pos rfl
    · have hne : key ≠ k := by
        rintro rfl
        exact hk (List.mem_map.mpr ⟨(key, value), hmem, rfl⟩)
      rw [if_neg hne]
      exact ih hrest hmem

end Setting

namespace Extraction

open Setting (Proper)

section Locality

variable {α : Type} {keys : Set String} {s t : Setting}

/-- Of a value, all that is read is its face and what it shows at the paths that begin with one of
some keys. -/
def LooksAt (read : Reader α) (keys : Set String) : Prop :=
  ∀ (path : List String) (s t : Setting), s.Proper → t.Proper → s.face = t.face →
    (∀ key ∈ keys, ∀ rest, s.shows? (key :: rest) = t.shows? (key :: rest)) →
    read path s = read path t

theorem LooksAt.value? {read : Reader α} (h : LooksAt read keys) (hs : s.Proper) (ht : t.Proper)
    {key : String} (hface : s.shows? [key] = t.shows? [key])
    (hinner : ∀ k ∈ keys, ∀ rest, s.shows? (key :: k :: rest) = t.shows? (key :: k :: rest))
    (path : List String) : value? read key path s.entries = value? read key path t.entries := by
  rw [Setting.shows?_singleton, Setting.shows?_singleton] at hface
  simp only [Setting.shows?_cons] at hinner
  rw [Extraction.value?, Extraction.value?]
  cases hleft : s.entries.lookup key with
  | none =>
    cases hright : t.entries.lookup key with
    | none => rfl
    | some right => simp [hleft, hright] at hface
  | some left =>
    cases hright : t.entries.lookup key with
    | none => simp [hleft, hright] at hface
    | some right =>
      rw [hleft, hright, Option.map_some, Option.map_some, Option.some.injEq] at hface
      simp only [hleft, hright, Option.bind_some] at hinner
      dsimp only
      rw [h (path ++ [key]) left right (hs.inner hleft) (ht.inner hright) hface
        (by simpa only [Setting.shows?_cons] using hinner)]

/-- A reader for which a table is one value like another. -/
theorem looksAt_of_face {read : Reader α} (h : ∀ path s, read path s = read path s.face) :
    LooksAt read keys := by
  intro path s t _ _ hface _
  rw [h path s, hface, ← h path t]

theorem text_face (path : List String) (setting : Setting) :
    text path setting.face = text path setting := by
  cases setting <;> rfl

theorem looksAt_text : LooksAt text keys :=
  looksAt_of_face fun path s => (text_face path s).symm

theorem looksAt_boolean : LooksAt boolean keys :=
  looksAt_of_face fun path s => by cases s <;> rfl

theorem looksAt_unsigned (bits : Nat) : LooksAt (unsigned bits) keys :=
  looksAt_of_face fun path s => by cases s <;> rfl

theorem looksAt_host : LooksAt host keys :=
  looksAt_of_face fun path s => by cases s <;> rfl

theorem describe_eq_of_face (h : s.face = t.face) : s.describe = t.describe := by
  have hface (setting : Setting) : setting.describe = setting.face.describe := by
    cases setting <;> rfl
  rw [hface s, h, ← hface t]

theorem source_eq_of_face (h : s.face = t.face) : s.source = t.source := by
  have hface (setting : Setting) : setting.source = setting.face.source := by
    cases setting <;> rfl
  rw [hface s, h, ← hface t]

/-- The first entry in the order of the keys is the one of the least key. -/
theorem least_of_mergeSort {entries rest : List (String × Setting)} {key : String}
    {value : Setting} (hkeys : (entries.map (·.1)).Nodup)
    (h : entries.mergeSort (fun a b => a.1 ≤ b.1) = (key, value) :: rest) :
    entries.lookup key = some value ∧
      ∀ other, (entries.lookup other).isSome → key ≤ other := by
  have hmem (entry : String × Setting) : entry ∈ entries ↔ entry ∈ (key, value) :: rest := by
    rw [← h, List.mem_mergeSort]
  have hsorted : ((key, value) :: rest).Pairwise fun a b => decide (a.1 ≤ b.1) = true := by
    rw [← h]
    refine List.pairwise_mergeSort (fun a b c hab hbc => ?_) (fun a b => ?_) entries
    · simpa using String.le_trans (of_decide_eq_true hab) (of_decide_eq_true hbc)
    · simpa using String.le_total a.1 b.1
  refine ⟨Setting.lookup_of_mem hkeys ((hmem _).mpr List.mem_cons_self), fun other hother => ?_⟩
  obtain ⟨found, hfound⟩ := Option.isSome_iff_exists.mp hother
  obtain heq | hrest := List.mem_cons.mp ((hmem _).mp (Setting.mem_of_lookup hfound))
  · obtain ⟨rfl, _⟩ := Prod.mk.inj heq
    exact String.le_refl other
  · exact of_decide_eq_true (List.rel_of_pairwise_cons hsorted hrest)

/-- Tables that show the same under every key have the same first key. -/
theorem first_congr {left right rest : List (String × Setting)} {key : String} {value : Setting}
    (hleft : (left.map (·.1)).Nodup) (hright : (right.map (·.1)).Nodup)
    (hshows : ∀ key, (left.lookup key).map Setting.face = (right.lookup key).map Setting.face)
    (h : left.mergeSort (fun a b => a.1 ≤ b.1) = (key, value) :: rest) :
    ∃ other further, right.mergeSort (fun a b => a.1 ≤ b.1) = (key, other) :: further ∧
      other.face = value.face := by
  have hsome (key : String) : (left.lookup key).isSome = (right.lookup key).isSome := by
    rw [← Option.isSome_map (f := Setting.face), hshows, Option.isSome_map]
  obtain ⟨hvalue, hleast⟩ := least_of_mergeSort hleft h
  have hfound := hshows key
  rw [hvalue, Option.map_some] at hfound
  obtain ⟨other, hother, hface⟩ := Option.map_eq_some_iff.mp hfound.symm
  cases hsorted : right.mergeSort (fun a b => a.1 ≤ b.1) with
  | nil =>
    have hmem : (key, other) ∈ right.mergeSort (fun a b => a.1 ≤ b.1) :=
      List.mem_mergeSort.mpr (Setting.mem_of_lookup hother)
    rw [hsorted] at hmem
    cases hmem
  | cons first further =>
    obtain ⟨k, v⟩ := first
    obtain ⟨hv, hk⟩ := least_of_mergeSort hright hsorted
    have hle : k ≤ key := hk key (by rw [hother]; rfl)
    have hge : key ≤ k := hleast k (by rw [hsome, hv]; rfl)
    obtain rfl := String.le_antisymm hle hge
    obtain rfl := Option.some.inj (hv.symm.trans hother)
    exact ⟨v, further, rfl, hface⟩

theorem name_table_eq {kind : String} {known : List (String × α)} {path : List String}
    {source : Source} {left right : List (String × Setting)}
    (hleft : (left.map (·.1)).Nodup) (hright : (right.map (·.1)).Nodup)
    (hshows : ∀ key, (left.lookup key).map Setting.face = (right.lookup key).map Setting.face) :
    name kind known path (.table source left) = name kind known path (.table source right) := by
  rw [name, name]
  cases hsorted : left.mergeSort (fun a b => a.1 ≤ b.1) with
  | nil =>
    cases hother : right.mergeSort (fun a b => a.1 ≤ b.1) with
    | nil => rfl
    | cons first rest =>
      obtain ⟨_, _, hnone, _⟩ := first_congr hright hleft (fun key => (hshows key).symm) hother
      rw [hsorted] at hnone
      cases hnone
  | cons first rest =>
    obtain ⟨other, further, hother, hface⟩ := first_congr hleft hright hshows hsorted
    simp only [hother, wrongKind, describe_eq_of_face hface, source_eq_of_face hface]

theorem looksAt_name {kind : String} {known : List (String × α)} :
    LooksAt (name kind known) Set.univ := by
  intro path s t hs ht hface hshows
  cases s with
  | scalar =>
    cases t with
    | scalar => exact congrArg (name kind known path) hface
    | list | table => cases hface
  | list =>
    cases t with
    | list => exact congrArg (name kind known path) hface
    | scalar | table => cases hface
  | table source left =>
    cases t with
    | scalar | list => cases hface
    | table source right =>
      obtain ⟨rfl, _⟩ := Setting.table.inj hface
      refine name_table_eq hs.keys ht.keys fun key => ?_
      have hkey := hshows key (Set.mem_univ key) []
      rwa [Setting.shows?_singleton, Setting.shows?_singleton] at hkey

/-- The keys of a section whose readers look into the values. -/
theorem LooksAt.entry {read : Reader α} (h : LooksAt read Set.univ) (hs : s.Proper) (ht : t.Proper)
    {key : String} (hshows : ∀ rest, s.shows? (key :: rest) = t.shows? (key :: rest))
    (path : List String) : Extraction.value? read key path s.entries =
      Extraction.value? read key path t.entries :=
  h.value? hs ht (hshows []) (fun k _ rest => hshows (k :: rest)) path

/-- A section is read alike from values that show the same under its keys. -/
theorem looksAt_section {read : Reader α} {keys : List String}
    (hflat : ∀ path source left right,
      (∀ key ∈ keys, ∀ (β : Type) (inner : Reader β), LooksAt inner Set.univ →
        Extraction.value? inner key path left = Extraction.value? inner key path right) →
      read path (.table source left) = read path (.table source right)) :
    LooksAt read {key | key ∈ keys} := by
  intro path s t hs ht hface hshows
  cases s with
  | scalar =>
    cases t with
    | scalar => exact congrArg (read path) hface
    | list | table => cases hface
  | list =>
    cases t with
    | list => exact congrArg (read path) hface
    | scalar | table => cases hface
  | table source left =>
    cases t with
    | scalar | list => cases hface
    | table source right =>
      obtain ⟨rfl, _⟩ := Setting.table.inj hface
      exact hflat path source left right fun key hkey β inner hinner =>
        hinner.entry hs ht (hshows key hkey) path

def targetKeys : List String := ["username", "password", "port", "host", "db_name", "require_ssl"]

def networkKeys : List String := ["host", "app_port"]

def poolKeys : List String := ["max_connections", "acquire_timeout_millis", "migrate_on_start"]

def submissionKeys : List String := ["email_policy"]

theorem looksAt_target : LooksAt target {key | key ∈ targetKeys} :=
  looksAt_section fun path source left right hvalue => by
    rw [target, target, hvalue "db_name" (by simp [targetKeys]) _ text looksAt_text,
      hvalue "host" (by simp [targetKeys]) _ text looksAt_text,
      hvalue "password" (by simp [targetKeys]) _ text looksAt_text,
      hvalue "port" (by simp [targetKeys]) _ (unsigned 16) (looksAt_unsigned 16),
      hvalue "require_ssl" (by simp [targetKeys]) _ sslMode looksAt_name,
      hvalue "username" (by simp [targetKeys]) _ text looksAt_text]

theorem looksAt_network : LooksAt network {key | key ∈ networkKeys} :=
  looksAt_section fun path source left right hvalue => by
    rw [network, network, hvalue "app_port" (by simp [networkKeys]) _ _ (looksAt_unsigned 16),
      hvalue "host" (by simp [networkKeys]) _ _ looksAt_host]

theorem looksAt_pool : LooksAt pool {key | key ∈ poolKeys} :=
  looksAt_section fun path source left right hvalue => by
    rw [pool, pool,
      hvalue "acquire_timeout_millis" (by simp [poolKeys]) _ _ (looksAt_unsigned 64),
      hvalue "max_connections" (by simp [poolKeys]) _ _ (looksAt_unsigned 32),
      hvalue "migrate_on_start" (by simp [poolKeys]) _ _ looksAt_boolean]

theorem looksAt_submissions : LooksAt submissions {key | key ∈ submissionKeys} :=
  looksAt_section fun path source left right hvalue => by
    rw [submissions, submissions,
      hvalue "email_policy" (by simp [submissionKeys]) _ emailPolicy looksAt_name]

/-- The keys that are read of each section. -/
def sections : List (String × List String) :=
  [("db_config", targetKeys), ("net_config", networkKeys), ("pool_config", poolKeys),
    ("subscribe_config", submissionKeys)]

/-- A path that settings are read from: that of a section, that of one of its keys, or one that
begins with such a path. -/
inductive Reads : List String → Prop where
  | part {name : String} {keys : List String} (hpart : (name, keys) ∈ sections) : Reads [name]
  | key {name : String} {keys : List String} {key : String} {rest : List String}
      (hpart : (name, keys) ∈ sections) (hkey : key ∈ keys) : Reads (name :: key :: rest)

/-- Trees that show the same at every path that settings are read from amount to the same settings,
or to the same mismatch. -/
theorem settings_congr (hs : s.Proper) (ht : t.Proper)
    (hshows : ∀ path, Reads path → s.shows? path = t.shows? path) :
    settings s.entries = settings t.entries := by
  have hvalue {β : Type} {read : Reader β} {name : String} {keys : List String}
      (hread : LooksAt read {key | key ∈ keys}) (hpart : (name, keys) ∈ sections) :
      Extraction.value? read name [] s.entries = Extraction.value? read name [] t.entries :=
    hread.value? hs ht (hshows _ (.part hpart))
      (fun key hkey rest => hshows _ (.key hpart hkey)) []
  rw [settings, settings, hvalue looksAt_target (by simp [sections]),
    hvalue looksAt_network (by simp [sections]), hvalue looksAt_pool (by simp [sections]),
    hvalue looksAt_submissions (by simp [sections])]

end Locality

end Extraction

end WaitingList

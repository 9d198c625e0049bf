import WaitingList.Proofs.Settings.Layer
import WaitingList.Proofs.Text.Utf8
import WaitingList.Settings.Load

namespace WaitingList.Toml

open Setting (Proper)

variable {source : Source} {key : String} {value : Value} {entries changed : Entries}

/-- Entries no key of which is written twice, and neither is one in the tables among them. -/
def Tidy (source : Source) (entries : Entries) : Prop :=
  (Setting.table source (entriesOfToml source entries)).Proper

theorem tidy_nil : Tidy source [] := Setting.proper_empty source

theorem entriesOfToml_put : entriesOfToml source (put key value entries) =
    Setting.put key (Setting.ofToml source value) (entriesOfToml source entries) := by
  induction entries with
  | nil => rfl
  | cons entry rest ih =>
    obtain ⟨k, v⟩ := entry
    by_cases hkey : k = key
    · simp [put, Setting.put, entriesOfToml, hkey]
    · simp [put, Setting.put, entriesOfToml, hkey, ih]

theorem lookup_entriesOfToml : (entriesOfToml source entries).lookup key =
    (entries.lookup key).map (Setting.ofToml source) := by
  induction entries with
  | nil => rfl
  | cons entry rest ih =>
    obtain ⟨k, v⟩ := entry
    rw [entriesOfToml, List.lookup_cons, List.lookup_cons]
    cases key == k
    · exact ih
    · rfl

theorem Tidy.put (h : Tidy source entries) (hvalue : (Setting.ofToml source value).Proper) :
    Tidy source (put key value entries) := by
  rw [Tidy, entriesOfToml_put]
  exact Proper.put h hvalue

theorem Tidy.lookup (h : Tidy source entries) (hlookup : entries.lookup key = some value) :
    (Setting.ofToml source value).Proper := by
  have hfound : (entriesOfToml source entries).lookup key = some (Setting.ofToml source value) := by
    rw [lookup_entriesOfToml, hlookup, Option.map_some]
  exact Proper.lookup h hfound

/-- A change of one table that writes no key twice leads to no key that is written twice. -/
theorem Tidy.update {dotted : Bool} {change : TableKind → Entries → Option Entries}
    (hchange : ∀ kind entries changed, Tidy source entries → change kind entries = some changed →
      Tidy source changed) {path : List String} {kind : TableKind} (h : Tidy source entries)
    (hupdate : update dotted change path kind entries = some changed) : Tidy source changed := by
  induction path generalizing kind entries changed with
  | nil => exact hchange kind entries changed h hupdate
  | cons key path ih =>
    rw [Toml.update] at hupdate
    split at hupdate
    · simp only [Option.bind_eq_bind, Option.bind_eq_some_iff] at hupdate
      obtain ⟨inner, hinner, hupdate⟩ := hupdate
      obtain rfl := Option.some.inj hupdate
      exact h.put (ih tidy_nil hinner)
    next inner hlookup =>
      split at hupdate
      · cases hupdate
      · simp only [Option.bind_eq_bind, Option.bind_eq_some_iff] at hupdate
        obtain ⟨further, hfurther, hupdate⟩ := hupdate
        obtain rfl := Option.some.inj hupdate
        exact h.put (ih (h.lookup hlookup) hfurther)
    · simp only [Option.bind_eq_bind, Option.bind_eq_some_iff] at hupdate
      obtain ⟨last, _, further, _, hupdate⟩ := hupdate
      obtain rfl := Option.some.inj hupdate
      exact h.put .list
    · cases hupdate

theorem Tidy.addTo {simple : Bool} {kind : TableKind} (h : Tidy source entries)
    (hvalue : (Setting.ofToml source value).Proper)
    (hadd : addTo simple key value kind entries = some changed) : Tidy source changed := by
  rw [Toml.addTo] at hadd
  split at hadd
  · cases hadd
  split at hadd
  · cases hadd
  obtain rfl := Option.some.inj hadd
  exact h.put hvalue

theorem Tidy.add {path : List String} {kind : TableKind} (h : Tidy source entries)
    (hvalue : (Setting.ofToml source value).Proper)
    (hadd : add path key value kind entries = some changed) : Tidy source changed :=
  h.update (fun _ _ _ hentries hchanged => hentries.addTo hvalue hchanged) hadd

theorem Tidy.openTable {path : List String} (h : Tidy source entries)
    (hopen : openTable path key entries = some changed) : Tidy source changed := by
  refine h.update (fun kind inner changed hinner hchange => ?_) hopen
  split at hchange
  · obtain rfl := Option.some.inj hchange
    exact hinner.put tidy_nil
  next implied hlookup =>
    obtain rfl := Option.some.inj hchange
    have himplied : (Setting.ofToml source (.table .implied implied)).Proper :=
      hinner.lookup hlookup
    exact hinner.put himplied
  · cases hchange

theorem Tidy.openItem {path : List String} (h : Tidy source entries)
    (hopen : openItem path key entries = some changed) : Tidy source changed := by
  refine h.update (fun kind inner changed hinner hchange => ?_) hopen
  split at hchange
  · obtain rfl := Option.some.inj hchange
    exact hinner.put .list
  · obtain rfl := Option.some.inj hchange
    exact hinner.put .list
  · cases hchange

theorem Tidy.addUnder {header path : List String} (h : Tidy source entries)
    (hvalue : (Setting.ofToml source value).Proper)
    (hadd : addUnder header path key value entries = some changed) : Tidy source changed :=
  h.update (fun _ _ _ hentries hchanged => hentries.add hvalue hchanged) hadd

theorem proper_moment {written : String} :
    (Setting.ofToml source (.moment written)).Proper :=
  .table (by simp) fun entry hentry => by
    obtain rfl := List.mem_singleton.mp hentry
    exact .scalar

section Reading

variable {text rest : List Char}

/-- What is read of a text is a value in which no key is written twice. -/
def Sound (source : Source) (item : List Char → Option (Value × List Char)) : Prop :=
  ∀ text value rest, item text = some (value, rest) → (Setting.ofToml source value).Proper

theorem tidy_of_pairs? {item : List Char → Option (Value × List Char)} (hitem : Sound source item)
    {fuel : Nat} (h : Tidy source entries)
    (hpairs : pairs? item fuel entries text = some (changed, rest)) : Tidy source changed := by
  induction fuel generalizing entries text with
  | zero => cases hpairs
  | succ fuel ih =>
    simp only [pairs?, Option.bind_eq_bind, Option.bind_eq_some_iff] at hpairs
    obtain ⟨⟨path, key, behind⟩, _, after, _, ⟨value, left⟩, hvalue, added, hadded, hrest⟩ := hpairs
    have hmore := h.add (hitem _ _ _ hvalue) hadded
    split at hrest
    · exact ih hmore hrest
    · obtain ⟨rfl, _⟩ := Prod.mk.inj (Option.some.inj hrest)
      exact hmore
    · cases hrest

/-- A value that is not written as a list or as a table. -/
theorem proper_of_wordValue? {word : List Char} (h : wordValue? word = some value) :
    (Setting.ofToml source value).Proper := by
  rw [wordValue?] at h
  split at h
  · obtain rfl := Option.some.inj h
    exact .scalar
  split at h
  · obtain rfl := Option.some.inj h
    exact .scalar
  split at h
  · obtain rfl := Option.some.inj h
    exact proper_moment
  split at h
  · obtain rfl := Option.some.inj h
    exact .scalar
  · obtain ⟨x, _, rfl⟩ := Option.map_eq_some_iff.mp h
    exact .scalar

theorem sound_scalar : Sound source scalar? := by
  intro text value rest h
  simp only [scalar?, Option.bind_eq_bind] at h
  split at h
  · obtain ⟨rfl, _⟩ := Prod.mk.inj (Option.some.inj h)
    exact proper_moment
  · obtain ⟨read, hread, h⟩ := Option.bind_eq_some_iff.mp h
    obtain ⟨rfl, _⟩ := Prod.mk.inj (Option.some.inj h)
    exact proper_of_wordValue? hread

theorem sound_flatValue : Sound source flatValue? := by
  intro text value rest h
  rw [flatValue?] at h
  split at h
  · obtain ⟨⟨read, after⟩, _, hread⟩ := Option.map_eq_some_iff.mp h
    obtain ⟨rfl, _⟩ := Prod.mk.inj hread
    exact .scalar
  · exact sound_scalar text value rest h

theorem sound_value (depth : Nat) : Sound source (value? depth) := by
  induction depth with
  | zero => exact sound_flatValue
  | succ depth ih =>
    intro text value rest h
    rw [value?.eq_def] at h
    dsimp only at h
    split at h
    · obtain ⟨⟨items, after⟩, _, hread⟩ := Option.map_eq_some_iff.mp h
      obtain ⟨rfl, _⟩ := Prod.mk.inj hread
      exact .list
    · split at h
      · obtain ⟨rfl, _⟩ := Prod.mk.inj (Option.some.inj h)
        exact tidy_nil
      · obtain ⟨⟨entries, after⟩, hpairs, hread⟩ := Option.map_eq_some_iff.mp h
        obtain ⟨rfl, _⟩ := Prod.mk.inj hread
        exact tidy_of_pairs? ih tidy_nil hpairs
    · exact sound_flatValue _ value rest h

end Reading

section Lines

variable {draft next : Draft} {text rest : List Char}

theorem Tidy.header? (h : Tidy source draft.root) (hread : draft.header? text = some (next, rest)) :
    Tidy source next.root := by
  simp only [Draft.header?, Option.bind_eq_bind, Option.bind_eq_some_iff] at hread
  obtain ⟨⟨path, key, after⟩, _, bracket, _, line, _, root, hroot, hnext⟩ := hread
  obtain ⟨rfl, _⟩ := Prod.mk.inj (Option.some.inj hnext)
  exact h.openTable hroot

theorem Tidy.itemHeader? (h : Tidy source draft.root)
    (hread : draft.itemHeader? text = some (next, rest)) : Tidy source next.root := by
  simp only [Draft.itemHeader?, Option.bind_eq_bind, Option.bind_eq_some_iff] at hread
  obtain ⟨⟨path, key, after⟩, _, bracket, _, second, _, line, _, root, hroot, hnext⟩ := hread
  obtain ⟨rfl, _⟩ := Prod.mk.inj (Option.some.inj hnext)
  exact h.openItem hroot

theorem Tidy.pair? (h : Tidy source draft.root) (hread : draft.pair? text = some (next, rest)) :
    Tidy source next.root := by
  simp only [Draft.pair?, Option.bind_eq_bind, Option.bind_eq_some_iff] at hread
  obtain ⟨⟨path, key, after⟩, _, equals, _, ⟨value, behind⟩, hvalue, line, _, root, hroot, hnext⟩ :=
    hread
  obtain ⟨rfl, _⟩ := Prod.mk.inj (Option.some.inj hnext)
  exact h.addUnder (sound_value maxDepth _ _ _ hvalue) hroot

/-- Each line of a document leaves a tidy table tidy. -/
theorem tidy_of_lines? {fuel : Nat} (h : Tidy source draft.root)
    (hread : draft.lines? fuel text = some entries) : Tidy source entries := by
  induction fuel generalizing draft text with
  | zero => cases hread
  | succ fuel ih =>
    rw [Draft.lines?] at hread
    split at hread
    · obtain rfl := Option.some.inj hread
      exact h
    · exact ih h hread
    · exact ih h hread
    · obtain ⟨after, _, hread⟩ := Option.bind_eq_some_iff.mp hread
      exact ih h hread
    · obtain ⟨⟨next, after⟩, hnext, hread⟩ := Option.bind_eq_some_iff.mp hread
      exact ih (h.itemHeader? hnext) hread
    · obtain ⟨⟨next, after⟩, hnext, hread⟩ := Option.bind_eq_some_iff.mp hread
      exact ih (h.header? hnext) hread
    · obtain ⟨⟨next, after⟩, hnext, hread⟩ := Option.bind_eq_some_iff.mp hread
      exact ih (h.pair? hnext) hread

theorem tidy_of_parse? {text : String} (h : parse? text = some entries) : Tidy source entries := by
  have hstart : Tidy source (Draft.mk [] []).root := tidy_nil
  exact tidy_of_lines? hstart h

end Lines

end WaitingList.Toml

namespace WaitingList

/-- In the layer of a settings file no key is written twice. -/
theorem Setting.proper_ofFile? {name : String} {bytes : List UInt8} {layer : Setting}
    (h : Setting.ofFile? name bytes = some layer) : layer.Proper := by
  simp only [Setting.ofFile?, Option.bind_eq_bind, Option.bind_eq_some_iff] at h
  obtain ⟨text, _, entries, hentries, h⟩ := h
  obtain rfl := Option.some.inj h
  exact Toml.tidy_of_parse? hentries

theorem Surroundings.proper_fileLayer {s : Surroundings} {name : String} {layer : Setting}
    (h : s.fileLayer name = .ok layer) : layer.Proper := by
  rw [fileLayer] at h
  split at h
  · obtain rfl := Except.ok.inj h
    exact Setting.proper_empty _
  split at h
  next hfile =>
    obtain rfl := Except.ok.inj h
    exact Setting.proper_ofFile? hfile
  · cases h

/-- The layer of a file that holds the bytes of a document. -/
theorem Surroundings.fileLayer_of_parse? {s : Surroundings} {name text : String}
    {entries : Toml.Entries} (hfile : s.files.lookup name = some (Utf8.encode text.toList))
    (hparse : Toml.parse? text = some entries) :
    s.fileLayer name = .ok (.table (.file name) (entriesOfToml (.file name) entries)) := by
  have htext : Utf8.text? (Utf8.encode text.toList) = some text := Utf8.text?_eq_some_iff.mpr rfl
  have hlayer : Setting.ofFile? name (Utf8.encode text.toList) =
      some (.table (.file name) (entriesOfToml (.file name) entries)) := by
    simp [Setting.ofFile?, htext, hparse]
  rw [fileLayer, hfile]
  dsimp only
  rw [hlayer]

end WaitingList

import WaitingList.Proofs.Settings.File
import WaitingList.Proofs.Toml.Numeral

namespace WaitingList.Toml

variable {before after : Numeral} {key other : String} {path way : List String} {value : Value}
  {entries changed : Entries}

theorem lookup_put (key other : String) (value : Value) (entries : Entries) :
    (put key value entries).lookup other =
      if other = key then some value else entries.lookup other := by
  induction entries with
  | nil => rw [put, Setting.lookup_cons_eq]
  | cons entry rest ih =>
    obtain ⟨k, v⟩ := entry
    by_cases hkey : k = key
    · subst hkey
      simp only [put, if_true, Setting.lookup_cons_eq]
      split <;> rfl
    · rw [put, if_neg hkey, Setting.lookup_cons_eq, Setting.lookup_cons_eq, ih]
      by_cases hother : other = k
      · subst hother
        simp [hkey]
      · simp [hother]

/-- Entries that differ in one number at the end of a path through tables. -/
inductive Swapped (before after : Numeral) : List String → Entries → Entries → Prop where
  | here {key : String} {entries changed : Entries}
      (hbefore : entries.lookup key = some (numeralValue before))
      (hafter : changed.lookup key = some (numeralValue after))
      (hrest : ∀ other, other ≠ key → changed.lookup other = entries.lookup other) :
      Swapped before after [key] entries changed
  | inside {key : String} {path : List String} {kind : TableKind}
      {inner innerChanged entries changed : Entries}
      (hbefore : entries.lookup key = some (.table kind inner))
      (hafter : changed.lookup key = some (.table kind innerChanged))
      (hrest : ∀ other, other ≠ key → changed.lookup other = entries.lookup other)
      (hinner : Swapped before after path inner innerChanged) :
      Swapped before after (key :: path) entries changed

section Relation

variable {α β : Type} {r : α → α → Prop} {s : β → β → Prop} {x y : Option α} {f g : α → Option β}

theorem rel_bind (hxy : Option.Rel r x y) (hfg : ∀ a b, r a b → Option.Rel s (f a) (g b)) :
    Option.Rel s (x.bind f) (y.bind g) := by
  cases hxy with
  | some hab => exact hfg _ _ hab
  | none => exact .none

theorem rel_bind_left (hfg : ∀ a, Option.Rel s (f a) (g a)) :
    Option.Rel s (x.bind f) (x.bind g) := by
  cases x with
  | none => exact .none
  | some a => exact hfg a

end Relation

section Steps

variable {dotted : Bool} {kind : TableKind}

theorem lookup_put_congr {value value' : Value}
    (hrest : ∀ other, other ≠ key → changed.lookup other = entries.lookup other) :
    ∀ other, other ≠ key →
      (put key value' changed).lookup other = (put key value entries).lookup other :=
  fun other hother => by
    rw [lookup_put, lookup_put, if_neg hother, if_neg hother, hrest other hother]

/-- Under another key the same value may be put. -/
theorem Swapped.put (h : Swapped before after path entries changed) (hkey : path.head? ≠ some key)
    (value : Value) :
    Swapped before after path (put key value entries) (put key value changed) := by
  have hkept {k : String} (hk : k ≠ key) (table : Entries) :
      (Toml.put key value table).lookup k = table.lookup k := by rw [lookup_put, if_neg hk]
  have hrest' {k : String}
      (hrest : ∀ other, other ≠ k → changed.lookup other = entries.lookup other) (other : String)
      (hother : other ≠ k) :
      (Toml.put key value changed).lookup other = (Toml.put key value entries).lookup other := by
    rw [lookup_put, lookup_put, hrest other hother]
  cases h with
  | here hbefore hafter hrest =>
    have hk := fun heq => hkey (congrArg some heq)
    exact .here (by rw [hkept hk, hbefore]) (by rw [hkept hk, hafter]) (hrest' hrest)
  | inside hbefore hafter hrest hinner =>
    have hk := fun heq => hkey (congrArg some heq)
    exact .inside (by rw [hkept hk, hbefore]) (by rw [hkept hk, hafter]) (hrest' hrest) hinner

theorem Swapped.table {inner innerChanged : Entries}
    (h : Swapped before after path inner innerChanged)
    (hrest : ∀ other, other ≠ key → changed.lookup other = entries.lookup other) :
    Swapped before after (key :: path) (Toml.put key (.table kind inner) entries)
      (Toml.put key (.table kind innerChanged) changed) :=
  .inside (by rw [lookup_put, if_pos rfl]) (by rw [lookup_put, if_pos rfl])
    (lookup_put_congr hrest) h

/-- What is looked up under a key: the same in both, unless the path begins with the key. -/
theorem Swapped.lookup_cases (h : Swapped before after path entries changed) (key : String) :
    (path.head? ≠ some key ∧ changed.lookup key = entries.lookup key) ∨
    (path = [key] ∧ entries.lookup key = some (numeralValue before) ∧
      changed.lookup key = some (numeralValue after)) ∨
    ∃ rest kind inner innerChanged, path = key :: rest ∧
      entries.lookup key = some (.table kind inner) ∧
      changed.lookup key = some (.table kind innerChanged) ∧
      Swapped before after rest inner innerChanged ∧
      ∀ other, other ≠ key → changed.lookup other = entries.lookup other := by
  cases h with
  | @here k _ _ hbefore hafter hrest =>
    by_cases hkey : k = key
    · subst hkey
      exact .inr (.inl ⟨rfl, hbefore, hafter⟩)
    · exact .inl ⟨by simpa using hkey, hrest key (Ne.symm hkey)⟩
  | @inside k rest kind inner innerChanged _ _ hbefore hafter hrest hinner =>
    by_cases hkey : k = key
    · subst hkey
      exact .inr (.inr ⟨rest, kind, inner, innerChanged, rfl, hbefore, hafter, hinner, hrest⟩)
    · exact .inl ⟨by simpa using hkey, hrest key (Ne.symm hkey)⟩

theorem update_of_number {change : TableKind → Entries → Option Entries} {numeral : Numeral}
    (h : entries.lookup key = some (numeralValue numeral)) (way : List String) :
    update dotted change (key :: way) kind entries = none := by
  rw [update, h]
  cases numeral <;> rfl

/-- A change of one table that does not depend on the number leads to tables that differ in it
alone. -/
theorem Swapped.update {change : TableKind → Entries → Option Entries}
    (hchange : ∀ {path : List String} {kind : TableKind} {entries changed : Entries},
      Swapped before after path entries changed →
      Option.Rel (Swapped before after path) (change kind entries) (change kind changed))
    (h : Swapped before after path entries changed) (way : List String) :
    Option.Rel (Swapped before after path) (update dotted change way kind entries)
      (update dotted change way kind changed) := by
  induction way generalizing path kind entries changed with
  | nil => exact hchange h
  | cons key way ih =>
    obtain ⟨hkey, heq⟩ | ⟨_, hbefore, hafter⟩ |
      ⟨rest, own, inner, innerChanged, rfl, hbefore, hafter, hinner, hrest⟩ := h.lookup_cases key
    · -- the change is made beside the number
      have hput {make : Entries → Value} (inner : Option Entries) :
          Option.Rel (Swapped before after path)
            (inner.bind fun inner => some (Toml.put key (make inner) entries))
            (inner.bind fun inner => some (Toml.put key (make inner) changed)) :=
        rel_bind_left fun inner => .some (h.put hkey _)
      rw [Toml.update, Toml.update, heq]
      split
      · exact hput _
      · split
        · exact .none
        · exact hput _
      · exact rel_bind_left fun last => hput _
      · exact .none
    · rw [update_of_number hbefore, update_of_number hafter]
      exact .none
    · rw [Toml.update, Toml.update, hbefore, hafter]
      dsimp only
      split
      · exact .none
      · exact rel_bind (ih hinner) fun inner innerChanged hinner => .some (hinner.table hrest)

theorem isSome_lookup (h : Swapped before after path entries changed) (key : String) :
    (changed.lookup key).isSome = (entries.lookup key).isSome := by
  obtain ⟨_, heq⟩ | ⟨_, hbefore, hafter⟩ | ⟨_, _, _, _, _, hbefore, hafter, _⟩ := h.lookup_cases key
  · rw [heq]
  · rw [hbefore, hafter]
    rfl
  · rw [hbefore, hafter]
    rfl

theorem head?_ne_of_lookup (h : Swapped before after path entries changed)
    (hnone : entries.lookup key = none) : path.head? ≠ some key := by
  obtain ⟨hkey, _⟩ | ⟨_, hbefore, _⟩ | ⟨_, _, _, _, _, hbefore, _⟩ := h.lookup_cases key
  · exact hkey
  · rw [hnone] at hbefore
    cases hbefore
  · rw [hnone] at hbefore
    cases hbefore

theorem Swapped.addTo (simple : Bool) (h : Swapped before after path entries changed) :
    Option.Rel (Swapped before after path) (addTo simple key value kind entries)
      (addTo simple key value kind changed) := by
  rw [Toml.addTo, Toml.addTo, isSome_lookup h]
  split
  · exact .none
  split
  · exact .none
  next hnone =>
    have hkey := head?_ne_of_lookup h (Option.not_isSome_iff_eq_none.mp hnone)
    exact .some (h.put hkey value)

theorem Swapped.addUnder (h : Swapped before after path entries changed)
    (header way : List String) (key : String) (value : Value) :
    Option.Rel (Swapped before after path) (addUnder header way key value entries)
      (addUnder header way key value changed) := by
  refine h.update (fun {path kind entries changed} hinner => ?_) header
  rw [add, add]
  refine hinner.update (fun {path kind entries changed} htable => ?_) way
  exact htable.addTo way.isEmpty

theorem Swapped.openTable (h : Swapped before after path entries changed) (way : List String)
    (key : String) : Option.Rel (Swapped before after path) (openTable way key entries)
      (openTable way key changed) := by
  refine h.update (fun {path kind entries changed} h => ?_) way
  obtain ⟨hkey, heq⟩ | ⟨_, hbefore, hafter⟩ |
    ⟨rest, own, inner, innerChanged, rfl, hbefore, hafter, hinner, hrest⟩ := h.lookup_cases key
  · rw [heq]
    split
    · exact .some (h.put hkey _)
    · exact .some (h.put hkey _)
    · exact .none
  · rw [hbefore, hafter]
    cases before <;> cases after <;> exact .none
  · rw [hbefore, hafter]
    cases own with
    | implied => exact .some (hinner.table hrest)
    | headed | dotted | inline => exact .none

theorem Swapped.openItem (h : Swapped before after path entries changed) (way : List String)
    (key : String) : Option.Rel (Swapped before after path) (openItem way key entries)
      (openItem way key changed) := by
  refine h.update (fun {path kind entries changed} h => ?_) way
  obtain ⟨hkey, heq⟩ | ⟨_, hbefore, hafter⟩ | ⟨_, own, _, _, _, hbefore, hafter, _⟩ :=
    h.lookup_cases key
  · rw [heq]
    split
    · exact .some (h.put hkey _)
    · exact .some (h.put hkey _)
    · exact .none
  · rw [hbefore, hafter]
    cases before <;> cases after <;> exact .none
  · rw [hbefore, hafter]
    exact .none

end Steps

section Fresh

variable {dotted : Bool} {kind : TableKind}

/-- A way on which there is no list of tables. What is written there is written in one table. -/
def Clear : List String → Entries → Prop
  | [], _ => True
  | key :: way, entries =>
    match entries.lookup key with
    | some (.table _ inner) => Clear way inner
    | some (.tables _) => False
    | none | some _ => True

theorem clear_nil (way : List String) : Clear way [] := by
  cases way <;> trivial

/-- Where one number or another is put in a table, the tables above it differ in the number
alone. -/
theorem swapped_update {change change' : TableKind → Entries → Option Entries}
    (rest : List String) (hchange : ∀ kind entries, Clear rest entries →
      Option.Rel (Swapped before after path) (change kind entries) (change' kind entries))
    (hclear : Clear (way ++ rest) entries) :
    Option.Rel (Swapped before after (way ++ path)) (update dotted change way kind entries)
      (update dotted change' way kind entries) := by
  induction way generalizing kind entries with
  | nil => exact hchange kind entries hclear
  | cons key way ih =>
    rw [List.cons_append, Clear] at hclear
    rw [update, update, List.cons_append]
    split
    · exact rel_bind (ih (clear_nil _)) fun _ _ hinner => .some (hinner.table fun _ _ => rfl)
    next own inner hlookup =>
      rw [hlookup] at hclear
      split
      · exact .none
      · exact rel_bind (ih hclear) fun _ _ hinner => .some (hinner.table fun _ _ => rfl)
    next items hlookup =>
      rw [hlookup] at hclear
      cases hclear
    · exact .none

theorem swapped_addTo (simple : Bool) (key : String) (kind : TableKind) (entries : Entries) :
    Option.Rel (Swapped before after [key])
      (addTo simple key (numeralValue before) kind entries)
      (addTo simple key (numeralValue after) kind entries) := by
  rw [addTo, addTo]
  split
  · exact .none
  split
  · exact .none
  · exact .some (.here (by rw [lookup_put, if_pos rfl]) (by rw [lookup_put, if_pos rfl])
      (lookup_put_congr fun _ _ => rfl))

theorem swapped_addUnder (before after : Numeral) {header : List String} (key : String)
    (hclear : Clear (header ++ way) entries) :
    Option.Rel (Swapped before after (header ++ (way ++ [key])))
      (addUnder header way key (numeralValue before) entries)
      (addUnder header way key (numeralValue after) entries) := by
  refine swapped_update way (fun kind entries hway => ?_) hclear
  refine swapped_update [] (fun kind entries _ => ?_) (by rwa [List.append_nil])
  exact swapped_addTo way.isEmpty key kind entries

end Fresh

section Lines

variable {root rootChanged : Entries} {header : List String}

/-- Drafts that differ in one number, with the same rest of the text behind them. -/
def SwappedDraft (before after : Numeral) (path : List String)
    (read readChanged : Draft × List Char) : Prop :=
  Swapped before after path read.1.root readChanged.1.root ∧
    readChanged.1.header = read.1.header ∧ readChanged.2 = read.2

theorem swapped_header? (h : Swapped before after path root rootChanged) (text : List Char) :
    Option.Rel (SwappedDraft before after path) (Draft.header? ⟨root, header⟩ text)
      (Draft.header? ⟨rootChanged, header⟩ text) :=
  rel_bind_left fun (way, key, _) => rel_bind_left fun _ => rel_bind_left fun _ =>
    rel_bind (h.openTable way key) fun _ _ hopened => .some ⟨hopened, rfl, rfl⟩

theorem swapped_itemHeader? (h : Swapped before after path root rootChanged) (text : List Char) :
    Option.Rel (SwappedDraft before after path) (Draft.itemHeader? ⟨root, header⟩ text)
      (Draft.itemHeader? ⟨rootChanged, header⟩ text) :=
  rel_bind_left fun (way, key, _) => rel_bind_left fun _ => rel_bind_left fun _ =>
    rel_bind_left fun _ => rel_bind (h.openItem way key) fun _ _ hopened =>
      .some ⟨hopened, rfl, rfl⟩

theorem swapped_pair? (h : Swapped before after path root rootChanged) (text : List Char) :
    Option.Rel (SwappedDraft before after path) (Draft.pair? ⟨root, header⟩ text)
      (Draft.pair? ⟨rootChanged, header⟩ text) :=
  rel_bind_left fun (way, key, _) => rel_bind_left fun _ => rel_bind_left fun (value, _) =>
    rel_bind_left fun _ => rel_bind (h.addUnder header way key value) fun _ _ hadded =>
      .some ⟨hadded, rfl, rfl⟩

/-- The lines of a document are read alike on top of tables that differ in one number. -/
theorem swapped_lines? (fuel : Nat) (header : List String) (text : List Char)
    (h : Swapped before after path root rootChanged) :
    Option.Rel (Swapped before after path) (Draft.lines? fuel ⟨root, header⟩ text)
      (Draft.lines? fuel ⟨rootChanged, header⟩ text) := by
  induction fuel generalizing header root rootChanged text with
  | zero => exact .none
  | succ fuel ih =>
    have hmore {read readChanged : Draft × List Char}
        (h : SwappedDraft before after path read readChanged) :
        Option.Rel (Swapped before after path) (Draft.lines? fuel read.1 read.2)
          (Draft.lines? fuel readChanged.1 readChanged.2) := by
      obtain ⟨⟨root, header⟩, rest⟩ := read
      obtain ⟨⟨rootChanged, _⟩, _⟩ := readChanged
      obtain ⟨hroot, rfl, rfl⟩ := h
      exact ih _ _ hroot
    rw [Draft.lines?, Draft.lines?]
    split
    · exact .some h
    · exact ih _ _ h
    · exact ih _ _ h
    · exact rel_bind_left fun rest => ih _ rest h
    · exact rel_bind (swapped_itemHeader? h _) fun _ _ => hmore
    · exact rel_bind (swapped_header? h _) fun _ _ => hmore
    · exact rel_bind (swapped_pair? h _) fun _ _ => hmore

end Lines

section Layers

variable {source : Source}

theorem face_setting (scalar : Int → Scalar) (numeral : Numeral) :
    (numeral.setting source scalar).face = numeral.setting source scalar := by
  cases numeral <;> rfl

/-- The layers of documents that differ in one number show the same off its path. -/
theorem Swapped.alikeOff (h : Swapped before after path entries changed) :
    (Setting.table source (entriesOfToml source entries)).AlikeOff path
      (.table source (entriesOfToml source changed)) := by
  induction h with
  | @here key entries changed hbefore hafter hrest =>
    intro way hway
    cases way with
    | nil => rfl
    | cons other way =>
      have hother : other ≠ key := fun heq => hway (by simp [heq])
      rw [Setting.shows?_cons, Setting.shows?_cons, Setting.entries, Setting.entries,
        lookup_entriesOfToml, lookup_entriesOfToml, hrest other hother]
  | @inside key path kind inner innerChanged entries changed hbefore hafter hrest hinner ih =>
    intro way hway
    cases way with
    | nil => rfl
    | cons other way =>
      rw [Setting.shows?_cons, Setting.shows?_cons, Setting.entries, Setting.entries,
        lookup_entriesOfToml, lookup_entriesOfToml]
      by_cases hother : other = key
      · subst hother
        rw [hbefore, hafter]
        exact ih way fun hbegins => hway (List.cons_prefix_cons.mpr ⟨rfl, hbegins⟩)
      · rw [hrest other hother]

/-- At the end of the path each of them shows its number. -/
theorem Swapped.shows? (h : Swapped before after path entries changed) :
    (Setting.table source (entriesOfToml source entries)).shows? path =
        some (before.setting source .signed) ∧
      (Setting.table source (entriesOfToml source changed)).shows? path =
        some (after.setting source .signed) := by
  induction h with
  | here hbefore hafter hrest =>
    rw [Setting.shows?_singleton, Setting.shows?_singleton, Setting.entries, Setting.entries,
      lookup_entriesOfToml, lookup_entriesOfToml, hbefore, hafter]
    simp only [Option.map_some, ofToml_numeralValue, face_setting, and_self]
  | inside hbefore hafter hrest hinner ih =>
    rw [Setting.shows?_cons, Setting.shows?_cons, Setting.entries, Setting.entries,
      lookup_entriesOfToml, lookup_entriesOfToml, hbefore, hafter]
    exact ih

end Layers

end WaitingList.Toml

import WaitingList.Proofs.Settings.Exchange
import WaitingList.Proofs.Settings.Verbatim
import WaitingList.Proofs.Toml.Place

namespace WaitingList

namespace NumericField

variable {field : NumericField} {numeral : Numeral} {gap : Nat}

/-- The least number that a setting takes. -/
def least : NumericField → Numeral
  | listenHost => .list [0, 0, 0, 0]
  | listenPort | storePort | maxConnections | acquireTimeout => .one 0

/-- What is put in the place of a number is found there. -/
theorem get_put (h : field.Accepts numeral) (r : Settings) :
    field.get (field.put numeral r) = numeral := by
  by_cases hfield : field = listenHost
  · subst hfield
    obtain ⟨a, rfl, _⟩ := accepts_host_iff.mp h
    rfl
  · cases numeral with
    | list => exact absurd h (not_accepts_list hfield)
    | one n =>
      have hpos := ((accepts_one_iff hfield).mp h).1
      cases field <;> first | exact absurd rfl hfield | simp [get, put, hpos]

theorem length_itemsText_zeros (gap : Nat) (ns : List Int) :
    (Numeral.itemsText gap (List.replicate ns.length 0)).length ≤
      (Numeral.itemsText gap ns).length := by
  induction ns with
  | nil => exact Nat.le_refl _
  | cons n more ih =>
    have hzero : (Numeral.integerText 0).length = 1 := rfl
    have hn := List.length_pos_iff.mpr (Numeral.integerText_ne_nil n)
    cases more with
    | nil =>
      simp only [List.length_cons, List.length_nil, List.replicate_succ, List.replicate_zero,
        Numeral.itemsText, List.length_append, hzero]
      omega
    | cons second more =>
      simp only [List.length_cons, List.replicate_succ, Numeral.itemsText, List.length_append,
        List.length_replicate, hzero] at ih ⊢
      omega

/-- No number that a setting takes is written shorter than the least one. -/
theorem length_least_le (h : field.Accepts numeral) :
    (field.least.text gap).length ≤ (numeral.text gap).length := by
  by_cases hfield : field = listenHost
  · subst hfield
    obtain ⟨a, rfl, _⟩ := accepts_host_iff.mp h
    exact Nat.succ_le_succ (length_itemsText_zeros gap (a.octets.map Int.ofNat))
  · have hleast : field.least = .one 0 := by
      cases field <;> first | exact absurd rfl hfield | rfl
    rw [hleast]
    cases numeral with
    | list => exact absurd h (not_accepts_list hfield)
    | one n => exact List.length_pos_iff.mpr (Numeral.integerText_ne_nil n)

end NumericField

namespace Surroundings

open Setting (AlikeOff winner?_cons winner?_singleton)

variable {s t : Surroundings} {environment : Environment} {field : NumericField}
  {whole other value : Setting} {r r' : Settings} {path : List String}

theorem proper_of_layers (h : s.layers environment = .ok whole) : whole.Proper := by
  obtain ⟨base, specific, hbase, hspecific, rfl⟩ := files_of_layers h
  exact ((proper_fileLayer hbase).merge (proper_fileLayer hspecific)).merge s.proper_variableLayer

/-- Layers that are alike off a number amount to settings that are alike off it. -/
theorem load_eq_ok_iff_of_alikeOff (hs : s.layers environment = .ok whole)
    (ht : t.layers environment = .ok other) (h : whole.AlikeOff field.path other)
    (hbefore : whole.shows? field.path ≠ none) (hvalue : other.shows? field.path = some value)
    (hload : s.load environment = .ok r) : t.load environment = .ok r' ↔
      ∃ taken, field.read field.path value = .ok taken ∧ r' = field.put taken r := by
  rw [load_eq_ok_iff ht, NumericField.settings_of_alikeOff (proper_of_layers hs)
    (proper_of_layers ht) h hbefore hvalue ((load_eq_ok_iff hs).mp hload), map_eq_ok_iff]
  simp only [eq_comm]

theorem exists_layers_of_load (h : s.load environment = .ok r) :
    ∃ whole, s.layers environment = .ok whole ∧ Extraction.settings whole.entries = .ok r := by
  cases hlayers : s.layers environment with
  | error error => simp [load, hlayers, bind, Except.bind] at h
  | ok whole => exact ⟨whole, rfl, (load_eq_ok_iff hlayers).mp h⟩

/-- Surroundings in which the value of one variable is left open. -/
structure OpenVariable where
  files : List (String × List UInt8)
  before : List Variable
  name : String
  after : List Variable

namespace OpenVariable

variable {o : OpenVariable} {written : List Char}

/-- The variable with a value. -/
def valued (o : OpenVariable) (written : List Char) : Variable := ⟨o.name, Utf8.encode written⟩

def fill (o : OpenVariable) (written : List Char) : Surroundings where
  files := o.files
  process := o.before ++ o.valued written :: o.after

/-- The variable has the last say about a path: its name gives the path and is set once, and no
later variable has a say. -/
structure Sets (o : OpenVariable) (path : List String) : Prop where
  named : Variable.path? o.name = some path
  once : ∀ w ∈ o.before ++ o.after, w.name ≠ o.name
  last : ∀ w ∈ o.after, ∀ layer, w.layer? = some layer → layer.ruling? path = none

/-- The variable stands in the same place among the others, whatever its value. -/
theorem Sets.exists_place (h : o.Sets path) : ∃ left right,
    (∀ written, (o.fill written).variableLayer =
      Setting.ofVariables (left ++ o.valued written :: right)) ∧ ∀ w ∈ right, w ∈ o.after := by
  obtain ⟨left, right, _, hwith, hright⟩ := Variable.assign_insert h.once
  exact ⟨left, right, fun written => congrArg Setting.ofVariables (hwith (o.valued written) rfl),
    hright⟩

theorem Sets.path? (h : o.Sets path) (written : List Char) :
    Variable.path? (o.valued written).name = some path := h.named

theorem Sets.shows? (h : o.Sets path) (written : List Char) :
    (o.fill written).variableLayer.shows? path = some (VariableSyntax.read written).face := by
  obtain ⟨left, right, hlayer, hright⟩ := h.exists_place
  have hlater : (right.filterMap Variable.layer?).reverse.findSome? (·.ruling? path) = none := by
    rw [List.findSome?_eq_none_iff]
    intro layer hlayer
    obtain ⟨w, hw, hwritten⟩ := List.mem_filterMap.mp (List.mem_reverse.mp hlayer)
    exact h.last w (hright w hw) layer hwritten
  rw [hlayer, Setting.shows?_ofVariables_between left right (h.path? written), hlater,
    Setting.ruling?_nest_self, Variable.setting, valued, Utf8.decodeLossy_encode]
  rfl

theorem Sets.alikeOff (h : o.Sets path) (written other : List Char) :
    (o.fill written).variableLayer.AlikeOff path (o.fill other).variableLayer := by
  obtain ⟨left, right, hlayer, _⟩ := h.exists_place
  intro way hway
  rw [hlayer, hlayer, Setting.shows?_ofVariables_between left right (h.path? written),
    Setting.shows?_ofVariables_between left right (h.path? other), Setting.ruling?_nest_congr hway]

/-- Above the files the variable has the last say as well. -/
theorem Sets.shows?_merge (h : o.Sets path) (files : Setting) (written : List Char) :
    (files.merge (o.fill written).variableLayer).shows? path =
      some (VariableSyntax.read written).face := by
  rw [Setting.shows?_merge (proper_variableLayer _), winner?_cons,
    Setting.ruling?_of_shows? (h.shows? written), Option.getD_some]

theorem Sets.alikeOff_merge (h : o.Sets path) (files : Setting) (written other : List Char) :
    (files.merge (o.fill written).variableLayer).AlikeOff path
      (files.merge (o.fill other).variableLayer) :=
  (AlikeOff.refl _ _).merge (h.alikeOff _ _) (proper_variableLayer _) (proper_variableLayer _)

/-- A number in a variable is loaded exactly if it is in range, and then as it is written. -/
theorem Sets.load_eq_ok_iff (h : o.Sets field.path) {gap : Nat}
    (hload : (o.fill (field.least.text gap)).load environment = .ok r) {numeral : Numeral}
    (hshort : field = .listenHost → numeral.integers.length ≤ 4) :
    (o.fill (numeral.text gap)).load environment = .ok r' ↔
      field.Accepts numeral ∧ r' = field.put numeral r := by
  obtain ⟨whole, hlayers, _⟩ := exists_layers_of_load hload
  obtain ⟨base, specific, hbase, hspecific, rfl⟩ := files_of_layers hlayers
  have hother : (o.fill (numeral.text gap)).layers environment =
      .ok ((base.merge specific).merge (o.fill (numeral.text gap)).variableLayer) :=
    layers_of_files hbase hspecific
  have hvalue := h.shows?_merge (base.merge specific) (numeral.text gap)
  rw [Numeral.read_text, Toml.face_setting] at hvalue
  rw [load_eq_ok_iff_of_alikeOff hlayers hother (h.alikeOff_merge _ _ _)
    (by rw [h.shows?_merge]; simp) hvalue hload]
  simp only [NumericField.read_of_variable hshort]
  constructor
  · rintro ⟨taken, ⟨haccepts, rfl⟩, rfl⟩
    exact ⟨haccepts, rfl⟩
  · rintro ⟨haccepts, rfl⟩
    exact ⟨numeral, ⟨haccepts, rfl⟩, rfl⟩

end OpenVariable

/-- Surroundings in which a part of one file is left open. -/
structure OpenFile where
  name : String
  head : List Char
  tail : List Char
  /-- The other files. -/
  files : List (String × List UInt8)
  process : List Variable

namespace OpenFile

variable {o : OpenFile} {gap : Nat} {before after numeral : Numeral}

/-- The text of the file. -/
def document (o : OpenFile) (written : List Char) : String :=
  String.ofList (o.head ++ (written ++ o.tail))

def fill (o : OpenFile) (written : List Char) : Surroundings where
  files := (o.name, Utf8.encode (o.document written).toList) :: o.files
  process := o.process

/-- What is written in the file is the value at a path, and no layer above has a say about it. -/
structure Sets (o : OpenFile) (environment : Environment) (path : List String) : Prop where
  place : ∃ draft way key, Toml.AwaitsValue o.head draft way key ∧
    Toml.Clear (draft.header ++ way) draft.root ∧ draft.header ++ (way ++ [key]) = path
  ends : Toml.EndsWord o.tail
  last : o.name = environment.fileName ∨ o.name = baseFileName ∧
    ∀ layer, fileLayer ⟨o.files, o.process⟩ environment.fileName = .ok layer →
      layer.ruling? path = none
  silent : (variableLayer ⟨o.files, o.process⟩).ruling? path = none

theorem fileLayer_fill (o : OpenFile) (written : List Char) :
    (o.fill written).fileLayer o.name = match Toml.parse? (o.document written) with
      | some entries => .ok (.table (.file o.name) (entriesOfToml (.file o.name) entries))
      | none => .error ⟨o.name, Utf8.encode (o.document written).toList⟩ := by
  have hlookup : (o.fill written).files.lookup o.name =
      some (Utf8.encode (o.document written).toList) := List.lookup_cons_self
  have htext : Utf8.text? (Utf8.encode (o.document written).toList) = some (o.document written) :=
    Utf8.text?_eq_some_iff.mpr rfl
  rw [fileLayer, hlookup]
  dsimp only
  rw [Setting.ofFile?, htext]
  cases hparse : Toml.parse? (o.document written) <;> simp [hparse]

theorem fileLayer_fill_of_ne {name : String} (h : name ≠ o.name) (written : List Char) :
    (o.fill written).fileLayer name = fileLayer ⟨o.files, o.process⟩ name := by
  have hlookup : (o.fill written).files.lookup name = o.files.lookup name := by
    rw [fill, Setting.lookup_cons_eq, if_neg h]
  rw [fileLayer, hlookup, fileLayer]

/-- Files with one number or another in the same place are layers that differ in it alone. -/
theorem Sets.layers_alike (h : o.Sets environment path) {left right : Setting}
    (hleft : (o.fill (before.text gap)).fileLayer o.name = .ok left)
    (hright : (o.fill (after.text gap)).fileLayer o.name = .ok right) :
    left.AlikeOff path right ∧ left.shows? path = some (before.setting (.file o.name) .signed) ∧
      right.shows? path = some (after.setting (.file o.name) .signed) ∧
      ∀ n ∈ after.integers, Toml.FitsWord n := by
  obtain ⟨draft, way, key, hawaits, hclear, rfl⟩ := h.place
  rw [fileLayer_fill] at hleft hright
  cases hbefore : Toml.parse? (o.document (before.text gap)) with
  | none => rw [hbefore] at hleft; cases hleft
  | some entries =>
    cases hafter : Toml.parse? (o.document (after.text gap)) with
    | none => rw [hafter] at hright; cases hright
    | some changed =>
      rw [hbefore] at hleft
      rw [hafter] at hright
      obtain rfl := Except.ok.inj hleft
      obtain rfl := Except.ok.inj hright
      have hswapped := Toml.swapped_of_parse? hawaits hclear h.ends hbefore hafter
      exact ⟨hswapped.alikeOff, hswapped.shows?.1, hswapped.shows?.2,
        Toml.fits_of_parse? hawaits h.ends hafter⟩

/-- A file can be read with any number that fits in the place of one that is no longer. -/
theorem Sets.exists_layer (h : o.Sets environment path) {left : Setting}
    (hleft : (o.fill (before.text gap)).fileLayer o.name = .ok left)
    (hfits : ∀ n ∈ after.integers, Toml.FitsWord n)
    (hlength : (before.text gap).length ≤ (after.text gap).length) :
    ∃ right, (o.fill (after.text gap)).fileLayer o.name = .ok right := by
  obtain ⟨draft, way, key, hawaits, hclear, _⟩ := h.place
  rw [fileLayer_fill] at hleft
  cases hbefore : Toml.parse? (o.document (before.text gap)) with
  | none => rw [hbefore] at hleft; cases hleft
  | some entries =>
    obtain ⟨changed, hchanged⟩ := Toml.exists_parse? hawaits hclear h.ends hbefore hfits hlength
    rw [fileLayer_fill, document, hchanged]
    exact ⟨_, rfl⟩

/-- The layers above a file and below it, which do not depend on what is written in it. -/
structure Around (o : OpenFile) (environment : Environment) (path : List String)
    (stack : Setting → Setting) : Prop where
  layers : ∀ {written own}, (o.fill written).fileLayer o.name = .ok own →
    (o.fill written).layers environment = .ok (stack own)
  alikeOff : ∀ {left right : Setting}, left.Proper → right.Proper → left.AlikeOff path right →
    (stack left).AlikeOff path (stack right)
  shows? : ∀ {own value : Setting}, own.Proper → own.shows? path = some value →
    (stack own).shows? path = some value

theorem shows?_merge_of_silent {lower upper value : Setting} (hupper : upper.Proper)
    (hsilent : upper.ruling? path = none) (h : lower.shows? path = some value) :
    (lower.merge upper).shows? path = some value := by
  rw [Setting.shows?_merge hupper, winner?_cons, winner?_singleton, hsilent, Option.getD_none, h]

theorem base_ne (environment : Environment) : baseFileName ≠ environment.fileName := by
  cases environment <;> decide

theorem Sets.exists_around (h : o.Sets environment path) {written : List Char}
    (hlayers : (o.fill written).layers environment = .ok whole) :
    ∃ stack, o.Around environment path stack ∧
      ∃ own, (o.fill written).fileLayer o.name = .ok own ∧ whole = stack own := by
  obtain ⟨base, specific, hbase, hspecific, rfl⟩ := files_of_layers hlayers
  have hprocess := proper_variableLayer ⟨o.files, o.process⟩
  obtain hname | ⟨hname, hlast⟩ := h.last
  · have hother : baseFileName ≠ o.name := hname ▸ base_ne environment
    rw [fileLayer_fill_of_ne hother] at hbase
    refine ⟨fun own => (base.merge own).merge (variableLayer ⟨o.files, o.process⟩),
      ⟨fun {written own} hown => ?_, fun hleft hright halike => ?_, fun hown hvalue => ?_⟩,
      specific, hname ▸ hspecific, rfl⟩
    · rw [hname] at hown
      exact layers_of_files ((fileLayer_fill_of_ne hother written).trans hbase) hown
    · exact ((AlikeOff.refl _ _).merge halike hleft hright).merge (.refl _ _) hprocess hprocess
    · refine shows?_merge_of_silent hprocess h.silent ?_
      rw [Setting.shows?_merge hown, winner?_cons, Setting.ruling?_of_shows? hvalue,
        Option.getD_some]
  · have hother : environment.fileName ≠ o.name := hname ▸ (base_ne environment).symm
    rw [fileLayer_fill_of_ne hother] at hspecific
    have hproper := proper_fileLayer hspecific
    refine ⟨fun own => (own.merge specific).merge (variableLayer ⟨o.files, o.process⟩),
      ⟨fun {written own} hown => ?_, fun hleft hright halike => ?_, fun hown hvalue => ?_⟩,
      base, hname ▸ hbase, rfl⟩
    · rw [hname] at hown
      exact layers_of_files hown ((fileLayer_fill_of_ne hother written).trans hspecific)
    · exact (halike.merge (.refl _ _) hproper hproper).merge (.refl _ _) hprocess hprocess
    · exact shows?_merge_of_silent hprocess h.silent
        (shows?_merge_of_silent hproper (hlast specific hspecific) hvalue)

/-- A number in a file is loaded exactly if it is in range and fits the words of the file's syntax,
and then as it is written. -/
theorem Sets.load_eq_ok_iff (h : o.Sets environment field.path)
    (hload : (o.fill (field.least.text gap)).load environment = .ok r)
    (hshort : field = .listenHost → numeral.integers.length ≤ 4) :
    (o.fill (numeral.text gap)).load environment = .ok r' ↔
      field.Accepts numeral ∧ (∀ n ∈ numeral.integers, n < twoTo 63) ∧
        r' = field.put numeral r := by
  obtain ⟨whole, hlayers, _⟩ := exists_layers_of_load hload
  obtain ⟨stack, haround, left, hleft, rfl⟩ := h.exists_around hlayers
  have hread {right : Setting} (hright : (o.fill (numeral.text gap)).fileLayer o.name = .ok right) :
      (o.fill (numeral.text gap)).load environment = .ok r' ↔
        field.Accepts numeral ∧ r' = field.put numeral r := by
    obtain ⟨halike, hbefore, hafter, _⟩ := h.layers_alike hleft hright
    have hproper := proper_fileLayer hleft
    have hproper' := proper_fileLayer hright
    rw [load_eq_ok_iff_of_alikeOff hlayers (haround.layers hright)
      (haround.alikeOff hproper hproper' halike)
      (by rw [haround.shows? hproper hbefore]; simp) (haround.shows? hproper' hafter) hload]
    simp only [NumericField.read_of_file hshort]
    constructor
    · rintro ⟨taken, ⟨haccepts, rfl⟩, rfl⟩
      exact ⟨haccepts, rfl⟩
    · rintro ⟨haccepts, rfl⟩
      exact ⟨numeral, ⟨haccepts, rfl⟩, rfl⟩
  constructor
  · intro hloaded
    obtain ⟨other, hother, _⟩ := exists_layers_of_load hloaded
    obtain ⟨_, _, right, hright, _⟩ := h.exists_around hother
    obtain ⟨haccepts, hput⟩ := (hread hright).mp hloaded
    obtain ⟨_, _, _, hfits⟩ := h.layers_alike hleft hright
    exact ⟨haccepts, fun n hn => (hfits n hn).2, hput⟩
  · rintro ⟨haccepts, hwords, hput⟩
    have hfits : ∀ n ∈ numeral.integers, Toml.FitsWord n := fun n hn => by
      have hpos := (haccepts.1 n hn).1
      exact ⟨by omega, hwords n hn⟩
    obtain ⟨right, hright⟩ := h.exists_layer hleft hfits (NumericField.length_least_le haccepts)
    exact (hread hright).mpr ⟨haccepts, hput⟩

end OpenFile

/-- No number is cut to the width of its setting. Settings that are loaded hold the numbers that the
layers write, each in its range. With everything else in place, so that the settings are loaded with
the least number, a number is loaded if and only if it is in range, and then as it is written and
without a change of anything else: so it is of whatever trees the layers amount to, of the value of
a variable, and of the value of a key in a file, where no integer beyond 63 bits can be read. Of an
address that is written as a list of more than four numbers nothing is said. -/
theorem load_numbers (field : NumericField) (environment : Environment) :
    (∀ (s : Surroundings) (r : Settings), s.load environment = .ok r →
      ∃ whole value, s.layers environment = .ok whole ∧ field.find? whole = some value ∧
        ((field = .listenHost → ∀ source items, value = .list source items → items.length ≤ 4) →
          value.IsNumeral (field.get r) ∧ field.Accepts (field.get r))) ∧
    (∀ (s t : Surroundings) (r : Settings) (whole other value : Setting),
      s.load environment = .ok r → s.layers environment = .ok whole →
      whole.shows? field.path ≠ none → t.layers environment = .ok other →
      whole.AlikeOff field.path other → other.shows? field.path = some value →
      (field = .listenHost → ∀ source items, value = .list source items → items.length ≤ 4) →
      ∀ r', t.load environment = .ok r' ↔ ∃ numeral, value.IsNumeral numeral ∧
        field.Accepts numeral ∧ r' = field.put numeral r) ∧
    (∀ (o : OpenVariable) (gap : Nat) (r : Settings), o.Sets field.path →
      (o.fill (field.least.text gap)).load environment = .ok r →
      ∀ numeral : Numeral, (field = .listenHost → numeral.integers.length ≤ 4) →
        ∀ r', (o.fill (numeral.text gap)).load environment = .ok r' ↔
          field.Accepts numeral ∧ r' = field.put numeral r) ∧
    (∀ (o : OpenFile) (gap : Nat) (r : Settings), o.Sets environment field.path →
      (o.fill (field.least.text gap)).load environment = .ok r →
      ∀ numeral : Numeral, (field = .listenHost → numeral.integers.length ≤ 4) →
        ∀ r', (o.fill (numeral.text gap)).load environment = .ok r' ↔
          field.Accepts numeral ∧ (∀ n ∈ numeral.integers, n < twoTo 63) ∧
            r' = field.put numeral r) ∧
    ∀ (numeral : Numeral) (r : Settings), field.Accepts numeral →
      field.get (field.put numeral r) = numeral := by
  refine ⟨fun s r h => ?_,
    fun s t r whole other value hload hs hbefore ht halike hvalue hshort r' => ?_,
    fun o gap r ho hload numeral hshort r' => ho.load_eq_ok_iff hload hshort,
    fun o gap r ho hload numeral hshort r' => ho.load_eq_ok_iff hload hshort,
    fun numeral r haccepts => NumericField.get_put haccepts r⟩
  · obtain ⟨whole, hlayers, hsettings⟩ := exists_layers_of_load h
    obtain ⟨value, hvalue, htaken⟩ := NumericField.isNumeral_of_settings hsettings field
    exact ⟨whole, value, hlayers, hvalue, htaken⟩
  · rw [load_eq_ok_iff_of_alikeOff hs ht halike hbefore hvalue hload]
    simp only [NumericField.read_eq_ok_iff hshort, and_assoc]

/-- A file above a complete one, with a part left open. -/
def overComplete (head tail : String) : OpenFile where
  name := "local.toml"
  head := head.toList
  tail := tail.toList
  files := (complete []).files
  process := []

section OverComplete

variable {head tail : String} {written : List Char}

theorem fileLayer_overComplete : ((overComplete head tail).fill written).fileLayer baseFileName =
    .ok (.table (.file "base.toml") (entriesOfToml (.file "base.toml") completeEntries)) :=
  (OpenFile.fileLayer_fill_of_ne (OpenFile.base_ne .development) written).trans
    (fileLayer_complete [])

theorem layers_overComplete {entries : Toml.Entries}
    (h : Toml.parse? ((overComplete head tail).document written) = some entries) :
    ((overComplete head tail).fill written).layers .development =
      .ok (((Setting.table (.file "base.toml") (entriesOfToml (.file "base.toml")
        completeEntries)).merge (.table (.file "local.toml")
          (entriesOfToml (.file "local.toml") entries))).merge (Setting.ofVariables [])) := by
  have hspecific := (overComplete head tail).fileLayer_fill written
  rw [h] at hspecific
  exact layers_of_files fileLayer_overComplete hspecific

theorem load_overComplete_of_none
    (h : Toml.parse? ((overComplete head tail).document written) = none) :
    ((overComplete head tail).fill written).load .development = .error (.unreadable
      [⟨"local.toml", Utf8.encode ((overComplete head tail).document written).toList⟩]) := by
  have hspecific : ((overComplete head tail).fill written).fileLayer
      Environment.development.fileName = _ := (overComplete head tail).fileLayer_fill written
  rw [h] at hspecific
  rw [load, layers, fileLayer_overComplete, hspecific]
  rfl

end OverComplete

/-- The port of the store, in a variable above a complete file. -/
def portVariable : OpenVariable := ⟨(complete []).files, [], "APP_DB_CONFIG__PORT", []⟩

theorem sets_portVariable : portVariable.Sets NumericField.storePort.path where
  named := by rfl
  once := by simp [portVariable]
  last := by simp [portVariable]

def portFile : OpenFile := overComplete "[db_config]\nport=" "\n"

theorem sets_portFile : portFile.Sets .development NumericField.storePort.path where
  place := by
    refine ⟨⟨[("db_config", .table .headed [])], ["db_config"]⟩, [], "port", ⟨1, by decide, ?_⟩,
      trivial, rfl⟩
    exact fun fuel rest => rfl
  ends := by simp [portFile, overComplete, Toml.EndsWord, Toml.isWordChar]
  last := .inl rfl
  silent := rfl

def withPort (port : Nat) : Settings := { completeSettings with target.port := port }

theorem load_portVariable :
    (portVariable.fill (NumericField.storePort.least.text 0)).load .development =
      .ok (withPort 0) := by
  refine (load_of_layers (layers_complete [portVariable.valued ['0']])).trans ?_
  decide +kernel

theorem load_portFile :
    (portFile.fill (NumericField.storePort.least.text 0)).load .development = .ok (withPort 0) := by
  have hparse : Toml.parse? (portFile.document ['0']) =
      some [("db_config", .table .headed [("port", .integer 0)])] := by rfl
  refine (load_of_layers (layers_overComplete hparse)).trans ?_
  decide +kernel

/-- Of the ports above a complete file the greatest that fits is loaded, and the next one is not
cut to zero. -/
theorem load_numbers_port :
    (∃ whole value, (complete []).layers .development = .ok whole ∧
      NumericField.storePort.find? whole = some value ∧ value.IsNumeral (.one 1)) ∧
    (¬ ∃ r, (complete [portVariable.valued "65536".toList]).load .development = .ok r) ∧
    (portVariable.fill "65535".toList).load .development = .ok (withPort 65535) ∧
    (portFile.fill "65535".toList).load .development = .ok (withPort 65535) ∧
    NumericField.storePort.get (withPort 65535) = .one 65535 := by
  obtain ⟨hloaded, htrees, hvariable, hfile, hget⟩ := load_numbers .storePort .development
  have haccepts : NumericField.storePort.Accepts (.one 65535) :=
    ⟨by decide, trivial⟩
  refine ⟨?_, ?_, ?_, ?_, ?_⟩
  · obtain ⟨whole, value, hlayers, hvalue, htaken⟩ := hloaded _ _ load_complete
    exact ⟨whole, value, hlayers, hvalue, (htaken nofun).1⟩
  · rintro ⟨r, hload⟩
    obtain ⟨numeral, hnumeral, hrange, _⟩ := (htrees _ _ _ _ _ (.scalar .process (.unsigned 65536))
      load_portVariable (layers_complete [portVariable.valued ['0']]) (by decide +kernel)
      (layers_complete [portVariable.valued "65536".toList])
      (sets_portVariable.alikeOff_merge _ ['0'] "65536".toList)
      (sets_portVariable.shows?_merge _ "65536".toList) nofun r).mp hload
    cases numeral with
    | list => exact hrange.2
    | one n =>
      obtain rfl : 65536 = n := Option.some.inj hnumeral
      exact absurd hrange.1 (by decide)
  · exact (hvariable portVariable 0 _ sets_portVariable load_portVariable (.one 65535) nofun _).mpr
      ⟨haccepts, rfl⟩
  · exact (hfile portFile 0 _ sets_portFile load_portFile (.one 65535) nofun _).mpr
      ⟨haccepts, by decide, rfl⟩
  · exact hget (.one 65535) (withPort 0) haccepts

def timeoutFile : OpenFile :=
  overComplete
    "[pool_config]\nmax_connections=5\nmigrate_on_start=false\nacquire_timeout_millis=" "\n"

/-- An address of five numbers, in a variable. -/
def longAddress : List Variable :=
  [⟨"APP_NET_CONFIG__APP_PORT", Utf8.encode "80".toList⟩,
    ⟨"APP_NET_CONFIG__HOST", Utf8.encode "[1, 2, 3, 4, 5]".toList⟩]

/-- Not every number in range is loaded, and not every address that is loaded is what is written:
no file can hold an integer beyond 63 bits, and of a list of five integers the first four are
taken. -/
theorem load_not_as_written :
    (NumericField.acquireTimeout.Accepts (.one 9223372036854775808) ∧
      (timeoutFile.fill "9223372036854775807".toList).load .development =
        .ok { completeSettings with pool := ⟨5, 9223372036854775807, false⟩ } ∧
      (timeoutFile.fill "9223372036854775808".toList).load .development =
        .error (.unreadable [⟨"local.toml",
          Utf8.encode (timeoutFile.document "9223372036854775808".toList).toList⟩])) ∧
    ¬ NumericField.listenHost.Accepts (.list [1, 2, 3, 4, 5]) ∧
      (complete longAddress).load .development =
        .ok { completeSettings with network := ⟨⟨1, 2, 3, 4⟩, 80⟩ } := by
  refine ⟨⟨⟨by decide, trivial⟩, ?_, ?_⟩, fun haccepts => absurd haccepts.2 (by decide), ?_⟩
  · have hparse : Toml.parse? (timeoutFile.document "9223372036854775807".toList) =
        some [("pool_config", .table .headed [("max_connections", .integer 5),
          ("migrate_on_start", .boolean false),
          ("acquire_timeout_millis", .integer 9223372036854775807)])] := by rfl
    refine (load_of_layers (layers_overComplete hparse)).trans ?_
    decide +kernel
  · exact load_overComplete_of_none (by rfl)
  · refine (load_of_layers (layers_complete longAddress)).trans ?_
    decide +kernel

end Surroundings

end WaitingList

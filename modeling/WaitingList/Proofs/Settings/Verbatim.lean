import WaitingList.Proofs.Settings.Override
import WaitingList.Proofs.Settings.Section
import WaitingList.Proofs.Settings.Word

namespace WaitingList

namespace Extraction

variable {α β : Type} {s t value : Setting} {field : TextField} {source other : Source}
  {left right : List (String × Setting)}

/-- The section of the store with a value put in the place of one of its texts. -/
theorem target_of_overrides {r : ConnectionTarget} (hs : s.Proper) (ht : t.Proper)
    (h : Setting.Overrides ["db_config", field.key] value s t)
    (hleft : s.entries.lookup "db_config" = some (.table source left))
    (hright : t.entries.lookup "db_config" = some (.table other right))
    (htarget : target ["db_config"] (.table source left) = .ok r) :
    target ["db_config"] (.table other right) =
      (text ["db_config", field.key] value).map fun written => field.put written r := by
  have hput : value? text field.key ["db_config"] right =
      (text ["db_config", field.key] value).map some := by
    have hend := h.atEnd
    rw [← Setting.shows?_of_lookup hright, Setting.shows?_singleton, Setting.entries] at hend
    obtain ⟨inner, hlookup, hface⟩ := Option.map_eq_some_iff.mp hend
    rw [value?_of_lookup hlookup, ← text_face, hface, text_face]
    rfl
  refine target_put htarget (fun key _ hne β inner hlooks => ?_) hput
  have hshows (rest : List String) : (Setting.table other right).shows? (key :: rest) =
      (Setting.table source left).shows? (key :: rest) := by
    rw [Setting.shows?_of_lookup hright, Setting.shows?_of_lookup hleft]
    exact h.parted _ (by simp [hne]) (by simp [Ne.symm hne])
  exact hlooks.entry (ht.inner hright) (hs.inner hleft) hshows ["db_config"]

/-- A value that is put in the place of a text of the store becomes this text, if it is one, and
nothing else changes. -/
theorem settings_of_overrides {r : Settings} (hs : s.Proper) (ht : t.Proper)
    (h : Setting.Overrides ["db_config", field.key] value s t)
    (hsection : ∃ source, s.shows? ["db_config"] = some (.table source []))
    (hsettings : settings s.entries = .ok r) :
    settings t.entries = (text ["db_config", field.key] value).map fun written =>
      { r with target := field.put written r.target } := by
  obtain ⟨htarget, hnetwork, hpool, policy, hpolicy, hget⟩ := settings_eq_ok_iff.mp hsettings
  obtain ⟨source, hsource⟩ := hsection
  obtain ⟨left, hleft⟩ := Setting.exists_entries_of_shows? hsource
  have htable := h.onWay ["db_config"] (by simp) (by simp)
  obtain ⟨right, hright⟩ := Setting.exists_entries_of_shows? htable
  rw [value?_of_lookup hleft, map_eq_ok_iff] at htarget
  obtain ⟨_, htarget, heq⟩ := htarget
  obtain rfl := Option.some.inj heq
  have hwritten := target_of_overrides hs ht h hleft hright htarget
  have hpart {β : Type} {read : Reader β} {name : String} {keys : List String}
      (hread : LooksAt read {key | key ∈ keys}) (hname : name ≠ "db_config") :
      value? read name [] t.entries = value? read name [] s.entries :=
    hread.value? ht hs (h.parted _ (by simp [hname]) (by simp [Ne.symm hname]))
      (fun key _ rest => h.parted _ (by simp [hname]) (by simp [Ne.symm hname])) []
  rw [settings, value?_of_lookup hright, List.nil_append, hwritten,
    hpart looksAt_network (by simp), hpart looksAt_pool (by simp),
    hpart looksAt_submissions (by simp), hnetwork, hpool, hpolicy]
  cases text ["db_config", field.key] value with
  | error mismatch => rfl
  | ok written =>
    rw [← hget]
    rfl

/-- What the syntax of variables reads is taken as a text only if it is one. -/
theorem text_read (path : List String) (written : List Char) :
    text path (VariableSyntax.read written) =
      match VariableSyntax.read written with
      | .scalar _ (.text t) => .ok t
      | .scalar _ (.char c) => .ok (String.singleton c)
      | read => .error ⟨.wrongKind read.describe "a string", path, some .process⟩ := by
  have hsource := VariableSyntax.source_read written
  cases hread : VariableSyntax.read written with
  | scalar source value =>
    rw [hread] at hsource
    obtain rfl : source = .process := hsource
    cases value <;> rfl
  | list source _ | table source _ =>
    rw [hread] at hsource
    obtain rfl : source = .process := hsource
    rfl

theorem text_read_eq_ok_iff (path : List String) (written : List Char) :
    text path (VariableSyntax.read written) = .ok (String.ofList written) ↔
      VariableSyntax.Verbatim written := by
  rw [← VariableSyntax.read_eq_self_iff]
  constructor
  · intro h
    have hsource := VariableSyntax.source_read written
    cases hread : VariableSyntax.read written with
    | scalar source value =>
      rw [hread] at h hsource
      obtain rfl : source = .process := hsource
      cases value with
      | text t =>
        obtain rfl := Except.ok.inj h
        rfl
      | char c =>
        have heq : String.singleton c = String.ofList written := Except.ok.inj h
        have hwritten : written = [c] := by simpa using (congrArg String.toList heq).symm
        exact absurd hwritten (VariableSyntax.ne_of_read_char hread)
      | boolean | unsigned | signed | floating => cases h
    | list | table =>
      rw [hread] at h
      cases h
  · intro h
    rw [h]
    rfl

end Extraction

namespace Surroundings

open Extraction (text)

variable {s : Surroundings} {environment : Environment} {settings : Settings} {field : TextField}
  {before after : List Variable} {v : Variable}

theorem files_of_layers {whole : Setting} (h : s.layers environment = .ok whole) :
    ∃ base specific, s.fileLayer baseFileName = .ok base ∧
      s.fileLayer environment.fileName = .ok specific ∧
      whole = (base.merge specific).merge s.variableLayer := by
  rw [layers] at h
  split at h
  next base specific hbase hspecific =>
    exact ⟨base, specific, hbase, hspecific, (Except.ok.inj h).symm⟩
  all_goals cases h

theorem load_eq_ok_iff {whole : Setting} (h : s.layers environment = .ok whole) :
    s.load environment = .ok settings ↔ Extraction.settings whole.entries = .ok settings := by
  rw [load_of_layers h]
  cases Extraction.settings whole.entries <;> simp [Except.mapError]

/-- What one more variable does to the layer of the variables, wherever it has its place. -/
theorem overrides_of_set {way : List String} (hprocess : s.process = before ++ after)
    (hname : Variable.path? v.name = some way) (hunset : ∀ w ∈ s.process, w.name ≠ v.name)
    (hlater : Variable.PartFrom way after) :
    Setting.Overrides way v.setting s.variableLayer
      (variableLayer { s with process := before ++ v :: after }) := by
  rw [hprocess] at hunset
  obtain ⟨left, right, hwithout, hwith, hright⟩ := Variable.assign_insert hunset
  rw [variableLayer, variableLayer, hprocess, hwithout, hwith v rfl]
  exact Setting.overrides_ofVariables hname fun w hw => hlater w (hright w hw)

/-- What comes of setting one more variable for a text of the store. -/
theorem load_of_set (hprocess : s.process = before ++ after)
    (hload : s.load environment = .ok settings)
    (hsection : ∃ whole source, s.layers environment = .ok whole ∧
      whole.shows? ["db_config"] = some (.table source []))
    (hname : Variable.path? v.name = some ["db_config", field.key])
    (hunset : ∀ w ∈ s.process, w.name ≠ v.name)
    (hlater : Variable.PartFrom ["db_config", field.key] after) :
    { s with process := before ++ v :: after }.load environment =
      ((text ["db_config", field.key] v.setting).map fun written =>
        { settings with target := field.put written settings.target }).mapError .mismatch := by
  obtain ⟨whole, source, hlayers, hshows⟩ := hsection
  obtain ⟨base, specific, hbase, hspecific, rfl⟩ := files_of_layers hlayers
  have hfiles := (proper_fileLayer hbase).merge (proper_fileLayer hspecific)
  have hproper := proper_variableLayer { s with process := before ++ v :: after }
  have hmerged := (overrides_of_set hprocess hname hunset hlater).merge s.proper_variableLayer
    hproper fun path hpath hne => Setting.exists_table_on_way hshows hpath hne
  have hwithLayers : { s with process := before ++ v :: after }.layers environment =
      .ok ((base.merge specific).merge
        (variableLayer { s with process := before ++ v :: after })) :=
    layers_of_files hbase hspecific
  rw [load_of_layers hwithLayers, Extraction.settings_of_overrides
    (hfiles.merge s.proper_variableLayer) (hfiles.merge hproper) hmerged ⟨source, hshows⟩
    ((load_eq_ok_iff hlayers).mp hload)]

/-- A variable for one text of the store takes the place of a list that names the store as a
whole, so the rest of the store is missing. -/
theorem not_load_of_set_over_list {base specific : Setting} {source : Source}
    {items : List Setting}
    (hbase : s.fileLayer baseFileName = .ok base)
    (hspecific : s.fileLayer environment.fileName = .ok specific)
    (hlist : (base.merge specific).shows? ["db_config"] = some (.list source items))
    (hsilent : s.variableLayer.shows? ["db_config"] = none)
    (hprocess : s.process = before ++ after)
    (hname : Variable.path? v.name = some ["db_config", field.key])
    (hunset : ∀ w ∈ s.process, w.name ≠ v.name)
    (hlater : Variable.PartFrom ["db_config", field.key] after) :
    { s with process := before ++ v :: after }.load environment ≠ .ok settings := by
  intro hload
  have hoverrides := overrides_of_set hprocess hname hunset hlater
  have hwithLayers : { s with process := before ++ v :: after }.layers environment =
      .ok ((base.merge specific).merge
        (variableLayer { s with process := before ++ v :: after })) :=
    layers_of_files hbase hspecific
  have hproper := proper_variableLayer { s with process := before ++ v :: after }
  have hport : ¬ ["db_config", "port"] <+: ["db_config", field.key] ∧
      ¬ ["db_config", field.key] <+: ["db_config", "port"] := by
    cases field <;> simp [TextField.key]
  have htable := hoverrides.onWay ["db_config"] (by simp) (by simp)
  have hunsaid : (variableLayer { s with process := before ++ v :: after }).shows?
      ["db_config", "port"] = none := by
    rw [hoverrides.parted _ hport.1 hport.2, Setting.shows?_of_none hsilent]
  have hmissing := Setting.shows?_merge_of_none hproper hunsaid (Setting.shows?_of_list hlist)
  have hmerged : ((base.merge specific).merge
      (variableLayer { s with process := before ++ v :: after })).shows? ["db_config"] =
        some (.table .process []) := by
    rw [Setting.shows?_merge hproper, Setting.winner?_cons, Setting.ruling?_of_shows? htable,
      Option.getD_some]
  exact Extraction.shows?_port_of_settings hmerged ((load_eq_ok_iff hwithLayers).mp hload) hmissing

/-- A variable for a text of the store gives it the text that the syntax of variables reads, and
no other setting changes; a value that is read as no text is refused. So the text is taken as it
is exactly if the syntax leaves it as it is. This holds of a store that is given key by key. Where
the files give it as a list, one variable leaves nothing of the list, and no value will do. -/
theorem load_with_text {written : String} (hvalue : v.value = Utf8.encode written.toList)
    (hprocess : s.process = before ++ after) (hload : s.load environment = .ok settings)
    (hname : Variable.path? v.name = some ["db_config", field.key])
    (hunset : ∀ w ∈ s.process, w.name ≠ v.name)
    (hlater : Variable.PartFrom ["db_config", field.key] after) :
    ((∃ whole source, s.layers environment = .ok whole ∧
        whole.shows? ["db_config"] = some (.table source [])) →
      ({ s with process := before ++ v :: after }.load environment =
          .ok { settings with target := field.put written settings.target } ↔
        VariableSyntax.Verbatim written.toList) ∧
      { s with process := before ++ v :: after }.load environment =
        match VariableSyntax.read written.toList with
        | .scalar _ (.text t) => .ok { settings with target := field.put t settings.target }
        | .scalar _ (.char c) =>
          .ok { settings with target := field.put (String.singleton c) settings.target }
        | read =>
          .error (.mismatch ⟨.wrongKind read.describe "a string", ["db_config", field.key],
            some .process⟩)) ∧
    ((∃ base specific source items, s.fileLayer baseFileName = .ok base ∧
        s.fileLayer environment.fileName = .ok specific ∧
        (base.merge specific).shows? ["db_config"] = some (.list source items) ∧
        s.variableLayer.shows? ["db_config"] = none) →
      ∀ other, { s with process := before ++ v :: after }.load environment ≠ .ok other) := by
  constructor
  · intro hsection
    have hset := load_of_set hprocess hload hsection hname hunset hlater
    rw [Variable.setting, hvalue, Utf8.decodeLossy_encode] at hset
    rw [hset]
    constructor
    · have hput : Function.Injective fun t =>
          { settings with target := field.put t settings.target } := by
        intro t u h
        have hget := congrArg (fun r => field.get r.target) h
        simpa only [TextField.get_put] using hget
      have hverbatim := Extraction.text_read_eq_ok_iff ["db_config", field.key] written.toList
      rw [String.ofList_toList] at hverbatim
      exact (mapError_map_eq_ok_iff hput).trans hverbatim
    · rw [Extraction.text_read]
      split <;> rfl
  · rintro ⟨base, specific, source, items, hbase, hspecific, hlist, hsilent⟩ other
    exact not_load_of_set_over_list hbase hspecific hlist hsilent hprocess hname hunset hlater

-- The names that these variables usually have.
example : ["USERNAME", "PASSWORD", "HOST", "DB_NAME"].map
      (fun name => Variable.path? ("APP_DB_CONFIG__" ++ name)) =
    [TextField.username, .password, .host, .database].map
      fun field => some ["db_config", field.key] := by
  decide +kernel

def completeText : String :=
  "net_config=[[127,0,0,1],80]\npool_config=[5,9,false]\n[db_config]\nusername=\"u\"\npassword=\"p\"
port=1\nhost=\"a\"\ndb_name=\"d\"\nrequire_ssl=\"Allow\"\n"

def completeEntries : Toml.Entries :=
  [("net_config", .list [.list [.integer 127, .integer 0, .integer 0, .integer 1], .integer 80]),
    ("pool_config", .list [.integer 5, .integer 9, .boolean false]),
    ("db_config", .table .headed
      [("username", .text "u"), ("password", .text "p"), ("port", .integer 1), ("host", .text "a"),
        ("db_name", .text "d"), ("require_ssl", .text "Allow")])]

def completeSettings : Settings where
  network := ⟨⟨127, 0, 0, 1⟩, 80⟩
  target := ⟨"u", "p", 1, "a", "d", .allow⟩
  pool := ⟨5, 9, false⟩
  emailPolicy := .minimal

/-- Surroundings with one settings file, which is complete. -/
def complete (process : List Variable) : Surroundings where
  files := [(baseFileName, Utf8.encode completeText.toList)]
  process

set_option maxRecDepth 2000 in
theorem fileLayer_complete (process : List Variable) : (complete process).fileLayer baseFileName =
    .ok (.table (.file "base.toml") (entriesOfToml (.file "base.toml") completeEntries)) := by
  have hparse : Toml.parse? completeText = some completeEntries := by rfl
  exact fileLayer_of_parse? rfl hparse

theorem layers_complete_in (environment : Environment) (process : List Variable) :
    (complete process).layers environment =
      .ok (((Setting.table (.file "base.toml") (entriesOfToml (.file "base.toml")
        completeEntries)).merge (.table (.file environment.fileName) [])).merge
          (Setting.ofVariables (Variable.assign process))) := by
  cases environment <;> exact layers_of_files (fileLayer_complete process) rfl

theorem layers_complete (process : List Variable) : (complete process).layers .development =
    .ok (((Setting.table (.file "base.toml") (entriesOfToml (.file "base.toml")
      completeEntries)).merge (.table (.file "local.toml") [])).merge
        (Setting.ofVariables (Variable.assign process))) :=
  layers_complete_in .development process

theorem load_complete : (complete []).load .development = .ok completeSettings := by
  rw [load_of_layers (layers_complete [])]
  decide +kernel

/-- A password of which the syntax covers only the first digit is taken as it is. -/
theorem load_with_text_uncovered :
    (complete [⟨"APP_DB_CONFIG__PASSWORD", Utf8.encode "1,2".toList⟩]).load .development =
      .ok { completeSettings with target := ⟨"u", "1,2", 1, "a", "d", .allow⟩ } := by
  have huncovered : VariableSyntax.Verbatim "1,2".toList := by
    left
    have hread : VariableSyntax.value? 4 "1,2".toList =
        some (.scalar .process (.unsigned 1), [',', '2']) := by rfl
    intro value hvalue
    have hrest := hread.symm.trans hvalue
    simp at hrest
  have hload := @load_with_text (complete []) .development completeSettings .password [] []
    ⟨"APP_DB_CONFIG__PASSWORD", Utf8.encode "1,2".toList⟩ "1,2" rfl rfl load_complete (by rfl)
    (by simp [complete]) (by simp [Variable.PartFrom])
  exact (hload.1 ⟨_, _, layers_complete [], rfl⟩).1.mpr huncovered

/-- Not every text is taken as it is: digits are no text to the syntax of variables. -/
theorem not_load_with_digits :
    ¬ ∀ (s : Surroundings) (environment : Environment) (settings : Settings) (written : String),
      s.process = [] → written ≠ "" → s.load environment = .ok settings →
      { s with process := [⟨"APP_DB_CONFIG__PASSWORD", Utf8.encode written.toList⟩] }.load
        environment =
          .ok { settings with target := TextField.password.put written settings.target } := by
  intro h
  have hload := h (complete []) .development completeSettings "123" rfl (by decide) load_complete
  have hlayers := layers_complete [⟨"APP_DB_CONFIG__PASSWORD", Utf8.encode "123".toList⟩]
  have hrefused : (complete [⟨"APP_DB_CONFIG__PASSWORD", Utf8.encode "123".toList⟩]).load
      .development = .error (.mismatch ⟨.wrongKind "unsigned int `123`" "a string",
        ["db_config", "password"], some .process⟩) := by
    rw [load_of_layers hlayers]
    decide +kernel
  change (complete [⟨"APP_DB_CONFIG__PASSWORD", Utf8.encode "123".toList⟩]).load .development = _
    at hload
  rw [hrefused] at hload
  cases hload

end Surroundings

end WaitingList

import WaitingList.Proofs.Settings.Hidden
import WaitingList.Proofs.Settings.Verbatim
import WaitingList.Settings.Cache
import Mathlib.Data.List.Forall2

namespace WaitingList

def passwordPath : List String := ["db_config", "password"]

/-- Variables that differ at most in the password that they give. -/
def Variable.SameButPassword (v w : Variable) : Prop :=
  v.name = w.name ∧ (v.value = w.value ∨ path? v.name = some passwordPath)

namespace Variable

variable {v w : Variable} {vs ws : List Variable}

theorem SameButPassword.layer? (h : v.SameButPassword w) :
    v.layer?.map Setting.hidePassword = w.layer?.map Setting.hidePassword := by
  obtain ⟨hname, hvalue | hpath⟩ := h
  · rw [Variable.layer?, Variable.layer?, hname, setting, setting, hvalue]
  · rw [Variable.layer?, Variable.layer?, ← hname, hpath, Option.map_some, Option.map_some,
      Option.map_some, Option.map_some]
    have hhidden (v : Variable) :
        (Setting.nest .process v.setting passwordPath).hidePassword =
          Setting.nest .process (.scalar .process (.text "")) passwordPath := by
      have hsource : v.setting.source = .process := VariableSyntax.source_read _
      simp [passwordPath, Setting.nest, Setting.hidePassword, Setting.adjust,
        Setting.hideInSection, Setting.hidden, hsource]
    rw [hhidden, hhidden]

theorem names_eq (h : List.Forall₂ SameButPassword vs ws) : vs.map name = ws.map name := by
  induction h with
  | nil => rfl
  | cons hfirst _ ih => rw [List.map_cons, List.map_cons, hfirst.1, ih]

theorem any_name_eq (h : List.Forall₂ SameButPassword vs ws) (n : String) :
    vs.any (·.name = n) = ws.any (·.name = n) := by
  have hnames (us : List Variable) : us.any (·.name = n) = (us.map name).any (· = n) := by
    rw [List.any_map]
    rfl
  rw [hnames, hnames, names_eq h]

/-- Assigning names in order keeps variables the same but for the password. -/
theorem sameButPassword_assign (h : List.Forall₂ SameButPassword vs ws) :
    List.Forall₂ SameButPassword (assign vs) (assign ws) := by
  refine List.rel_foldl (P := List.Forall₂ SameButPassword) ?_ .nil h
  intro done others hdone v w hv
  dsimp only
  rw [any_name_eq hdone, hv.1]
  split
  · refine List.rel_map ?_ hdone
    intro old other hold
    dsimp only
    rw [hold.1]
    split
    · exact hv
    · exact hold
  · exact List.rel_append hdone (.cons hv .nil)

theorem layers_hidePassword (h : List.Forall₂ SameButPassword vs ws) :
    (vs.filterMap Variable.layer?).map Setting.hidePassword =
      (ws.filterMap Variable.layer?).map Setting.hidePassword := by
  rw [List.map_filterMap, List.map_filterMap]
  induction h with
  | nil => rfl
  | cons hfirst _ ih => rw [List.filterMap_cons, List.filterMap_cons, hfirst.layer?, ih]

theorem find?_sameButPassword (h : List.Forall₂ SameButPassword vs ws) {n : String}
    (hname : path? n ≠ some passwordPath) :
    (vs.find? (·.name = n)).map Variable.value = (ws.find? (·.name = n)).map Variable.value := by
  induction h with
  | nil => rfl
  | @cons v w vs ws hfirst _ ih =>
    rw [List.find?_cons, List.find?_cons, hfirst.1]
    by_cases hn : w.name = n
    · have hvalue : v.value = w.value :=
        hfirst.2.resolve_right fun hpath => hname (hn ▸ hfirst.1 ▸ hpath)
      simp [hn, hvalue]
    · simpa [hn] using ih

end Variable

namespace Surroundings

variable {s t : Surroundings} {environment : Environment} {complaint : List UInt8 → List UInt8}

/-- Surroundings that differ at most in the values that they give for the password of the store, as
far as their files can be read. -/
structure SameButPassword (s t : Surroundings) : Prop where
  files : ∀ name layer other, s.fileLayer name = .ok layer → t.fileLayer name = .ok other →
    layer.hidePassword = other.hidePassword
  process : List.Forall₂ Variable.SameButPassword s.process t.process

/-- What the parser of the files says of a file, if that is no TOML. -/
def complaintAbout? (s : Surroundings) (complaint : List UInt8 → List UInt8) (name : String) :
    Option (List UInt8) :=
  match s.fileLayer name with
  | .ok _ => none
  | .error file => some (complaint file.bytes)

/-- The parser says the same of the files of both, be it nothing. -/
def SameComplaints (s t : Surroundings) (complaint : List UInt8 → List UInt8)
    (environment : Environment) : Prop :=
  ∀ name ∈ [baseFileName, environment.fileName],
    s.complaintAbout? complaint name = t.complaintAbout? complaint name

/-- The password that is written highest passes for a text, if there is one. -/
def PasswordIsText (s : Surroundings) (environment : Environment) : Prop :=
  ∀ whole key found, s.layers environment = .ok whole → whole.password? = some (key, found) →
    found.isText = true

/-- Reading the settings ended with the password, which is no text, and tells what it is. -/
def RevealsPassword (s : Surroundings) (environment : Environment) : Prop :=
  ∃ whole key found, s.layers environment = .ok whole ∧ whole.password? = some (key, found) ∧
    found.isText = false ∧ s.load environment =
      .error (.mismatch ⟨.wrongKind found.describe "a string", ["db_config", key],
        some found.source⟩)

theorem SameButPassword.variableLayer_alike (h : s.SameButPassword t) :
    s.variableLayer.hidePassword = t.variableLayer.hidePassword := by
  have hassign := Variable.sameButPassword_assign h.process
  rw [Surroundings.variableLayer, Surroundings.variableLayer, Setting.ofVariables,
    Setting.ofVariables, Setting.hidePassword_foldl, Setting.hidePassword_foldl,
    Variable.layers_hidePassword hassign]

theorem name_of_unreadable {name : String} {file : UnreadableFile}
    (h : s.fileLayer name = .error file) : file.name = name := by
  rw [fileLayer] at h
  split at h
  · cases h
  · split at h
    · cases h
    · rw [← Except.error.inj h]

theorem SameButPassword.fileLayer_alike (h : s.SameButPassword t) {name : String}
    (hsame : s.complaintAbout? complaint name = t.complaintAbout? complaint name) :
    ((s.fileLayer name).map Setting.hidePassword).mapError (UnreadableFile.told complaint) =
      ((t.fileLayer name).map Setting.hidePassword).mapError (UnreadableFile.told complaint) := by
  rw [complaintAbout?, complaintAbout?] at hsame
  cases hs : s.fileLayer name with
  | ok layer =>
    cases ht : t.fileLayer name with
    | ok other => exact congrArg Except.ok (h.files name layer other hs ht)
    | error file => simp [hs, ht] at hsame
  | error file =>
    cases ht : t.fileLayer name with
    | ok other => simp [hs, ht] at hsame
    | error file' =>
      have hwords : complaint file.bytes = complaint file'.bytes := by simpa [hs, ht] using hsame
      have htold : file.told complaint = file'.told complaint := by
        rw [UnreadableFile.told, UnreadableFile.told, name_of_unreadable hs,
          name_of_unreadable ht, hwords]
      exact congrArg Except.error htold

theorem SameButPassword.layers_alike (h : s.SameButPassword t)
    (hsame : s.SameComplaints t complaint environment) :
    ((s.layers environment).map Setting.hidePassword).mapError (LoadError.told complaint) =
      ((t.layers environment).map Setting.hidePassword).mapError (LoadError.told complaint) := by
  have hbase := h.fileLayer_alike (hsame baseFileName (by simp))
  have hspecific := h.fileLayer_alike (hsame environment.fileName (by simp))
  rw [Surroundings.layers, Surroundings.layers]
  obtain ⟨file, file', hs, ht, hfile⟩ | ⟨base, base', hs, ht, hbase⟩ := told_cases hbase
  · obtain ⟨other, other', hs', ht', hother⟩ | ⟨_, _, hs', ht', _⟩ := told_cases hspecific
    · simp only [hs, ht, hs', ht', Except.map, Except.mapError, LoadError.told, List.map_cons,
        List.map_nil, hfile, hother]
    · simp only [hs, ht, hs', ht', Except.map, Except.mapError, LoadError.told, List.map_cons,
        List.map_nil, hfile]
  · obtain ⟨other, other', hs', ht', hother⟩ | ⟨_, _, hs', ht', hspecific⟩ := told_cases hspecific
    · simp only [hs, ht, hs', ht', Except.map, Except.mapError, LoadError.told, List.map_cons,
        List.map_nil, hother]
    · simp only [hs, ht, hs', ht', Except.map, Except.mapError, Setting.hidePassword_merge, hbase,
        hspecific, h.variableLayer_alike]

/-- Hiding the password hides it in what is loaded, or the password is revealed. -/
theorem load_hidePassword {whole : Setting} (h : s.layers environment = .ok whole) :
    (s.load environment).map Settings.hidePassword =
        (Extraction.settings whole.hidePassword.entries).mapError .mismatch ∨
      s.RevealsPassword environment := by
  rw [load_of_layers h]
  obtain hhidden | ⟨key, found, hfound, htext, hread⟩ := Extraction.settings_hidePassword whole
  · left
    rw [hhidden]
    cases Extraction.settings whole.entries <;> rfl
  · refine .inr ⟨whole, key, found, h, hfound, htext, ?_⟩
    rw [load_of_layers h, hread]
    rfl

/-- In surroundings that differ at most in a password, either of them reveals it, or loading is told
of alike if what the parser says of the files is. -/
theorem SameButPassword.load_alike (h : s.SameButPassword t)
    (hsame : s.SameComplaints t complaint environment) :
    ((s.load environment).map Settings.hidePassword).mapError (LoadError.told complaint) =
        ((t.load environment).map Settings.hidePassword).mapError (LoadError.told complaint) ∨
      s.RevealsPassword environment ∨ t.RevealsPassword environment := by
  obtain ⟨e, e', hs, ht, htold⟩ | ⟨whole, other, hs, ht, hhidden⟩ :=
    told_cases (h.layers_alike hsame)
  · left
    rw [Surroundings.load, Surroundings.load, hs, ht]
    exact congrArg Except.error htold
  · obtain hload | hreveals := load_hidePassword hs
    · obtain hload' | hreveals := load_hidePassword ht
      · exact .inl (by rw [hload, hload', hhidden])
      · exact .inr (.inr hreveals)
    · exact .inr (.inl hreveals)

theorem passwordIsText_of_layers {whole : Setting} (hlayers : s.layers environment = .ok whole)
    (htext : whole.password?.all (·.2.isText) = true) : s.PasswordIsText environment := by
  intro other key found hother hfound
  obtain rfl := Except.ok.inj (hlayers.symm.trans hother)
  rwa [hfound] at htext

theorem PasswordIsText.not_revealsPassword (h : s.PasswordIsText environment) :
    ¬ s.RevealsPassword environment := by
  rintro ⟨whole, key, found, hlayers, hfound, htext, _⟩
  rw [h whole key found hlayers hfound] at htext
  cases htext

theorem SameButPassword.valueOf?_eq (h : s.SameButPassword t) {name : String}
    (hname : Variable.path? name ≠ some passwordPath) : s.valueOf? name = t.valueOf? name := by
  have hfound := Variable.find?_sameButPassword (Variable.sameButPassword_assign h.process) hname
  rw [Surroundings.valueOf?, Surroundings.valueOf?]
  cases hs : (Variable.assign s.process).find? (·.name = name) <;>
    cases ht : (Variable.assign t.process).find? (·.name = name) <;> simp_all

theorem SameButPassword.environment_eq (h : s.SameButPassword t) :
    s.environment = t.environment := by
  rw [Surroundings.environment, Surroundings.environment,
    h.valueOf?_eq (show Variable.path? environmentVariable ≠ some passwordPath by decide)]

theorem SameButPassword.connectionTarget_eq (h : s.SameButPassword t) :
    s.connectionTarget = t.connectionTarget := by
  rw [Surroundings.connectionTarget, Surroundings.connectionTarget,
    h.valueOf?_eq (show Variable.path? connectionVariable ≠ some passwordPath by decide)]

theorem SameButPassword.build_alike (h : s.SameButPassword t)
    (hload : ((s.load environment).map Settings.hidePassword).mapError (LoadError.told complaint) =
      ((t.load environment).map Settings.hidePassword).mapError (LoadError.told complaint)) :
    ((s.build environment).map Settings.hidePassword).mapError (SettingsError.told complaint) =
      ((t.build environment).map Settings.hidePassword).mapError
        (SettingsError.told complaint) := by
  rw [build, build]
  obtain ⟨e, e', hs, ht, htold⟩ | ⟨r, r', hs, ht, hhidden⟩ := told_cases hload
  · rw [hs, ht]
    exact congrArg (fun e => Except.error (SettingsError.layers e)) htold
  · rw [hs, ht]
    cases environment with
    | development => exact congrArg Except.ok hhidden
    | production =>
      dsimp only
      rw [h.connectionTarget_eq]
      cases t.connectionTarget with
      | error e => rfl
      | ok target =>
        exact congrArg (fun settings : Settings =>
          Except.ok { settings with target := TextField.password.put "" target }) hhidden

/-- As long as the password is a text, nothing that comes of reading the settings depends on which
text it is, but for the password itself and what the parser says of a file that is no TOML, where
it quotes a line: neither the settings nor the failure as it is told, neither when they are read for
the first time nor when a process asks for them. Failures that are told of differently reveal the
password of one of the two, which is no text, or the parser complains of files differently. -/
theorem failures_hide_password (complaint : List UInt8 → List UInt8) (h : s.SameButPassword t) :
    (∀ environment, s.SameComplaints t complaint environment → s.PasswordIsText environment →
      t.PasswordIsText environment →
      ((s.load environment).map Settings.hidePassword).mapError (LoadError.told complaint) =
        ((t.load environment).map Settings.hidePassword).mapError (LoadError.told complaint)) ∧
    ((∀ environment, s.environment = .ok environment → s.SameComplaints t complaint environment ∧
        s.PasswordIsText environment ∧ t.PasswordIsText environment) →
      ∀ cache : SettingsCache,
        ((cache.get s).1.map Settings.hidePassword).mapError (SettingsError.told complaint) =
          ((cache.get t).1.map Settings.hidePassword).mapError (SettingsError.told complaint)) ∧
    ∀ environment e e', s.load environment = .error e → t.load environment = .error e' →
      e.told complaint ≠ e'.told complaint →
      s.RevealsPassword environment ∨ t.RevealsPassword environment ∨
        ¬ s.SameComplaints t complaint environment := by
  have hload (environment : Environment) (hsame : s.SameComplaints t complaint environment)
      (hs : s.PasswordIsText environment) (ht : t.PasswordIsText environment) :
      ((s.load environment).map Settings.hidePassword).mapError (LoadError.told complaint) =
        ((t.load environment).map Settings.hidePassword).mapError (LoadError.told complaint) :=
    (h.load_alike hsame).resolve_right
      (not_or.mpr ⟨hs.not_revealsPassword, ht.not_revealsPassword⟩)
  refine ⟨hload, fun htexts cache => ?_, fun environment e e' hs ht hne => ?_⟩
  · have hsettings :
        (s.settings.map Settings.hidePassword).mapError (SettingsError.told complaint) =
          (t.settings.map Settings.hidePassword).mapError (SettingsError.told complaint) := by
      rw [Surroundings.settings, Surroundings.settings, ← h.environment_eq]
      cases henvironment : s.environment with
      | error e => rfl
      | ok environment =>
        obtain ⟨hsame, hs, ht⟩ := htexts environment henvironment
        exact h.build_alike (hload environment hsame hs ht)
    rw [SettingsCache.get, SettingsCache.get]
    cases cache.settings with
    | some settings => rfl
    | none =>
      obtain ⟨e, e', hs, ht, htold⟩ | ⟨r, r', hs, ht, hhidden⟩ := told_cases hsettings
      · rw [hs, ht]
        exact congrArg Except.error htold
      · rw [hs, ht]
        exact congrArg Except.ok hhidden
  · by_cases hsame : s.SameComplaints t complaint environment
    · obtain htold | hreveals | hreveals := h.load_alike hsame
      · rw [hs, ht] at htold
        exact absurd (Except.error.inj htold) hne
      · exact .inl hreveals
      · exact .inr (.inl hreveals)
    · exact .inr (.inr hsame)

/-- A text shows if its line is broken, since the parser complains of that line. -/
example : load ⟨[(baseFileName, Utf8.encode "db_config.password = \"a".toList)], []⟩ .development =
    .error (.unreadable [⟨baseFileName, Utf8.encode "db_config.password = \"a".toList⟩]) := by
  decide +kernel

def withPassword (password : String) : Surroundings :=
  complete [⟨"APP_DB_CONFIG__PASSWORD", Utf8.encode password.toList⟩,
    ⟨"APP_DB_CONFIG__PORT", Utf8.encode "x".toList⟩]

theorem sameButPassword_withPassword (password other : String) :
    (withPassword password).SameButPassword (withPassword other) where
  files := fun name layer other hs ht => by
    obtain rfl : layer = other := Except.ok.inj (hs.symm.trans ht)
    rfl
  process := .cons ⟨rfl, .inr (show Variable.path? "APP_DB_CONFIG__PASSWORD" = _ by decide)⟩
    (.cons ⟨rfl, .inl rfl⟩ .nil)

theorem sameComplaints_withPassword (complaint : List UInt8 → List UInt8) (password other : String)
    (environment : Environment) :
    (withPassword password).SameComplaints (withPassword other) complaint environment :=
  fun _ _ => rfl

/-- A wrong port is told of alike with every password that is a text. -/
theorem failures_hide_password_port :
    (((withPassword "a").load .development).map Settings.hidePassword).mapError
        (LoadError.told id) =
      (((withPassword "b,c").load .development).map Settings.hidePassword).mapError
        (LoadError.told id) := by
  have hfirst : (withPassword "a").PasswordIsText .development :=
    passwordIsText_of_layers (layers_complete _) (by decide +kernel)
  have hsecond : (withPassword "b,c").PasswordIsText .development :=
    passwordIsText_of_layers (layers_complete _) (by decide +kernel)
  exact (failures_hide_password id (sameButPassword_withPassword "a" "b,c")).1 .development
    (sameComplaints_withPassword id "a" "b,c" .development) hfirst hsecond

/-- Values of the password that are no texts show in the failure. -/
theorem not_failures_hide_password :
    ¬ ∀ (complaint : List UInt8 → List UInt8) (s t : Surroundings) (environment : Environment)
      (e e' : LoadError), s.SameButPassword t → s.load environment = .error e →
      t.load environment = .error e' → e.told complaint = e'.told complaint := by
  intro h
  have hdigits : (withPassword "12345").load .development =
      .error (.mismatch ⟨.wrongKind "unsigned int `12345`" "a string", ["db_config", "password"],
        some .process⟩) := by
    rw [withPassword, load_of_layers (layers_complete _)]
    decide +kernel
  have hlist : (withPassword "[]").load .development =
      .error (.mismatch ⟨.wrongKind "sequence" "a string", ["db_config", "password"],
        some .process⟩) := by
    rw [withPassword, load_of_layers (layers_complete _)]
    decide +kernel
  have hsame := h id _ _ _ _ _ (sameButPassword_withPassword "12345" "[]") hdigits hlist
  simp [LoadError.told] at hsame

end Surroundings

end WaitingList

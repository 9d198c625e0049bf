import WaitingList.Proofs.Settings.Hidden
import WaitingList.Proofs.Settings.Verbatim

namespace WaitingList

namespace Setting

variable {key : String} {path : List String} {s t lower below upper above : Setting}

/-- Trees that show the same at every path that does not begin with a key. -/
def AlikeBut (key : String) (s t : Setting) : Prop :=
  ∀ path : List String, path.head? ≠ some key → s.shows? path = t.shows? path

theorem AlikeBut.refl (key : String) (s : Setting) : s.AlikeBut key s := fun _ _ => rfl

theorem AlikeBut.symm (h : s.AlikeBut key t) : t.AlikeBut key s :=
  fun path hpath => (h path hpath).symm

theorem AlikeBut.trans {u : Setting} (h : s.AlikeBut key t) (h' : t.AlikeBut key u) :
    s.AlikeBut key u :=
  fun path hpath => (h path hpath).trans (h' path hpath)

theorem alikeBut_iff : s.AlikeBut key t ↔ s.AlikeOff [key] t := by
  refine forall_congr' fun path => ?_
  cases path <;> simp [eq_comm]

/-- Layers that are alike but for a key lie over each other to trees that are so too. -/
theorem AlikeBut.merge (hlower : lower.AlikeBut key below) (hupper : upper.AlikeBut key above)
    (hproper : upper.Proper) (hproper' : above.Proper) :
    (lower.merge upper).AlikeBut key (below.merge above) :=
  alikeBut_iff.mpr ((alikeBut_iff.mp hlower).merge (alikeBut_iff.mp hupper) hproper hproper')

/-- A single value under a key, laid over a table of the same layer, changes nothing else. -/
theorem alikeBut_merge_nest {source : Source} {value : Setting} {rest : List String}
    (hvalue : value.Proper) (hlower : lower.face = table source []) :
    (lower.merge (nest source value (key :: rest))).AlikeBut key lower := by
  intro path hpath
  rw [shows?_merge (hvalue.nest source _), winner?_cons, winner?_singleton]
  cases path with
  | nil => exact congrArg some hlower.symm
  | cons first path =>
    have hne : first ≠ key := by simpa using hpath
    rw [ruling?_nest_of_parted (by simp [hne]) (by simp [hne.symm]), Option.getD_none]

theorem lookup_filter_ne {other : String} (hother : other ≠ key)
    (entries : List (String × Setting)) :
    (entries.filter (·.1 ≠ key)).lookup other = entries.lookup other := by
  induction entries with
  | nil => rfl
  | cons entry rest ih =>
    obtain ⟨k, v⟩ := entry
    rw [List.filter_cons, lookup_cons_eq]
    by_cases hk : k = key
    · rw [if_neg (by simpa using hk), if_neg (hk ▸ hother), ih]
    · rw [if_pos (by simpa using hk), lookup_cons_eq, ih]

/-- A table may lack a key as a whole. -/
theorem alikeBut_filter (source : Source) (entries : List (String × Setting)) :
    (table source entries).AlikeBut key (table source (entries.filter (·.1 ≠ key))) := by
  intro path hpath
  cases path with
  | nil => rfl
  | cons first path =>
    have hne : first ≠ key := by simpa using hpath
    rw [shows?_cons, shows?_cons, Setting.entries, Setting.entries, lookup_filter_ne hne]

end Setting

namespace Variable

variable {key : String} {v : Variable}

/-- Whether a name is that of a variable for a key or for something below it. -/
def speaksOf (key name : String) : Bool := (path? name).any fun path => path.head? = some key

theorem speaksOf_iff {name : String} :
    speaksOf key name = true ↔ ∃ rest, path? name = some (key :: rest) := by
  rw [speaksOf]
  cases path? name with
  | none => simp
  | some path => cases path <;> simp

/-- Names that are left out before or after they are assigned are left out alike. -/
theorem filter_assign (keep : String → Bool) (vs : List Variable) :
    (assign vs).filter (fun v => keep v.name) = assign (vs.filter fun v => keep v.name) := by
  induction vs using List.reverseRecOn with
  | nil => rfl
  | append_singleton rest v ih =>
    have hreplaced : (fun v : Variable => keep v.name) ∘
        (fun old : Variable => if old.name = v.name then v else old) = fun v => keep v.name := by
      funext old
      rw [Function.comp_apply]
      split
      next hname => rw [hname]
      · rfl
    rw [assign_concat, List.filter_append]
    cases hkeep : keep v.name with
    | true =>
      have hlast : [v].filter (fun v => keep v.name) = [v] := by simp [hkeep]
      have hany : (assign (rest.filter fun v => keep v.name)).any (·.name = v.name) =
          (assign rest).any (·.name = v.name) := by
        rw [← ih, List.any_filter]
        refine congrArg (assign rest).any (funext fun w => ?_)
        by_cases hname : w.name = v.name <;> simp [hname, hkeep]
      rw [hlast, assign_concat, hany, ← ih]
      split
      · rw [List.filter_map, hreplaced]
      · rw [List.filter_append, hlast]
    | false =>
      have hlast : [v].filter (fun v => keep v.name) = [] := by simp [hkeep]
      rw [hlast, List.append_nil, ← ih]
      split
      · -- what is replaced is left out, and nothing else is changed
        rw [List.filter_map, hreplaced]
        refine (List.map_congr_left fun w hw => ?_).trans (List.map_id _)
        have hkept : keep w.name = true := (List.mem_filter.mp hw).2
        have hname : w.name ≠ v.name := fun hname => by simp [hname, hkeep] at hkept
        rw [if_neg hname, id]
      · rw [List.filter_append, hlast, List.append_nil]

end Variable

namespace Setting

variable {key : String} {vs ws : List Variable}

theorem ofVariables_concat (vs : List Variable) (v : Variable) :
    ofVariables (vs ++ [v]) = v.layer?.elim (ofVariables vs) (ofVariables vs).merge := by
  rw [ofVariables, List.filterMap_append, List.foldl_append]
  cases hlayer : v.layer? <;> simp [hlayer, ofVariables]

theorem face_ofVariables (vs : List Variable) : (ofVariables vs).face = table .process [] := by
  induction vs using List.reverseRecOn with
  | nil => rfl
  | append_singleton rest v ih =>
    rw [ofVariables_concat, Variable.layer?]
    cases hpath : Variable.path? v.name with
    | none => exact ih
    | some path =>
      cases path with
      | nil => exact absurd hpath (Variable.path?_ne_nil v.name)
      | cons key path => rfl

/-- Variables that speak of a key change nothing else. -/
theorem alikeBut_ofVariables_filter (key : String) (vs : List Variable) :
    (ofVariables vs).AlikeBut key
      (ofVariables (vs.filter fun v => !Variable.speaksOf key v.name)) := by
  induction vs using List.reverseRecOn with
  | nil => exact .refl key _
  | append_singleton rest v ih =>
    rw [List.filter_append, ofVariables_concat]
    cases hspeaks : Variable.speaksOf key v.name with
    | false =>
      have hlast : [v].filter (fun v => !Variable.speaksOf key v.name) = [v] := by simp [hspeaks]
      rw [hlast, ofVariables_concat]
      cases hlayer : v.layer? with
      | none => exact ih
      | some layer =>
        exact ih.merge (.refl key layer) (proper_of_layer? hlayer) (proper_of_layer? hlayer)
    | true =>
      have hlast : [v].filter (fun v => !Variable.speaksOf key v.name) = [] := by simp [hspeaks]
      obtain ⟨rest', hpath⟩ := Variable.speaksOf_iff.mp hspeaks
      rw [hlast, List.append_nil, Variable.layer?, hpath]
      refine AlikeBut.trans ?_ ih
      exact alikeBut_merge_nest (VariableSyntax.proper_read _) (face_ofVariables rest)

end Setting

namespace Extraction

open Setting (AlikeBut)

variable {s t : Setting} {r r' : ConnectionTarget}

/-- What a tree says of the store: what is wrong with it, the target that it gives, or nothing. -/
def target? (tree : Setting) : Except Mismatch (Option ConnectionTarget) :=
  value? target "db_config" [] tree.entries

theorem value?_of_alikeBut {α : Type} {read : Reader α} {keys : Set String} {key name : String}
    (hread : LooksAt read keys) (h : s.AlikeBut key t) (hs : s.Proper) (ht : t.Proper)
    (hname : name ≠ key) : value? read name [] s.entries = value? read name [] t.entries :=
  hread.value? hs ht (h _ (by simp [hname])) (fun k _ rest => h _ (by simp [hname])) []

/-- What is wrong with the store ends the reading, whatever else is wrong. -/
theorem settings_of_mismatch {mismatch : Mismatch} (h : target? s = .error mismatch) :
    settings s.entries = .error mismatch := by
  rw [target?] at h
  rw [settings, h]
  rfl

/-- Trees that both give a target, or both give none, come to the same but for the target. -/
theorem settings_with_target (h : s.AlikeBut "db_config" t) (hs : s.Proper) (ht : t.Proper)
    (hgiven : (target? s).map Option.isSome = (target? t).map Option.isSome) :
    (settings s.entries).map (fun read target => { read with target }) =
      (settings t.entries).map fun read target => { read with target } := by
  obtain ⟨mismatch, hleft, hright⟩ | ⟨given, given', hleft, hright, hsome⟩ := alike_cases hgiven
  · rw [settings_of_mismatch hleft, settings_of_mismatch hright]
  · rw [target?] at hleft hright
    rw [settings, settings, hleft, hright, value?_of_alikeBut looksAt_network h hs ht (by simp),
      value?_of_alikeBut looksAt_pool h hs ht (by simp),
      value?_of_alikeBut looksAt_submissions h hs ht (by simp)]
    simp only [map_bind, ok_bind]
    refine bind_congr fun listener => bind_congr fun connections => bind_congr fun policy =>
      bind_congr fun network => ?_
    cases given with
    | none => cases given' with
      | none => rfl
      | some target' => cases hsome
    | some target => cases given' with
      | none => cases hsome
      | some target' => rfl

/-- Where the store is left out, what is wrong with the rest is told, or that it is left out. -/
theorem settings_of_none (h : s.AlikeBut "db_config" t) (hs : s.Proper) (ht : t.Proper)
    (hsection : target? s = .ok none) (hsection' : target? t = .ok (some r)) :
    (∃ mismatch, settings t.entries = .error mismatch ∧ settings s.entries = .error mismatch) ∨
      settings s.entries = .error ⟨.missing "db_config", [], none⟩ := by
  rw [target?] at hsection hsection'
  rw [settings, settings, hsection, hsection', value?_of_alikeBut looksAt_network h hs ht (by simp),
    value?_of_alikeBut looksAt_pool h hs ht (by simp),
    value?_of_alikeBut looksAt_submissions h hs ht (by simp)]
  cases value? network "net_config" [] t.entries with
  | error mismatch => exact .inl ⟨mismatch, rfl, rfl⟩
  | ok listener =>
    cases value? pool "pool_config" [] t.entries with
    | error mismatch => exact .inl ⟨mismatch, rfl, rfl⟩
    | ok connections =>
      cases value? submissions "subscribe_config" [] t.entries with
      | error mismatch => exact .inl ⟨mismatch, rfl, rfl⟩
      | ok policy =>
        cases listener with
        | none => exact .inl ⟨_, rfl, rfl⟩
        | some listener => exact .inr rfl

end Extraction

namespace Surroundings

open Setting (AlikeBut)
open Extraction (target?)

variable {s t : Surroundings}

/-- Surroundings that differ at most in what they say of the store: in production each file that is
read says the same at every path outside, or cannot be read in either, and so do the variables. -/
structure SameButTarget (s t : Surroundings) : Prop where
  files : ∀ name ∈ [baseFileName, Environment.production.fileName],
    (∃ layer other, s.fileLayer name = .ok layer ∧ t.fileLayer name = .ok other ∧
      layer.AlikeBut "db_config" other) ∨
    ∃ error, s.fileLayer name = .error error ∧ t.fileLayer name = .error error
  process : s.process.filter (fun v => !Variable.speaksOf "db_config" v.name) =
    t.process.filter fun v => !Variable.speaksOf "db_config" v.name

/-- What reading the store in the layers of production comes to: whether they give a target at all,
or what is wrong with it. -/
def targetReading (s : Surroundings) : Except LoadError (Except Mismatch Bool) :=
  (s.layers .production).map fun whole => (target? whole).map Option.isSome

namespace SameButTarget

theorem of_variables (hfiles : s.files = t.files)
    (hprocess : s.process.filter (fun v => !Variable.speaksOf "db_config" v.name) =
      t.process.filter fun v => !Variable.speaksOf "db_config" v.name) : s.SameButTarget t where
  files := fun name _ => by
    have hlayer : t.fileLayer name = s.fileLayer name := by rw [fileLayer, fileLayer, hfiles]
    rw [hlayer]
    cases s.fileLayer name with
    | error error => exact .inr ⟨error, rfl, rfl⟩
    | ok layer => exact .inl ⟨layer, layer, rfl, rfl, .refl _ layer⟩
  process := hprocess

theorem assigned (h : s.SameButTarget t) :
    (Variable.assign s.process).filter (fun v => !Variable.speaksOf "db_config" v.name) =
      (Variable.assign t.process).filter fun v => !Variable.speaksOf "db_config" v.name := by
  rw [Variable.filter_assign fun name => !Variable.speaksOf "db_config" name, h.process,
    ← Variable.filter_assign fun name => !Variable.speaksOf "db_config" name]

theorem valueOf?_eq (h : s.SameButTarget t) {name : String}
    (hname : Variable.speaksOf "db_config" name = false) : s.valueOf? name = t.valueOf? name := by
  have hfind (vs : List Variable) : vs.find? (·.name = name) =
      (vs.filter fun v => !Variable.speaksOf "db_config" v.name).find? (·.name = name) := by
    rw [List.find?_filter]
    refine congrArg (vs.find? ·) (funext fun v => ?_)
    by_cases hv : v.name = name <;> simp [hv, hname]
  rw [Surroundings.valueOf?, Surroundings.valueOf?, hfind, h.assigned, ← hfind]

theorem variableLayer_alike (h : s.SameButTarget t) :
    s.variableLayer.AlikeBut "db_config" t.variableLayer := by
  have hs := Setting.alikeBut_ofVariables_filter "db_config" (Variable.assign s.process)
  have ht := Setting.alikeBut_ofVariables_filter "db_config" (Variable.assign t.process)
  rw [← h.assigned] at ht
  exact hs.trans ht.symm

theorem environment_eq (h : s.SameButTarget t) : s.environment = t.environment := by
  rw [Surroundings.environment, Surroundings.environment, h.valueOf?_eq (by decide)]

theorem connectionTarget_eq (h : s.SameButTarget t) :
    s.connectionTarget = t.connectionTarget := by
  rw [Surroundings.connectionTarget, Surroundings.connectionTarget, h.valueOf?_eq (by decide)]

/-- The layers fail alike, or amount to trees that differ at most in what they say of the store. -/
theorem layers_cases (h : s.SameButTarget t) :
    (∃ whole other, s.layers .production = .ok whole ∧ t.layers .production = .ok other ∧
      whole.AlikeBut "db_config" other ∧ whole.Proper ∧ other.Proper) ∨
    ∃ error, s.layers .production = .error error ∧ t.layers .production = .error error := by
  rw [layers, layers]
  obtain ⟨base, base', hs, ht, hbase⟩ | ⟨e, hs, ht⟩ := h.files baseFileName (by simp)
  · obtain ⟨own, own', hs', ht', hown⟩ | ⟨e', hs', ht'⟩ :=
      h.files Environment.production.fileName (by simp)
    · have hproper := proper_fileLayer hs'
      have hproper' := proper_fileLayer ht'
      rw [hs, ht, hs', ht']
      exact .inl ⟨_, _, rfl, rfl, (hbase.merge hown hproper hproper').merge h.variableLayer_alike
        s.proper_variableLayer t.proper_variableLayer,
        ((proper_fileLayer hs).merge hproper).merge s.proper_variableLayer,
        ((proper_fileLayer ht).merge hproper').merge t.proper_variableLayer⟩
    · rw [hs, ht, hs', ht']
      exact .inr ⟨_, rfl, rfl⟩
  · obtain ⟨_, _, hs', ht', _⟩ | ⟨e', hs', ht'⟩ := h.files Environment.production.fileName (by simp)
    all_goals
      rw [hs, ht, hs', ht']
      exact .inr ⟨_, rfl, rfl⟩

end SameButTarget

theorem settings_of_production (henvironment : s.environment = .ok .production) :
    s.settings = match s.load .production with
      | .error error => .error (.layers error)
      | .ok read => s.connectionTarget.map fun target => { read with target } := by
  rw [settings, henvironment]
  change s.build .production = _
  rw [build]
  cases s.load .production with
  | error error => rfl
  | ok read => cases s.connectionTarget <;> rfl

theorem connectionTarget_eq_ok_iff {target : ConnectionTarget} :
    s.connectionTarget = .ok target ↔
      ∃ url, s.valueOf? "DATABASE_URL" = some url ∧ ConnectionTarget.ofUrl? url = some target := by
  rw [connectionTarget, connectionVariable]
  cases s.valueOf? "DATABASE_URL" with
  | none => simp
  | some url => cases hurl : ConnectionTarget.ofUrl? url <;> simp [hurl]

/-- In production the layers come to the same but for the target, if they give one in both
surroundings or in neither. -/
theorem SameButTarget.load_alike (h : s.SameButTarget t)
    (hreading : s.targetReading = t.targetReading) :
    (s.load .production).map (fun read target => { read with target }) =
      (t.load .production).map fun read target => { read with target } := by
  obtain ⟨whole, other, hwhole, hother, halike, hproper, hproper'⟩ | ⟨error, hwhole, hother⟩ :=
    h.layers_cases
  · rw [targetReading, targetReading, hwhole, hother] at hreading
    have hgiven := Extraction.settings_with_target halike hproper hproper'
      (Except.ok.inj hreading)
    rw [load_of_layers hwhole, load_of_layers hother]
    obtain ⟨mismatch, hleft, hright⟩ | ⟨read, read', hleft, hright, hsame⟩ := alike_cases hgiven
    · rw [hleft, hright]
    · rw [hleft, hright]
      exact congrArg Except.ok hsame
  · rw [load, load, hwhole, hother]

theorem exists_layers_of_reading {given : Except Mismatch Bool}
    (h : s.targetReading = .ok given) : ∃ whole, s.layers .production = .ok whole ∧
      (target? whole).map Option.isSome = given :=
  map_eq_ok_iff.mp h

theorem load_of_mismatch {mismatch : Mismatch} (h : s.targetReading = .ok (.error mismatch)) :
    s.load .production = .error (.mismatch mismatch) := by
  obtain ⟨whole, hwhole, hgiven⟩ := exists_layers_of_reading h
  have hmismatch : target? whole = .error mismatch := by
    cases htarget : target? whole with
    | error found =>
      rw [htarget] at hgiven
      exact congrArg Except.error (Except.error.inj hgiven)
    | ok found => rw [htarget] at hgiven; cases hgiven
  rw [load_of_layers hwhole, Extraction.settings_of_mismatch hmismatch]
  rfl

/-- Layers that leave the store out end in the error that those with a store end in, or in the
store being left out. -/
theorem SameButTarget.load_of_absent (h : s.SameButTarget t)
    (habsent : s.targetReading = .ok (.ok false)) (hpresent : t.targetReading = .ok (.ok true)) :
    (∃ error, s.load .production = .error error ∧ t.load .production = .error error) ∨
      s.load .production = .error (.mismatch ⟨.missing "db_config", [], none⟩) := by
  obtain ⟨whole, hwhole, hnone⟩ := exists_layers_of_reading habsent
  obtain ⟨other, hother, hsome⟩ := exists_layers_of_reading hpresent
  obtain ⟨_, _, hleft, hright, halike, hproper, hproper'⟩ | ⟨error, hleft, _⟩ := h.layers_cases
  · obtain rfl := Except.ok.inj (hwhole.symm.trans hleft)
    obtain rfl := Except.ok.inj (hother.symm.trans hright)
    obtain ⟨given, hgiven, hfalse⟩ := map_eq_ok_iff.mp hnone
    obtain ⟨given', hgiven', htrue⟩ := map_eq_ok_iff.mp hsome
    obtain rfl := Option.isNone_iff_eq_none.mp (Option.isSome_eq_false_iff.mp hfalse)
    obtain ⟨r, rfl⟩ := Option.isSome_iff_exists.mp htrue
    rw [load_of_layers hwhole, load_of_layers hother]
    obtain ⟨mismatch, hboth, hbad⟩ | hmissing :=
      Extraction.settings_of_none halike hproper hproper' hgiven hgiven'
    · rw [hboth, hbad]
      exact .inl ⟨_, rfl, rfl⟩
    · rw [hmissing]
      exact .inr rfl
  · rw [hwhole] at hleft
    cases hleft

/-- In production the URL gives the target of whatever settings there are, and what the layers say
of the store makes no difference but for whether it can be read: surroundings that differ in nothing
else come to the same settings or the same error. A store that is given wrongly ends in what is
wrong with it, whatever the URL and whatever else is wrong. A store that is left out ends in the
error that the layers come to with one, or in being left out. -/
theorem settings_with_url (h : s.SameButTarget t) (henvironment : s.environment = .ok .production) :
    (s.targetReading = t.targetReading → s.settings = t.settings) ∧
    (∀ read, s.settings = .ok read → ∃ url, s.valueOf? "DATABASE_URL" = some url ∧
      ConnectionTarget.ofUrl? url = some read.target) ∧
    (∀ mismatch, s.targetReading = .ok (.error mismatch) →
      s.settings = .error (.layers (.mismatch mismatch))) ∧
    (s.targetReading = .ok (.ok false) → t.targetReading = .ok (.ok true) →
      (∃ error, t.load .production = .error error ∧ s.settings = .error (.layers error)) ∨
        s.settings = .error (.layers (.mismatch ⟨.missing "db_config", [], none⟩))) := by
  have hs := settings_of_production henvironment
  have ht := settings_of_production (h.environment_eq ▸ henvironment)
  refine ⟨fun hreading => ?_, fun read hread => ?_, fun mismatch hreading => ?_,
    fun hreading hreading' => ?_⟩
  · rw [hs, ht, ← h.connectionTarget_eq]
    obtain ⟨error, hleft, hright⟩ | ⟨read, read', hleft, hright, hsame⟩ :=
      alike_cases (h.load_alike hreading)
    · rw [hleft, hright]
    · rw [hleft, hright]
      cases s.connectionTarget with
      | error error => rfl
      | ok target => exact congrArg Except.ok (congrFun hsame target)
  · rw [hs] at hread
    cases hload : s.load .production with
    | error error => rw [hload] at hread; cases hread
    | ok whole =>
      rw [hload] at hread
      obtain ⟨target, hconnection, rfl⟩ := map_eq_ok_iff.mp hread
      exact connectionTarget_eq_ok_iff.mp hconnection
  · rw [hs, load_of_mismatch hreading]
  · rw [hs]
    obtain ⟨error, hleft, hright⟩ | hmissing := h.load_of_absent hreading hreading'
    · exact .inl ⟨error, hright, by rw [hleft]⟩
    · exact .inr (by rw [hmissing])

/-- A run in production. Some of its variables may speak of the store. -/
def inProduction (process : List Variable) : Surroundings :=
  complete (⟨"APP_ENVIRONMENT", Utf8.encode "production".toList⟩ ::
    ⟨"DATABASE_URL", Utf8.encode "postgres://u:p@h/d".toList⟩ :: process)

/-- One variable gives another password and another one the port, both for nothing. -/
theorem settings_with_url_fields :
    let s := inProduction [⟨"APP_DB_CONFIG__PASSWORD", Utf8.encode "x".toList⟩]
    let t := inProduction [⟨"app_db_config.port", Utf8.encode "7".toList⟩]
    s.settings = t.settings ∧
      s.settings = .ok { completeSettings with target := ⟨"u", "p", 5432, "h", "d", .prefer⟩ } := by
  intro s t
  have hsame : s.SameButTarget t := .of_variables rfl (by decide +kernel)
  have henvironment : s.environment = .ok .production := by decide +kernel
  have hlayers : s.layers .production = _ := layers_complete_in .production _
  have hlayers' : t.layers .production = _ := layers_complete_in .production _
  have hreading : s.targetReading = t.targetReading := by
    rw [targetReading, targetReading, hlayers, hlayers']
    decide +kernel
  refine ⟨(settings_with_url hsame henvironment).1 hreading, ?_⟩
  rw [settings_of_production henvironment, load_of_layers hlayers]
  decide +kernel

def storelessText : String := "net_config=[[127,0,0,1],80]\npool_config=[5,9,false]\n"

def storelessEntries : Toml.Entries :=
  completeEntries.filter (·.1 ≠ "db_config")

/-- The layers of a run in production have to name a store, though the URL names the store. -/
theorem not_settings_with_url :
    ¬ ∀ s t : Surroundings, s.SameButTarget t → s.environment = .ok .production →
      s.settings = t.settings := by
  intro h
  let s := inProduction []
  let t : Surroundings :=
    { s with files := [(baseFileName, Utf8.encode storelessText.toList)] }
  have hparse : Toml.parse? storelessText = some storelessEntries := by rfl
  have hbase := @fileLayer_of_parse? t baseFileName storelessText _ rfl hparse
  have hlayers' : t.layers .production = _ := layers_of_files hbase rfl
  have hsame : s.SameButTarget t := by
    refine ⟨fun name hname => ?_, rfl⟩
    rcases List.mem_cons.mp hname with rfl | hname
    · exact .inl ⟨_, _, fileLayer_complete _, hbase, Setting.alikeBut_filter _ _⟩
    · obtain rfl := List.mem_singleton.mp hname
      exact .inl ⟨_, _, rfl, rfl, .refl _ _⟩
  have henvironment : s.environment = .ok .production := by decide +kernel
  have henvironment' : t.environment = .ok .production := by decide +kernel
  have hlayers : s.layers .production = _ := layers_complete_in .production _
  have heq := h s t hsame henvironment
  rw [settings_of_production henvironment, settings_of_production henvironment',
    load_of_layers hlayers, load_of_layers hlayers'] at heq
  revert heq
  decide +kernel

end Surroundings

end WaitingList

import WaitingList.Proofs.Settings.Replacement
import Mathlib.Data.List.Pairwise

namespace WaitingList

namespace Setting

variable {path way other : List String} {value s t : Setting} {source : Source}

theorem ruling?_congr (h : ∀ path, s.shows? path = t.shows? path) (path : List String) :
    s.ruling? path = t.ruling? path := by
  have hbarred : s.Barred path ↔ t.Barred path := by simp only [Barred, h]
  rw [ruling?_eq, ruling?_eq, h path]
  by_cases hbar : s.Barred path
  · rw [if_pos hbar, if_pos (hbarred.mp hbar)]
  · rw [if_neg hbar, if_neg fun hother => hbar (hbarred.mpr hother)]

/-- Below its path a single value rules as it does by itself. -/
theorem ruling?_nest_append (source : Source) (value : Setting) (way rest : List String) :
    (nest source value way).ruling? (way ++ rest) = value.ruling? rest := by
  induction way with
  | nil => rfl
  | cons key way ih =>
    rw [nest, List.cons_append, ruling?_table, List.lookup_cons_self, Option.bind_some, ih]

theorem isPrefix_or_of_ruling? {ruled : Option Setting}
    (h : (nest source value way).ruling? path = some ruled) : path <+: way ∨ way <+: path := by
  by_contra hparted
  obtain ⟨hup, hdown⟩ := not_or.mp hparted
  rw [ruling?_nest_of_parted hup hdown] at h
  cases h

/-- Where two values whose paths part both have a say, there is a table on the way to both. -/
theorem ruling?_nest_agree {first second : Setting} {ruled ruled' : Option Setting}
    (hup : ¬ way <+: other) (hdown : ¬ other <+: way)
    (hfirst : (nest source first way).ruling? path = some ruled)
    (hsecond : (nest source second other).ruling? path = some ruled') : ruled = ruled' := by
  obtain hway | hway := isPrefix_or_of_ruling? hfirst
  · obtain hother | hother := isPrefix_or_of_ruling? hsecond
    · have hne : path ≠ way := fun heq => hup (heq ▸ hother)
      have hne' : path ≠ other := fun heq => hdown (heq ▸ hway)
      rw [ruling?_nest_of_isPrefix hway hne] at hfirst
      rw [ruling?_nest_of_isPrefix hother hne'] at hsecond
      exact Option.some.inj (hfirst.symm.trans hsecond)
    · exact absurd (hother.trans hway) hdown
  · obtain hother | hother := isPrefix_or_of_ruling? hsecond
    · exact absurd (hway.trans hother) hup
    · exact ((List.prefix_or_prefix_of_prefix hway hother).elim hup hdown).elim

/-- Where all that have a say agree, it makes no difference who is asked first. -/
theorem findSome?_of_perm {α β : Type} {f : α → Option β} {l l' : List α} (hperm : l.Perm l')
    (hagree : ∀ a ∈ l, ∀ b ∈ l, ∀ x y, f a = some x → f b = some y → x = y) :
    l.findSome? f = l'.findSome? f := by
  cases hfound : l.findSome? f with
  | none =>
    rw [List.findSome?_eq_none_iff] at hfound
    exact (List.findSome?_eq_none_iff.mpr fun a ha => hfound a (hperm.mem_iff.mpr ha)).symm
  | some x =>
    obtain ⟨a, ha, hx⟩ := List.exists_of_findSome?_eq_some hfound
    cases hother : l'.findSome? f with
    | none =>
      rw [List.findSome?_eq_none_iff] at hother
      rw [hother a (hperm.mem_iff.mp ha)] at hx
      cases hx
    | some y =>
      obtain ⟨b, hb, hy⟩ := List.exists_of_findSome?_eq_some hother
      rw [hagree a ha b (hperm.mem_iff.mpr hb) x y hx hy]

end Setting

namespace Variable

variable {vs ws : List Variable}

/-- Variables that do not stand for one setting, nor one of them for a part of what the other
stands for. -/
def Apart (v w : Variable) : Prop :=
  ∀ path other, path? v.name = some path → path? w.name = some other →
    ¬ path <+: other ∧ ¬ other <+: path

instance : Std.Symm Apart :=
  ⟨fun _ _ h path other hpath hother => (h other path hother hpath).symm⟩

/-- Variables of which no two stand for one setting, nor one of them for a part of what another
stands for. -/
def Parted (vs : List Variable) : Prop := vs.Pairwise Apart

/-- No name is assigned twice. -/
theorem nodup_assign (vs : List Variable) : ((assign vs).map name).Nodup := by
  induction vs using List.reverseRecOn with
  | nil => exact .nil
  | append_singleton rest v ih =>
    rw [assign_concat]
    split
    · have hnames : (assign rest).map (name ∘ fun old => if old.name = v.name then v else old) =
          (assign rest).map name := by
        refine List.map_congr_left fun old _ => ?_
        rw [Function.comp_apply]
        split
        next hname => exact hname.symm
        · rfl
      rwa [List.map_map, hnames]
    next hnew =>
      rw [List.map_append, List.map_singleton, List.nodup_append]
      refine ⟨ih, by simp, fun known hknown other hother => ?_⟩
      obtain ⟨w, hw, rfl⟩ := List.mem_map.mp hknown
      obtain rfl := List.mem_singleton.mp hother
      simpa using fun hname => hnew (List.any_eq_true.mpr ⟨w, hw, by simpa using hname⟩)

theorem assign_of_nodup (h : (vs.map name).Nodup) : assign vs = vs := by
  induction vs using List.reverseRecOn with
  | nil => rfl
  | append_singleton rest v ih =>
    rw [List.map_append, List.map_singleton, List.nodup_append] at h
    obtain ⟨hrest, _, hnew⟩ := h
    have hunset : rest.any (·.name = v.name) = false := by
      rw [List.any_eq_false]
      intro w hw
      simpa using hnew w.name (List.mem_map_of_mem hw) v.name (List.mem_singleton_self _)
    rw [assign_concat, ih hrest, if_neg (by simp [hunset])]

theorem filterMap_layer?_filter (vs : List Variable) :
    (vs.filter fun v => (path? v.name).isSome).filterMap layer? = vs.filterMap layer? := by
  rw [List.filterMap_filter]
  refine congrArg (vs.filterMap ·) (funext fun v => ?_)
  rw [layer?]
  cases path? v.name <;> rfl

/-- Variables that part are settings as they stand: none of them is set again. -/
theorem Parted.layers_assign (h : Parted vs) :
    (assign vs).filterMap layer? = vs.filterMap layer? := by
  have hnames : ((vs.filter fun v => (path? v.name).isSome).map name).Nodup := by
    refine List.pairwise_map.mpr ((h.filter _).imp_of_mem fun {v w} hv _ hparted hname => ?_)
    obtain ⟨path, hpath⟩ := Option.isSome_iff_exists.mp (List.mem_filter.mp hv).2
    exact (hparted path path hpath (hname ▸ hpath)).1 (List.prefix_refl path)
  rw [← filterMap_layer?_filter, filter_assign fun name => (path? name).isSome,
    assign_of_nodup hnames, filterMap_layer?_filter]

/-- What is assigned when all variables for one path are left out but the last one. -/
theorem assign_filter_last {left right : List Variable} {w : Variable} {way : List String}
    (hassign : assign vs = left ++ w :: right)
    (hlast : ∀ v ∈ right, path? v.name ≠ some way) :
    assign (vs.filter fun v => v.name = w.name ∨ path? v.name ≠ some way) =
      (left.filter fun v => path? v.name ≠ some way) ++ w :: right := by
  have hnames := nodup_assign vs
  rw [hassign, List.map_append, List.map_cons, List.nodup_append] at hnames
  have hleft (v : Variable) (hv : v ∈ left) : v.name ≠ w.name :=
    hnames.2.2 v.name (List.mem_map_of_mem hv) w.name List.mem_cons_self
  rw [← filter_assign fun name => decide (name = w.name ∨ path? name ≠ some way), hassign,
    List.filter_append, List.filter_cons_of_pos (by simp)]
  congr 1
  · exact List.filter_congr fun v hv => by simp [hleft v hv]
  · refine congrArg (w :: ·) (List.filter_eq_self.mpr fun v hv => ?_)
    simp [hlast v hv]

/-- Of variables that part, no two layers rule differently on a path. -/
theorem Parted.agree (h : Parted vs) (path : List String) :
    ∀ layer ∈ vs.filterMap layer?, ∀ other ∈ vs.filterMap layer?, ∀ ruled ruled',
      layer.ruling? path = some ruled → other.ruling? path = some ruled' → ruled = ruled' := by
  intro layer hlayer other hother ruled ruled' hruled hruled'
  obtain ⟨v, hv, hvlayer⟩ := List.mem_filterMap.mp hlayer
  obtain ⟨w, hw, hwlayer⟩ := List.mem_filterMap.mp hother
  by_cases hsame : v = w
  · subst hsame
    obtain rfl := Option.some.inj (hvlayer.symm.trans hwlayer)
    exact Option.some.inj (hruled.symm.trans hruled')
  · obtain ⟨way, hway, rfl⟩ := Option.map_eq_some_iff.mp hvlayer
    obtain ⟨way', hway', rfl⟩ := Option.map_eq_some_iff.mp hwlayer
    obtain ⟨hup, hdown⟩ := h.forall hv hw hsame way way' hway hway'
    exact Setting.ruling?_nest_agree hup hdown hruled hruled'

/-- Variables that part make the same layer in any order. -/
theorem Parted.shows?_ofVariables (h : Parted vs) (hperm : ws.Perm vs) (path : List String) :
    (Setting.ofVariables (assign ws)).shows? path =
      (Setting.ofVariables (assign vs)).shows? path := by
  have hother : Parted ws := (hperm.pairwise_iff fun {_ _} hvw => Std.Symm.symm _ _ hvw).mpr h
  have hlayers : (ws.filterMap layer?).reverse.Perm (vs.filterMap layer?).reverse :=
    (List.reverse_perm _).trans ((hperm.filterMap _).trans (List.reverse_perm _).symm)
  have hfirst := Setting.findSome?_of_perm hlayers fun layer hlayer other hmem =>
    hother.agree path layer (List.mem_reverse.mp hlayer) other (List.mem_reverse.mp hmem)
  rw [Setting.shows?_ofVariables, Setting.shows?_ofVariables, h.layers_assign,
    hother.layers_assign, Setting.winner?_append, Setting.winner?_append, hfirst]

end Variable

namespace Setting

variable {path way rest : List String} {value : Setting} {source : Source}
  {left right vs : List Variable} {w : Variable}

/-- Variables without a say about a path may be left out. -/
theorem shows?_ofVariables_filter {keep : Variable → Bool}
    (h : ∀ v ∈ vs, keep v = false → ∀ layer, v.layer? = some layer → layer.ruling? path = none) :
    (ofVariables (vs.filter keep)).shows? path = (ofVariables vs).shows? path := by
  induction vs using List.reverseRecOn with
  | nil => rfl
  | append_singleton rest v ih =>
    have hrest := ih fun w hw => h w (List.mem_append_left _ hw)
    have hlast := h v (List.mem_append_right _ (List.mem_singleton_self v))
    rw [List.filter_append, ofVariables_concat]
    cases hkeep : keep v with
    | true =>
      have hkept : [v].filter keep = [v] := by simp [hkeep]
      rw [hkept, ofVariables_concat]
      cases hlayer : v.layer? with
      | none => exact hrest
      | some layer =>
        have hproper := proper_of_layer? hlayer
        rw [Option.elim_some, Option.elim_some, shows?_merge hproper, shows?_merge hproper,
          winner?_cons, winner?_singleton, winner?_cons, winner?_singleton, hrest]
    | false =>
      have hleft : [v].filter keep = [] := by simp [hkeep]
      rw [hleft, List.append_nil, hrest]
      cases hlayer : v.layer? with
      | none => rfl
      | some layer =>
        rw [Option.elim_some, shows?_merge (proper_of_layer? hlayer), winner?_cons,
          winner?_singleton, hlast hkeep layer hlayer, Option.getD_none]

/-- A single value that is no table has a say about every path but those that part from its own. -/
theorem parted_of_ruling?_eq_none (hplain : ∀ source, value.face ≠ table source [])
    (h : (nest source value way).ruling? path = none) : ¬ path <+: way ∧ ¬ way <+: path := by
  constructor
  · intro hpath
    by_cases heq : path = way
    · rw [heq, ruling?_nest_self] at h
      cases h
    · rw [ruling?_nest_of_isPrefix hpath heq] at h
      cases h
  · rintro ⟨rest, rfl⟩
    rw [ruling?_nest_append] at h
    cases rest with
    | nil => cases h
    | cons key rest =>
      cases value with
      | scalar | list => cases h
      | table other entries => exact hplain other rfl

/-- Of the variables for one path, only the last one counts if its value is no table. -/
theorem shows?_ofVariables_last (hway : Variable.path? w.name = some way)
    (hplain : ∀ source, w.setting.face ≠ table source []) (path : List String) :
    (ofVariables ((left.filter fun v => Variable.path? v.name ≠ some way) ++ w :: right)).shows?
      path = (ofVariables (left ++ w :: right)).shows? path := by
  rw [shows?_ofVariables_between _ _ hway, shows?_ofVariables_between _ _ hway]
  cases hruled : (nest .process w.setting way).ruling? path with
  | some ruled => rfl
  | none =>
    obtain ⟨hup, hdown⟩ := parted_of_ruling?_eq_none hplain hruled
    rw [shows?_ofVariables_filter fun v _ hname layer hlayer => ?_]
    have hpath : Variable.path? v.name = some way := by simpa using hname
    rw [Variable.layer?, hpath, Option.map_some] at hlayer
    rw [← Option.some.inj hlayer]
    exact ruling?_nest_of_parted hup hdown

/-- Below the path of a variable, its value is asked first and then what was written before, if no
later variable interferes. -/
theorem shows?_ofVariables_below (hway : Variable.path? w.name = some way)
    (hright : Variable.PartFrom way right) (rest : List String) :
    (ofVariables (left ++ w :: right)).shows? (way ++ rest) =
      (w.setting.ruling? rest).getD ((ofVariables left).shows? (way ++ rest)) := by
  have hbelow : Variable.PartFrom (way ++ rest) right := by
    intro v hv path hpath
    obtain ⟨hup, hdown⟩ := hright v hv path hpath
    refine ⟨fun hbegins => ?_, fun hends => hdown ((List.prefix_append way rest).trans hends)⟩
    exact (List.prefix_or_prefix_of_prefix hbegins (List.prefix_append way rest)).elim hup hdown
  rw [shows?_ofVariables_between _ _ hway, findSome?_of_partFrom hbelow, Option.getD_none,
    ruling?_nest_append]

end Setting

namespace Surroundings

variable {s t : Surroundings} {environment : Environment}

/-- Of the variables, only what their layer shows is loaded. -/
theorem load_of_same_layer (hfiles : t.files = s.files)
    (hlayer : ∀ path, t.variableLayer.shows? path = s.variableLayer.shows? path) :
    t.load environment = s.load environment := by
  have hfile (name : String) : t.fileLayer name = s.fileLayer name := by
    rw [fileLayer, fileLayer, hfiles]
  cases hbase : s.fileLayer baseFileName with
  | error file =>
    rw [load, load, layers, layers, hfile, hfile, hbase]
    cases s.fileLayer environment.fileName <;> rfl
  | ok base =>
    cases hspecific : s.fileLayer environment.fileName with
    | error file =>
      rw [load, load, layers, layers, hfile, hfile, hbase, hspecific]
    | ok specific =>
      have hlower := (proper_fileLayer hbase).merge (proper_fileLayer hspecific)
      have hshows (path : List String) :
          ((base.merge specific).merge t.variableLayer).shows? path =
            ((base.merge specific).merge s.variableLayer).shows? path := by
        rw [Setting.shows?_merge t.proper_variableLayer, Setting.winner?_cons,
          Setting.winner?_singleton, Setting.shows?_merge s.proper_variableLayer,
          Setting.winner?_cons, Setting.winner?_singleton, Setting.ruling?_congr hlayer]
      rw [load_of_layers (layers_of_files hbase hspecific),
        load_of_layers (layers_of_files ((hfile _).trans hbase) ((hfile _).trans hspecific)),
        Extraction.settings_congr (hlower.merge t.proper_variableLayer)
          (hlower.merge s.proper_variableLayer) fun path _ => hshows path]

/-- The order of the variables does not count as long as the paths of those that are settings part.
Otherwise they count in the order in which they stand in the environment, where a name that is set
again keeps its place. Then the last one for a path is right below it wherever its value has a say,
and what stood there before where it has none, if no later one is for a part of the path or of what
stands there. So a last one whose value is no table is the only one for its path that counts. -/
theorem load_in_any_order (s : Surroundings) (environment : Environment) :
    (Variable.Parted s.process → ∀ process : List Variable, process.Perm s.process →
      { s with process }.load environment = s.load environment) ∧
    ∀ left w right way, Variable.assign s.process = left ++ w :: right →
      Variable.path? w.name = some way →
      ((∀ v ∈ right, Variable.path? v.name ≠ some way) →
        (∀ source, w.setting.face ≠ .table source []) →
        { s with process := s.process.filter fun v =>
          v.name = w.name ∨ Variable.path? v.name ≠ some way }.load environment =
            s.load environment) ∧
      (Variable.PartFrom way right → ∀ rest, s.variableLayer.shows? (way ++ rest) =
        (w.setting.ruling? rest).getD ((Setting.ofVariables left).shows? (way ++ rest))) := by
  refine ⟨fun hparted process hperm => load_of_same_layer rfl fun path =>
    hparted.shows?_ofVariables hperm path, fun left w right way hassign hway => ⟨?_, ?_⟩⟩
  · intro hlast hplain
    refine load_of_same_layer rfl fun path => ?_
    rw [variableLayer, variableLayer, Variable.assign_filter_last hassign hlast, hassign]
    exact Setting.shows?_ofVariables_last hway hplain path
  · intro hright rest
    rw [variableLayer, hassign]
    exact Setting.shows?_ofVariables_below hway hright rest

/-- Two variables that part come to the same either way round, though one of them replaces a list
as a whole. -/
theorem load_in_any_order_two :
    let port : Variable := ⟨"APP_DB_CONFIG__PORT", Utf8.encode "7".toList⟩
    let pool : Variable := ⟨"app_pool_config", Utf8.encode "[1,2,true]".toList⟩
    (complete [port, pool]).load .development = (complete [pool, port]).load .development ∧
      (complete [port, pool]).load .development =
        .ok { completeSettings with
          target := { completeSettings.target with port := 7 }, pool := ⟨1, 2, true⟩ } := by
  intro port pool
  have hport : Variable.path? "APP_DB_CONFIG__PORT" = some ["db_config", "port"] := by
    decide +kernel
  have hpool : Variable.path? "app_pool_config" = some ["pool_config"] := by decide +kernel
  have hparted : Variable.Parted [pool, port] := by
    simp [Variable.Parted, Variable.Apart, port, pool, hport, hpool]
  constructor
  · exact (load_in_any_order (complete [pool, port]) .development).1 hparted _ (.swap pool port [])
  · rw [load_of_layers (layers_complete_in .development _)]
    decide +kernel

/-- Of two variables for one path both count if their values are tables. Of three, the last one set
does not count if its name was set before the one between. -/
theorem load_of_several_for_one_path :
    let port : Variable := ⟨"APP_NET_CONFIG", Utf8.encode "{app_port=9}".toList⟩
    let host : Variable := ⟨"app_net_config", Utf8.encode "{host=[9,9,9,9]}".toList⟩
    let first : Variable := ⟨"APP_DB_CONFIG__PORT", Utf8.encode "1".toList⟩
    let second : Variable := ⟨"app_db_config__port", Utf8.encode "2".toList⟩
    let again : Variable := ⟨"APP_DB_CONFIG__PORT", Utf8.encode "3".toList⟩
    (complete [port, host]).load .development =
        .ok { completeSettings with network := ⟨⟨9, 9, 9, 9⟩, 9⟩ } ∧
      (complete [host]).load .development = .error (.mismatch
        ⟨.missing "app_port", ["net_config"], some .process⟩) ∧
      (complete [first, second, again]).load .development = (complete [second]).load .development ∧
      (complete [first, second, again]).load .development ≠
        (complete [again]).load .development := by
  intro port host first second again
  simp only [load_of_layers (layers_complete_in .development _)]
  decide +kernel

end Surroundings

end WaitingList

import WaitingList.Proofs.Settings.Layer
import WaitingList.Settings.Load

namespace WaitingList

open Setting (Proper)

namespace VariableSyntax

variable {entries changed : List (String × Setting)} {text rest : List Char}

/-- What is read of a text is a value in which no key is written twice. -/
def Sound (value : List Char → Option (Setting × List Char)) : Prop :=
  ∀ text read rest, value text = some (read, rest) → read.Proper

theorem proper_of_pairs? {value : List Char → Option (Setting × List Char)} (hvalue : Sound value)
    {fuel : Nat} (h : (Setting.table .process entries).Proper)
    (hpairs : pairs? value fuel entries text = some (changed, rest)) :
    (Setting.table .process changed).Proper := by
  induction fuel generalizing entries text with
  | zero => cases hpairs
  | succ fuel ih =>
    rw [pairs?.eq_def] at hpairs
    dsimp only at hpairs
    split at hpairs
    · cases hpairs
    next hfuel =>
      obtain ⟨rfl, _⟩ := Prod.mk.inj (Option.some.inj hpairs)
      exact h
    next hfuel _ =>
      obtain rfl := Nat.succ.inj hfuel
      obtain ⟨⟨key, after⟩, _, hpairs⟩ := Option.bind_eq_some_iff.mp hpairs
      dsimp only at hpairs
      split at hpairs
      · obtain ⟨⟨inner, behind⟩, hinner, hpairs⟩ := Option.bind_eq_some_iff.mp hpairs
        have hmore : (Setting.table .process (Setting.put key inner _)).Proper :=
          h.put (hvalue _ _ _ hinner)
        dsimp only at hpairs
        split at hpairs
        · exact ih hmore hpairs
        · obtain ⟨rfl, _⟩ := Prod.mk.inj (Option.some.inj hpairs)
          exact hmore
        · cases hpairs
      · cases hpairs

theorem sound_value (fuel : Nat) : Sound (value? fuel) := by
  induction fuel with
  | zero =>
    intro text read rest h
    cases h
  | succ fuel ih =>
    intro text read rest h
    rw [value?] at h
    dsimp only at h
    split at h
    · obtain ⟨rfl, _⟩ := Prod.mk.inj (Option.some.inj h)
      exact .scalar
    · obtain ⟨rfl, _⟩ := Prod.mk.inj (Option.some.inj h)
      exact .scalar
    · obtain ⟨found, hfound, h⟩ := Option.bind_eq_some_iff.mp h
      obtain ⟨⟨entries, behind⟩, hpairs, rfl⟩ := Option.map_eq_some_iff.mp hfound
      obtain ⟨rfl, _⟩ := Prod.mk.inj (Option.some.inj h)
      exact proper_of_pairs? ih (Setting.proper_empty .process) hpairs
    · obtain ⟨found, hfound, h⟩ := Option.bind_eq_some_iff.mp h
      obtain ⟨⟨items, behind⟩, _, rfl⟩ := Option.map_eq_some_iff.mp hfound
      obtain ⟨rfl, _⟩ := Prod.mk.inj (Option.some.inj h)
      exact .list
    · obtain ⟨found, hfound, h⟩ := Option.bind_eq_some_iff.mp h
      obtain ⟨⟨s, behind⟩, _, rfl⟩ := Option.map_eq_some_iff.mp hfound
      obtain ⟨rfl, _⟩ := Prod.mk.inj (Option.some.inj h)
      exact .scalar
    · split at h
      · obtain ⟨rfl, _⟩ := Prod.mk.inj (Option.some.inj h)
        exact .scalar
      · cases h
    · obtain ⟨rfl, _⟩ := Prod.mk.inj (Option.some.inj h)
      exact .scalar

theorem proper_read (text : List Char) : (read text).Proper := by
  rw [read]
  split
  next hread => exact sound_value _ _ _ _ hread
  · exact .scalar

end VariableSyntax

namespace Setting

variable {value : Setting}

theorem Proper.nest (h : value.Proper) (source : Source) (path : List String) :
    (nest source value path).Proper := by
  induction path with
  | nil => exact h
  | cons key path ih =>
    refine .table (by simp) fun entry hentry => ?_
    obtain rfl := List.mem_singleton.mp hentry
    exact ih

theorem proper_of_layer? {v : Variable} {layer : Setting} (h : v.layer? = some layer) :
    layer.Proper := by
  obtain ⟨path, _, rfl⟩ := Option.map_eq_some_iff.mp h
  exact (VariableSyntax.proper_read _).nest .process path

/-- In the layer of the variables no key is written twice. -/
theorem proper_ofVariables (vs : List Variable) : (ofVariables vs).Proper := by
  refine Proper.foldl (proper_empty .process) fun layer hlayer => ?_
  obtain ⟨v, _, hv⟩ := List.mem_filterMap.mp hlayer
  exact proper_of_layer? hv

theorem shows?_ofVariables (vs : List Variable) (path : List String) :
    (ofVariables vs).shows? path =
      winner? ((vs.filterMap Variable.layer?).reverse ++ [.table .process []]) path := by
  refine shows?_foldl _ (fun layer hlayer => ?_) path
  obtain ⟨v, _, hv⟩ := List.mem_filterMap.mp hlayer
  exact proper_of_layer? hv

section Nested

variable {source : Source} {value : Setting} {path way : List String}

theorem ruling?_nest_self : (nest source value path).ruling? path = some (some value.face) := by
  induction path with
  | nil => rfl
  | cons key path ih => rw [nest, ruling?_table, List.lookup_cons_self, Option.bind_some, ih]

/-- On the way to a single value stand tables. -/
theorem ruling?_nest_of_isPrefix (hway : way <+: path) (hne : way ≠ path) :
    (nest source value path).ruling? way = some (some (table source [])) := by
  induction way generalizing path with
  | nil =>
    cases path with
    | nil => exact absurd rfl hne
    | cons key path => rfl
  | cons key way ih =>
    obtain ⟨more, rfl⟩ := hway
    rw [List.cons_append, nest, ruling?_table, List.lookup_cons_self, Option.bind_some]
    exact ih (List.prefix_append way more) fun heq => hne (congrArg (key :: ·) heq)

/-- A single value has no say about paths that part from its own. -/
theorem ruling?_nest_of_parted (hup : ¬ way <+: path) (hdown : ¬ path <+: way) :
    (nest source value path).ruling? way = none := by
  induction path generalizing way with
  | nil => exact absurd List.nil_prefix hdown
  | cons key path ih =>
    cases way with
    | nil => exact absurd List.nil_prefix hup
    | cons first way =>
      rw [nest, ruling?_table, lookup_cons_eq]
      by_cases hkey : first = key
      · subst hkey
        rw [if_pos rfl, Option.bind_some]
        exact ih (fun h => hup (List.cons_prefix_cons.mpr ⟨rfl, h⟩))
          (fun h => hdown (List.cons_prefix_cons.mpr ⟨rfl, h⟩))
      · rw [if_neg hkey]
        rfl

/-- Off its path it makes no difference what a single value is. -/
theorem ruling?_nest_congr {other : Setting} (h : ¬ path <+: way) :
    (nest source value path).ruling? way = (nest source other path).ruling? way := by
  by_cases hway : way <+: path
  · have hne : way ≠ path := fun heq => h (heq ▸ List.prefix_refl way)
    rw [ruling?_nest_of_isPrefix hway hne, ruling?_nest_of_isPrefix hway hne]
  · rw [ruling?_nest_of_parted hway h, ruling?_nest_of_parted hway h]

end Nested

end Setting

namespace Variable

variable {v w : Variable} {vs before after : List Variable}

theorem parts_ne_nil (text : List Char) : parts text ≠ [] := by
  unfold parts
  split
  · simp
  · simp
  · simp
  · split <;> simp

/-- No variable stands for the settings as a whole. -/
theorem path?_ne_nil (name : String) : path? name ≠ some [] := by
  intro h
  rw [path?] at h
  dsimp only at h
  split at h
  · split at h
    · cases h
    · exact parts_ne_nil _ (by simpa using h)
  · cases h

/-- Assigning one more name gives the variable of that name its new value in its old place, or a new
place at the end. -/
theorem assign_concat (vs : List Variable) (v : Variable) :
    assign (vs ++ [v]) =
      if (assign vs).any (·.name = v.name) then
        (assign vs).map fun old => if old.name = v.name then v else old
      else assign vs ++ [v] := by
  rw [assign, List.foldl_append]
  rfl

theorem mem_of_mem_assign (h : w ∈ assign vs) : w ∈ vs := by
  induction vs using List.reverseRecOn with
  | nil => cases h
  | append_singleton rest v ih =>
    rw [assign_concat] at h
    split at h
    · obtain ⟨old, hold, hw⟩ := List.mem_map.mp h
      split at hw
      · exact List.mem_append_right _ (List.mem_singleton.mpr hw.symm)
      · exact List.mem_append_left _ (ih (hw ▸ hold))
    · exact (List.mem_append.mp h).elim (fun h => List.mem_append_left _ (ih h))
        (List.mem_append_right _)

/-- A variable that is set once has its place among the others, which keep theirs, and its value is
of no account. -/
theorem assign_insert {name : String} (hunset : ∀ w ∈ before ++ after, w.name ≠ name) :
    ∃ left right, assign (before ++ after) = left ++ right ∧
      (∀ v : Variable, v.name = name → assign (before ++ v :: after) = left ++ v :: right) ∧
      ∀ w ∈ right, w ∈ after := by
  induction after using List.reverseRecOn with
  | nil =>
    refine ⟨assign before, [], by simp, fun v hname => ?_, by simp⟩
    have hnew : (assign before).any (·.name = v.name) = false := by
      rw [List.any_eq_false]
      intro w hw
      simpa [hname] using hunset w (List.mem_append_left _ (mem_of_mem_assign hw))
    rw [assign_concat, if_neg (by simp [hnew])]
  | append_singleton rest last ih =>
    have hlast : last.name ≠ name := hunset last (by simp)
    obtain ⟨left, right, hwithout, hwith, hright⟩ := ih fun w hw => hunset w <| by
      obtain hbefore | hrest := List.mem_append.mp hw
      · exact List.mem_append_left _ hbefore
      · exact List.mem_append_right _ (List.mem_append_left _ hrest)
    have hany (v : Variable) (hname : v.name = name) :
        (left ++ v :: right).any (·.name = last.name) =
          (left ++ right).any (·.name = last.name) := by
      simp [hname, Ne.symm hlast]
    by_cases hset : (left ++ right).any (·.name = last.name) = true
    · refine ⟨left.map fun old => if old.name = last.name then last else old,
        right.map fun old => if old.name = last.name then last else old, ?_, fun v hname => ?_,
        fun w hw => ?_⟩
      · rw [← List.append_assoc, assign_concat, hwithout, if_pos hset, List.map_append]
      · rw [← List.cons_append, ← List.append_assoc, assign_concat, hwith v hname, hany v hname,
          if_pos hset]
        simp [hname, Ne.symm hlast]
      · obtain ⟨old, hold, hw⟩ := List.mem_map.mp hw
        split at hw
        · exact List.mem_append_right _ (List.mem_singleton.mpr hw.symm)
        · exact List.mem_append_left _ (hright w (hw ▸ hold))
    · refine ⟨left, right ++ [last], ?_, fun v hname => ?_, fun w hw => ?_⟩
      · rw [← List.append_assoc, assign_concat, hwithout, if_neg hset, List.append_assoc]
      · rw [← List.cons_append, ← List.append_assoc, assign_concat, hwith v hname, hany v hname,
          if_neg hset, List.append_assoc, List.cons_append]
      · obtain hw | hw := List.mem_append.mp hw
        · exact List.mem_append_left _ (hright w hw)
        · exact List.mem_append_right _ hw

end Variable

theorem Surroundings.proper_variableLayer (s : Surroundings) : s.variableLayer.Proper :=
  Setting.proper_ofVariables _

end WaitingList

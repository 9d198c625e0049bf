import WaitingList.Proofs.Settings.Precedence

namespace WaitingList

namespace Variable

/-- Variables that are written neither on the way to a path nor behind it. -/
def PartFrom (way : List String) (vs : List Variable) : Prop :=
  ∀ w ∈ vs, ∀ path, path? w.name = some path → ¬ path <+: way ∧ ¬ way <+: path

end Variable

namespace Setting

open Variable (PartFrom)

variable {way path : List String} {value s t lower : Setting} {vs left right : List Variable}
  {v : Variable}

/-- Variables that part from a path have no say about it. -/
theorem findSome?_of_partFrom (h : PartFrom way vs) :
    (vs.filterMap Variable.layer?).reverse.findSome? (·.ruling? way) = none := by
  rw [List.findSome?_eq_none_iff]
  intro layer hlayer
  obtain ⟨w, hw, hwritten⟩ := List.mem_filterMap.mp (List.mem_reverse.mp hlayer)
  obtain ⟨path, hpath, rfl⟩ := Option.map_eq_some_iff.mp hwritten
  obtain ⟨hup, hdown⟩ := h w hw path hpath
  exact ruling?_nest_of_parted hdown hup

/-- Variables that part from a path say at most that there are tables on the way to it. -/
theorem findSome?_on_way (h : PartFrom way vs) (hpath : path <+: way) {ruled : Option Setting}
    (hruled : (vs.filterMap Variable.layer?).reverse.findSome? (·.ruling? path) = some ruled) :
    ruled = some (table .process []) := by
  obtain ⟨layer, hlayer, hsays⟩ := List.exists_of_findSome?_eq_some hruled
  obtain ⟨w, hw, hwritten⟩ := List.mem_filterMap.mp (List.mem_reverse.mp hlayer)
  obtain ⟨other, hother, rfl⟩ := Option.map_eq_some_iff.mp hwritten
  obtain ⟨hup, _⟩ := h w hw other hother
  have hdown : ¬ other <+: path := fun hbegins => hup (hbegins.trans hpath)
  by_cases htoward : path <+: other
  · have hne : path ≠ other := fun heq => hdown (heq ▸ List.prefix_refl path)
    rw [ruling?_nest_of_isPrefix htoward hne] at hsays
    exact (Option.some.inj hsays).symm
  · rw [ruling?_nest_of_parted htoward hdown] at hsays
    cases hsays

/-- A tree in which a value has been put at the end of a way: there are tables on the way, and what
parts from it is as it was. -/
structure Overrides (way : List String) (value s t : Setting) : Prop where
  parted : ∀ path, ¬ path <+: way → ¬ way <+: path → t.shows? path = s.shows? path
  onWay : ∀ path, path <+: way → path ≠ way → t.shows? path = some (table .process [])
  atEnd : t.shows? way = some value.face

/-- About every path the variables after one are asked first, then this one, then those before. -/
theorem shows?_ofVariables_between (left right : List Variable)
    (hway : Variable.path? v.name = some way) (path : List String) :
    (ofVariables (left ++ v :: right)).shows? path =
      ((right.filterMap Variable.layer?).reverse.findSome? (·.ruling? path)).getD
        (((nest .process v.setting way).ruling? path).getD ((ofVariables left).shows? path)) := by
  have hlayer : v.layer? = some (nest .process v.setting way) := by
    rw [Variable.layer?, hway, Option.map_some]
  rw [shows?_ofVariables, shows?_ofVariables, List.filterMap_append, List.filterMap_cons, hlayer]
  dsimp only
  rw [List.reverse_append, List.reverse_cons, List.append_assoc, List.append_assoc,
    winner?_append, List.singleton_append, winner?_cons]

/-- What one more variable does to the layer of the variables, if no later one interferes. -/
theorem overrides_ofVariables (hway : Variable.path? v.name = some way)
    (hright : PartFrom way right) :
    Overrides way v.setting (ofVariables (left ++ right)) (ofVariables (left ++ v :: right)) := by
  have hwith := shows?_ofVariables_between left right hway
  have hwithout (path : List String) : (ofVariables (left ++ right)).shows? path =
      ((right.filterMap Variable.layer?).reverse.findSome? (·.ruling? path)).getD
        ((ofVariables left).shows? path) := by
    rw [shows?_ofVariables, shows?_ofVariables, List.filterMap_append, List.reverse_append,
      List.append_assoc, winner?_append]
  constructor
  · intro path hup hdown
    rw [hwith, hwithout, ruling?_nest_of_parted hup hdown, Option.getD_none]
  · intro path hpath hne
    rw [hwith, ruling?_nest_of_isPrefix hpath hne, Option.getD_some]
    cases hruled : (right.filterMap Variable.layer?).reverse.findSome? (·.ruling? path) with
    | none => rfl
    | some ruled => rw [Option.getD_some, findSome?_on_way hright hpath hruled]
  · rw [hwith, findSome?_of_partFrom hright, ruling?_nest_self]
    rfl

/-- What is put in a layer is put in the layers as a whole, if what was there before was a tree as
far as the way goes. -/
theorem Overrides.merge (h : Overrides way value s t) (hs : s.Proper) (ht : t.Proper)
    (htables : ∀ path, path <+: way → path ≠ way →
      ∃ source, (lower.merge s).shows? path = some (table source [])) :
    Overrides way value (lower.merge s) (lower.merge t) := by
  have hmerge (upper : Setting) (hupper : upper.Proper) (path : List String) :
      (lower.merge upper).shows? path = (upper.ruling? path).getD (lower.shows? path) := by
    rw [shows?_merge hupper, winner?_cons, winner?_singleton]
  have hbarred {path : List String} (hup : ¬ path <+: way) (hdown : ¬ way <+: path) :
      t.Barred path ↔ s.Barred path := by
    have hparted {first rest : List String} (hpath : path = first ++ rest) :
        ¬ way <+: first := fun hbegins => hdown (hbegins.trans ⟨rest, hpath.symm⟩)
    constructor
    · rintro ⟨first, rest, hpath, hrest, found, hfound, hplain⟩
      refine ⟨first, rest, hpath, hrest, found, ?_, hplain⟩
      have hway : ¬ first <+: way := fun hbegins => by
        have hne : first ≠ way := fun heq => hparted hpath (heq ▸ List.prefix_refl first)
        rw [h.onWay first hbegins hne] at hfound
        exact hplain .process (Option.some.inj hfound).symm
      rw [← h.parted first hway (hparted hpath), hfound]
    · rintro ⟨first, rest, hpath, hrest, found, hfound, hplain⟩
      refine ⟨first, rest, hpath, hrest, found, ?_, hplain⟩
      have hway : ¬ first <+: way := fun hbegins => by
        have hne : first ≠ way := fun heq => hparted hpath (heq ▸ List.prefix_refl first)
        obtain ⟨source, htable⟩ := htables first hbegins hne
        rw [hmerge s hs, ruling?_of_shows? hfound, Option.getD_some] at htable
        exact hplain source (Option.some.inj htable)
      rw [h.parted first hway (hparted hpath), hfound]
  constructor
  · intro path hup hdown
    have hruling : t.ruling? path = s.ruling? path := by
      rw [ruling?_eq, ruling?_eq, h.parted path hup hdown]
      by_cases hbar : s.Barred path
      · rw [if_pos hbar, if_pos ((hbarred hup hdown).mpr hbar)]
      · rw [if_neg hbar, if_neg (hbar ∘ (hbarred hup hdown).mp)]
    rw [hmerge t ht, hmerge s hs, hruling]
  · intro path hpath hne
    rw [hmerge t ht, ruling?_of_shows? (h.onWay path hpath hne), Option.getD_some]
  · rw [hmerge t ht, ruling?_of_shows? h.atEnd, Option.getD_some]

end Setting

end WaitingList

import WaitingList.Proofs.Settings.NumericField

namespace WaitingList

namespace Setting

theorem exists_table_of_shows? {tree value : Setting} {first second : String}
    (h : tree.shows? [first, second] = some value) :
    ∃ source entries, tree.entries.lookup first = some (table source entries) := by
  rw [shows?_cons, Option.bind_eq_some_iff] at h
  obtain ⟨inner, hinner, hvalue⟩ := h
  cases inner with
  | scalar | list => cases hvalue
  | table source entries => exact ⟨source, entries, hinner⟩

end Setting

namespace Extraction

open Setting (AlikeOff)

variable {s t value : Setting} {part key : String}

theorem unsigned_face (bits : Nat) (path : List String) (s : Setting) :
    unsigned bits path s.face = unsigned bits path s := by
  cases s <;> rfl

theorem host_face (path : List String) (s : Setting) : host path s.face = host path s := by
  cases s <;> rfl

/-- Trees that are alike off one setting read alike every other section, and of its own section
every other key. -/
theorem value?_of_alikeOff {α : Type} {read : Reader α} {keys : List String} {name : String}
    (hread : LooksAt read {key | key ∈ keys}) (hs : s.Proper) (ht : t.Proper)
    (h : s.AlikeOff [part, key] t) (hname : name ≠ part) :
    value? read name [] t.entries = value? read name [] s.entries :=
  hread.value? ht hs (h.symm _ (by simp [Ne.symm hname]))
    (fun k _ rest => h.symm _ (by simp [Ne.symm hname])) []

end Extraction

namespace NumericField

open Extraction (unsigned host value? value?_of_lookup LooksAt)
open Setting (AlikeOff)

variable {field : NumericField} {s t value : Setting} {r : Settings}

theorem submissions_ne_part (field : NumericField) : "subscribe_config" ≠ field.part := by
  cases field <;> simp [part]

theorem network_table_eq_ok_iff {path : List String} {source : Source}
    {entries : List (String × Setting)} {n : NetworkSettings} :
    Extraction.network path (.table source entries) = .ok n ↔
      value? host "host" path entries = .ok (some n.host) ∧
      value? (unsigned 16) "app_port" path entries = .ok (some n.port) := by
  simp only [Extraction.network, bind_eq_ok_iff, Extraction.required_eq_ok_iff]
  constructor
  · rintro ⟨_, hport, _, hhost, _, rfl, _, rfl, heq⟩
    obtain rfl := Except.ok.inj heq
    exact ⟨hhost, hport⟩
  · rintro ⟨hhost, hport⟩
    exact ⟨_, hport, _, hhost, _, rfl, _, rfl, rfl⟩

theorem pool_table_eq_ok_iff {path : List String} {source : Source}
    {entries : List (String × Setting)} {p : PoolSettings} :
    Extraction.pool path (.table source entries) = .ok p ↔
      value? (unsigned 64) "acquire_timeout_millis" path entries =
        .ok (some p.acquireTimeoutMillis) ∧
      value? (unsigned 32) "max_connections" path entries = .ok (some p.maxConnections) ∧
      value? Extraction.boolean "migrate_on_start" path entries = .ok (some p.migrateOnStart) := by
  simp only [Extraction.pool, bind_eq_ok_iff, Extraction.required_eq_ok_iff]
  constructor
  · rintro ⟨_, htimeout, _, hconnections, _, hmigrates, _, rfl, _, rfl, _, rfl, heq⟩
    obtain rfl := Except.ok.inj heq
    exact ⟨htimeout, hconnections, hmigrates⟩
  · rintro ⟨htimeout, hconnections, hmigrates⟩
    exact ⟨_, htimeout, _, hconnections, _, hmigrates, _, rfl, _, rfl, _, rfl, rfl⟩

/-- The section of a number in trees that are alike off it: the other keys are read alike, and the
number is read from what stands there. -/
structure Exchanged (field : NumericField) (value : Setting)
    (left right : List (String × Setting)) : Prop where
  kept : ∀ key, key ≠ field.key → ∀ (α : Type) (read : Extraction.Reader α),
    LooksAt read Set.univ → value? read key [field.part] right = value? read key [field.part] left
  own : ∀ (α : Type) (read : Extraction.Reader α), (∀ path s, read path s.face = read path s) →
    value? read field.key [field.part] right = (read field.path value).map some

theorem exchanged_of_alikeOff (hs : s.Proper) (ht : t.Proper) (h : s.AlikeOff field.path t)
    {left right : List (String × Setting)} {source other : Source}
    (hleft : s.entries.lookup field.part = some (.table source left))
    (hright : t.entries.lookup field.part = some (.table other right))
    (hvalue : t.shows? field.path = some value) : field.Exchanged value left right where
  kept key hkey α read hread := by
    refine hread.entry (ht.inner hright) (hs.inner hleft) (fun rest => ?_) [field.part]
    rw [Setting.shows?_of_lookup hright, Setting.shows?_of_lookup hleft]
    exact h.symm _ (by simp [path, Ne.symm hkey])
  own α read hface := by
    rw [path, ← Setting.shows?_of_lookup hright, Setting.shows?_singleton,
      Option.map_eq_some_iff] at hvalue
    obtain ⟨inner, hinner, rfl⟩ := hvalue
    have hlookup : right.lookup field.key = some inner := hinner
    rw [value?_of_lookup hlookup, hface]
    rfl

section Sections

variable {left right : List (String × Setting)} {source other : Source}

theorem network_of_exchanged (hfield : field.part = "net_config")
    (h : field.Exchanged value left right)
    (hread : Extraction.network ["net_config"] (.table source left) = .ok r.network) :
    Extraction.network ["net_config"] (.table other right) =
      (field.read field.path value).map fun numeral => (field.put numeral r).network := by
  obtain ⟨hhost, hport⟩ := network_table_eq_ok_iff.mp hread
  cases field with
  | listenHost =>
    have hport' : value? (unsigned 16) "app_port" ["net_config"] right =
        .ok (some r.network.port) :=
      (h.kept _ (by simp [key]) _ _ (Extraction.looksAt_unsigned 16)).trans hport
    have hhost' : value? host "host" ["net_config"] right =
        (host listenHost.path value).map some := h.own _ host Extraction.host_face
    rw [Extraction.network, hport', hhost', read_host]
    cases host listenHost.path value <;> rfl
  | listenPort =>
    have hhost' : value? host "host" ["net_config"] right = .ok (some r.network.host) :=
      (h.kept _ (by simp [key]) _ _ Extraction.looksAt_host).trans hhost
    have hport' : value? (unsigned 16) "app_port" ["net_config"] right =
        (unsigned 16 listenPort.path value).map some :=
      h.own _ (unsigned 16) (Extraction.unsigned_face 16)
    rw [Extraction.network, hport', hhost', read_number (by decide), bits]
    cases unsigned 16 listenPort.path value <;> rfl
  | storePort | maxConnections | acquireTimeout => simp [part] at hfield

theorem target_of_exchanged (hfield : field.part = "db_config")
    (h : field.Exchanged value left right)
    (hread : Extraction.target ["db_config"] (.table source left) = .ok r.target) :
    Extraction.target ["db_config"] (.table other right) =
      (field.read field.path value).map fun numeral => (field.put numeral r).target := by
  obtain ⟨hdatabase, hhost, hpassword, _, hmode, husername⟩ :=
    Extraction.target_table_eq_ok_iff.mp hread
  cases field with
  | storePort =>
    have htext (key : String) (hkey : key ≠ "port") :
        value? Extraction.text key ["db_config"] right =
          value? Extraction.text key ["db_config"] left :=
      h.kept key hkey _ _ Extraction.looksAt_text
    have hmode' : value? Extraction.sslMode "require_ssl" ["db_config"] right =
        .ok (some r.target.sslMode) :=
      (h.kept _ (by simp [key]) _ _ Extraction.looksAt_name).trans hmode
    have hport : value? (unsigned 16) "port" ["db_config"] right =
        (unsigned 16 storePort.path value).map some :=
      h.own _ (unsigned 16) (Extraction.unsigned_face 16)
    rw [Extraction.target, htext "db_name" (by simp), hdatabase, htext "host" (by simp), hhost,
      htext "password" (by simp), hpassword, hport, hmode', htext "username" (by simp), husername,
      read_number (by decide), bits]
    cases unsigned 16 storePort.path value <;> rfl
  | listenHost | listenPort | maxConnections | acquireTimeout => simp [part] at hfield

theorem pool_of_exchanged (hfield : field.part = "pool_config")
    (h : field.Exchanged value left right)
    (hread : Extraction.pool ["pool_config"] (.table source left) = .ok r.pool) :
    Extraction.pool ["pool_config"] (.table other right) =
      (field.read field.path value).map fun numeral => (field.put numeral r).pool := by
  obtain ⟨htimeout, hconnections, hmigrates⟩ := pool_table_eq_ok_iff.mp hread
  have hmigrates' : value? Extraction.boolean "migrate_on_start" ["pool_config"] right =
      .ok (some r.pool.migrateOnStart) := by
    have hkept := h.kept "migrate_on_start" (by cases field <;> simp [key]) _ _
      Extraction.looksAt_boolean
    rw [hfield] at hkept
    exact hkept.trans hmigrates
  cases field with
  | maxConnections =>
    have htimeout' : value? (unsigned 64) "acquire_timeout_millis" ["pool_config"] right =
        .ok (some r.pool.acquireTimeoutMillis) :=
      (h.kept _ (by simp [key]) _ _ (Extraction.looksAt_unsigned 64)).trans htimeout
    have hconnections' : value? (unsigned 32) "max_connections" ["pool_config"] right =
        (unsigned 32 maxConnections.path value).map some :=
      h.own _ (unsigned 32) (Extraction.unsigned_face 32)
    rw [Extraction.pool, htimeout', hconnections', hmigrates', read_number (by decide), bits]
    cases unsigned 32 maxConnections.path value <;> rfl
  | acquireTimeout =>
    have hconnections' : value? (unsigned 32) "max_connections" ["pool_config"] right =
        .ok (some r.pool.maxConnections) :=
      (h.kept _ (by simp [key]) _ _ (Extraction.looksAt_unsigned 32)).trans hconnections
    have htimeout' : value? (unsigned 64) "acquire_timeout_millis" ["pool_config"] right =
        (unsigned 64 acquireTimeout.path value).map some :=
      h.own _ (unsigned 64) (Extraction.unsigned_face 64)
    rw [Extraction.pool, htimeout', hconnections', hmigrates', read_number (by decide), bits]
    cases unsigned 64 acquireTimeout.path value <;> rfl
  | listenHost | listenPort | storePort => simp [part] at hfield

end Sections

/-- A number changes nothing outside its section. -/
theorem put_of_network (hfield : field.part = "net_config") (numeral : Numeral) (r : Settings) :
    { r with network := (field.put numeral r).network } = field.put numeral r := by
  cases field with
  | listenHost => unfold put; split <;> first | rfl | contradiction
  | listenPort => cases numeral <;> rfl
  | storePort | maxConnections | acquireTimeout => simp [part] at hfield

theorem put_of_target (hfield : field.part = "db_config") (numeral : Numeral) (r : Settings) :
    { r with target := (field.put numeral r).target } = field.put numeral r := by
  cases field with
  | storePort => cases numeral <;> rfl
  | listenHost | listenPort | maxConnections | acquireTimeout => simp [part] at hfield

theorem put_of_pool (hfield : field.part = "pool_config") (numeral : Numeral) (r : Settings) :
    { r with pool := (field.put numeral r).pool } = field.put numeral r := by
  cases field with
  | maxConnections | acquireTimeout => cases numeral <;> rfl
  | listenHost | listenPort | storePort => simp [part] at hfield

theorem part_cases (field : NumericField) :
    field.part = "net_config" ∨ field.part = "db_config" ∨ field.part = "pool_config" := by
  cases field <;> simp [part]

/-- A number that is written anew is taken from what is written, and the settings are otherwise as
they were. -/
theorem settings_of_alikeOff (hs : s.Proper) (ht : t.Proper) (h : s.AlikeOff field.path t)
    (hbefore : s.shows? field.path ≠ none) (hvalue : t.shows? field.path = some value)
    (hsettings : Extraction.settings s.entries = .ok r) :
    Extraction.settings t.entries =
      (field.read field.path value).map fun numeral => field.put numeral r := by
  obtain ⟨before, hbefore⟩ := Option.ne_none_iff_exists'.mp hbefore
  obtain ⟨source, left, hleft⟩ := Setting.exists_table_of_shows? hbefore
  obtain ⟨other, right, hright⟩ := Setting.exists_table_of_shows? hvalue
  have hexchanged := exchanged_of_alikeOff hs ht h hleft hright hvalue
  obtain ⟨htarget, hnetwork, hpool, policy, hpolicy, hget⟩ :=
    Extraction.settings_eq_ok_iff.mp hsettings
  have hpart {α : Type} {read : Extraction.Reader α} {a : α}
      (hread : value? read field.part [] s.entries = .ok (some a)) :
      read [field.part] (.table source left) = .ok a := by
    rw [value?_of_lookup hleft, map_eq_ok_iff] at hread
    obtain ⟨_, hread, heq⟩ := hread
    obtain rfl := Option.some.inj heq
    exact hread
  have hother {α : Type} {read : Extraction.Reader α} {keys : List String} {name : String}
      (hread : LooksAt read {key | key ∈ keys}) (hname : name ≠ field.part) :
      value? read name [] t.entries = value? read name [] s.entries :=
    Extraction.value?_of_alikeOff hread hs ht h hname
  have hsubmissions := hother Extraction.looksAt_submissions field.submissions_ne_part
  rw [Extraction.settings, hsubmissions, hpolicy]
  obtain hfield | hfield | hfield := field.part_cases
  · rw [hfield] at hpart hother hright
    rw [hother Extraction.looksAt_target (by simp), htarget,
      hother Extraction.looksAt_pool (by simp), hpool, value?_of_lookup hright, List.nil_append,
      network_of_exchanged hfield hexchanged (hpart hnetwork)]
    cases field.read field.path value with
    | error mismatch => rfl
    | ok numeral =>
      refine Eq.trans ?_ (congrArg Except.ok (put_of_network hfield numeral r))
      rw [← hget]
      rfl
  · rw [hfield] at hpart hother hright
    rw [hother Extraction.looksAt_network (by simp), hnetwork,
      hother Extraction.looksAt_pool (by simp), hpool, value?_of_lookup hright, List.nil_append,
      target_of_exchanged hfield hexchanged (hpart htarget)]
    cases field.read field.path value with
    | error mismatch => rfl
    | ok numeral =>
      refine Eq.trans ?_ (congrArg Except.ok (put_of_target hfield numeral r))
      rw [← hget]
      rfl
  · rw [hfield] at hpart hother hright
    rw [hother Extraction.looksAt_network (by simp), hnetwork,
      hother Extraction.looksAt_target (by simp), htarget, value?_of_lookup hright, List.nil_append,
      pool_of_exchanged hfield hexchanged (hpart hpool)]
    cases field.read field.path value with
    | error mismatch => rfl
    | ok numeral =>
      refine Eq.trans ?_ (congrArg Except.ok (put_of_pool hfield numeral r))
      rw [← hget]
      rfl

section Found

variable {path : List String} {part : Setting}

/-- What stands in a section under a key or at a place is read as a value. -/
def Found {α : Type} (part : Setting) (key : String) (index : Nat) (read : Extraction.Reader α)
    (a : α) : Prop :=
  ∃ inner path, part.member? key index = some inner ∧ read path inner = .ok a

theorem found_of_value? {α : Type} {read : Extraction.Reader α} {key : String} {index : Nat}
    {source : Source} {entries : List (String × Setting)} {a : α}
    (h : value? read key path entries = .ok (some a)) :
    Found (.table source entries) key index read a := by
  obtain ⟨inner, hinner, hread⟩ := Extraction.value?_eq_ok_some_iff.mp h
  exact ⟨inner, _, hinner, hread⟩

theorem found_of_item {α : Type} {read : Extraction.Reader α} {key : String} {index : Nat}
    {source : Source} {expected : String} {items : List Setting} {a : α}
    (h : Extraction.item read index expected path source items = .ok a) :
    Found (.list source items) key index read a := by
  obtain ⟨inner, hinner, hread⟩ := Extraction.item_eq_ok_iff.mp h
  exact ⟨inner, _, hinner, hread⟩

theorem found_of_network {n : NetworkSettings} (h : Extraction.network path part = .ok n) :
    Found part "host" 0 host n.host ∧ Found part "app_port" 1 (unsigned 16) n.port := by
  cases part with
  | scalar => cases h
  | table source entries =>
    obtain ⟨hhost, hport⟩ := network_table_eq_ok_iff.mp h
    exact ⟨found_of_value? hhost, found_of_value? hport⟩
  | list source items =>
    simp only [Extraction.network, bind_eq_ok_iff] at h
    obtain ⟨_, hhost, _, hport, heq⟩ := h
    obtain rfl := Except.ok.inj heq
    exact ⟨found_of_item hhost, found_of_item hport⟩

theorem found_of_target {t : ConnectionTarget} (h : Extraction.target path part = .ok t) :
    Found part "port" 2 (unsigned 16) t.port := by
  cases part with
  | scalar => cases h
  | table source entries =>
    obtain ⟨_, _, _, hport, _⟩ := Extraction.target_table_eq_ok_iff.mp h
    exact found_of_value? hport
  | list source items =>
    simp only [Extraction.target, bind_eq_ok_iff] at h
    obtain ⟨_, _, _, _, _, hport, _, _, _, _, _, _, heq⟩ := h
    obtain rfl := Except.ok.inj heq
    exact found_of_item hport

theorem found_of_pool {p : PoolSettings} (h : Extraction.pool path part = .ok p) :
    Found part "max_connections" 0 (unsigned 32) p.maxConnections ∧
      Found part "acquire_timeout_millis" 1 (unsigned 64) p.acquireTimeoutMillis := by
  cases part with
  | scalar => cases h
  | table source entries =>
    obtain ⟨htimeout, hconnections, _⟩ := pool_table_eq_ok_iff.mp h
    exact ⟨found_of_value? hconnections, found_of_value? htimeout⟩
  | list source items =>
    simp only [Extraction.pool, bind_eq_ok_iff] at h
    obtain ⟨_, hconnections, _, htimeout, _, _, heq⟩ := h
    obtain rfl := Except.ok.inj heq
    exact ⟨found_of_item hconnections, found_of_item htimeout⟩

/-- What a tree says about a number, whether its section is a table or a list. -/
def find? (field : NumericField) (whole : Setting) : Option Setting :=
  (whole.entries.lookup field.part).bind fun inner => inner.member? field.key field.index

theorem find?_of_part {whole inner : Setting} (hpart : whole.entries.lookup field.part = some part)
    (hinner : part.member? field.key field.index = some inner) :
    field.find? whole = some inner := by
  rw [find?, hpart, Option.bind_some, hinner]

theorem read_of_unsigned {inner : Setting} {n : Nat} (hfield : field ≠ listenHost)
    (h : unsigned field.bits path inner = .ok n) : field.read path inner = .ok (.one n) := by
  rw [read_number hfield, h]
  rfl

/-- Each number of settings that are loaded is read from the tree. -/
theorem exists_of_settings {whole : Setting} (h : Extraction.settings whole.entries = .ok r)
    (field : NumericField) : ∃ inner path, field.find? whole = some inner ∧
      field.read path inner = .ok (field.get r) := by
  obtain ⟨htarget, hnetwork, hpool, _⟩ := Extraction.settings_eq_ok_iff.mp h
  obtain ⟨target, htarget, hread⟩ := Extraction.value?_eq_ok_some_iff.mp htarget
  obtain ⟨network, hnetwork, hread'⟩ := Extraction.value?_eq_ok_some_iff.mp hnetwork
  obtain ⟨pool, hpool, hread''⟩ := Extraction.value?_eq_ok_some_iff.mp hpool
  cases field with
  | listenHost =>
    obtain ⟨inner, path, hinner, hvalue⟩ := (found_of_network hread').1
    exact ⟨inner, path, find?_of_part hnetwork hinner, map_eq_ok_iff.mpr ⟨_, hvalue, rfl⟩⟩
  | listenPort =>
    obtain ⟨inner, path, hinner, hvalue⟩ := (found_of_network hread').2
    exact ⟨inner, path, find?_of_part hnetwork hinner, read_of_unsigned (by decide) hvalue⟩
  | storePort =>
    obtain ⟨inner, path, hinner, hvalue⟩ := found_of_target hread
    exact ⟨inner, path, find?_of_part htarget hinner, read_of_unsigned (by decide) hvalue⟩
  | maxConnections =>
    obtain ⟨inner, path, hinner, hvalue⟩ := (found_of_pool hread'').1
    exact ⟨inner, path, find?_of_part hpool hinner, read_of_unsigned (by decide) hvalue⟩
  | acquireTimeout =>
    obtain ⟨inner, path, hinner, hvalue⟩ := (found_of_pool hread'').2
    exact ⟨inner, path, find?_of_part hpool hinner, read_of_unsigned (by decide) hvalue⟩

/-- What is loaded of a number is what the tree says, and lies in its range. -/
theorem isNumeral_of_settings {whole : Setting} (h : Extraction.settings whole.entries = .ok r)
    (field : NumericField) : ∃ inner, field.find? whole = some inner ∧
      ((field = listenHost → ∀ source items, inner = .list source items → items.length ≤ 4) →
        inner.IsNumeral (field.get r) ∧ field.Accepts (field.get r)) := by
  obtain ⟨inner, path, hinner, hread⟩ := exists_of_settings h field
  exact ⟨inner, hinner, fun hshort => (read_eq_ok_iff hshort).mp hread⟩

end Found

end NumericField

end WaitingList

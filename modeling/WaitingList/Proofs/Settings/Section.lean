import WaitingList.Proofs.Outcome
import WaitingList.Proofs.Settings.Extraction

namespace WaitingList

/-- The settings of the store that are texts. -/
inductive TextField where
  | username
  | password
  | host
  | database
  deriving DecidableEq, Repr

namespace TextField

def key : TextField → String
  | username => "username"
  | password => "password"
  | host => "host"
  | database => "db_name"

def get (field : TextField) (target : ConnectionTarget) : String :=
  match field with
  | username => target.username
  | password => target.password
  | host => target.host
  | database => target.database

/-- A target with another text in one of its parts. -/
def put (field : TextField) (text : String) (target : ConnectionTarget) : ConnectionTarget :=
  match field with
  | username => { target with username := text }
  | password => { target with password := text }
  | host => { target with host := text }
  | database => { target with database := text }

theorem get_put (field : TextField) (text : String) (target : ConnectionTarget) :
    field.get (field.put text target) = text := by
  cases field <;> rfl

theorem key_mem (field : TextField) : field.key ∈ Extraction.targetKeys := by
  cases field <;> simp [key, Extraction.targetKeys]

theorem key_injective : Function.Injective key := by
  intro field other h
  cases field <;> cases other <;> first | rfl | simp [key] at h

end TextField

namespace Extraction

variable {α : Type}

theorem required_eq_ok_iff {key : String} {path : List String} {source : Option Source}
    {value : Option α} {a : α} : required key path source value = .ok a ↔ value = some a := by
  cases value <;> simp [required]

theorem value?_of_lookup {read : Reader α} {key : String} {path : List String}
    {entries : List (String × Setting)} {setting : Setting}
    (h : entries.lookup key = some setting) :
    value? read key path entries = (read (path ++ [key]) setting).map some := by
  rw [value?, h]
  dsimp only
  cases read (path ++ [key]) setting <;> rfl

/-- What a section that amounts to a target is read as, key by key. -/
theorem target_table_eq_ok_iff {path : List String} {source : Source}
    {entries : List (String × Setting)} {t : ConnectionTarget} :
    target path (.table source entries) = .ok t ↔
      value? text "db_name" path entries = .ok (some t.database) ∧
      value? text "host" path entries = .ok (some t.host) ∧
      value? text "password" path entries = .ok (some t.password) ∧
      value? (unsigned 16) "port" path entries = .ok (some t.port) ∧
      value? sslMode "require_ssl" path entries = .ok (some t.sslMode) ∧
      value? text "username" path entries = .ok (some t.username) := by
  simp only [target, bind_eq_ok_iff, required_eq_ok_iff]
  constructor
  · rintro ⟨_, hdatabase, _, hhost, _, hpassword, _, hport, _, hmode, _, husername, _, rfl, _, rfl,
      _, rfl, _, rfl, _, rfl, _, rfl, heq⟩
    obtain rfl := Except.ok.inj heq
    exact ⟨hdatabase, hhost, hpassword, hport, hmode, husername⟩
  · rintro ⟨hdatabase, hhost, hpassword, hport, hmode, husername⟩
    exact ⟨_, hdatabase, _, hhost, _, hpassword, _, hport, _, hmode, _, husername, _, rfl, _, rfl,
      _, rfl, _, rfl, _, rfl, _, rfl, rfl⟩

/-- A section in which one text is written anew amounts to the target with that text. -/
theorem target_put {path : List String} {source other : Source}
    {left right : List (String × Setting)} {t : ConnectionTarget} {field : TextField}
    {result : Except Mismatch String} (h : target path (.table source left) = .ok t)
    (hkept : ∀ key ∈ targetKeys, key ≠ field.key → ∀ (β : Type) (inner : Reader β),
      LooksAt inner Set.univ → value? inner key path right = value? inner key path left)
    (hput : value? text field.key path right = result.map some) :
    target path (.table other right) = result.map fun text => field.put text t := by
  obtain ⟨hdatabase, hhost, hpassword, hport, hmode, husername⟩ := target_table_eq_ok_iff.mp h
  have hport' := hkept "port" (by simp [targetKeys]) (by cases field <;> simp [TextField.key]) _ _
    (looksAt_unsigned 16)
  have hmode' := hkept "require_ssl" (by simp [targetKeys])
    (by cases field <;> simp [TextField.key]) _ sslMode looksAt_name
  have htext (part : TextField) : value? text part.key path right =
      if part = field then result.map some else .ok (some (part.get t)) := by
    by_cases hpart : part = field
    · rw [hpart, hput, if_pos rfl]
    · have hne : part.key ≠ field.key := fun heq => hpart (TextField.key_injective heq)
      rw [hkept part.key part.key_mem hne _ text looksAt_text, if_neg hpart]
      cases part <;> assumption
  have hdatabase' : value? text "db_name" path right = _ := htext .database
  have hhost' : value? text "host" path right = _ := htext .host
  have hpassword' : value? text "password" path right = _ := htext .password
  have husername' : value? text "username" path right = _ := htext .username
  rw [target, hdatabase', hhost', hpassword', hport', hport, hmode', hmode, husername']
  cases field <;> cases result <;> rfl

/-- What a tree that amounts to settings is read as, section by section. -/
theorem settings_eq_ok_iff {entries : List (String × Setting)} {r : Settings} :
    settings entries = .ok r ↔
      value? target "db_config" [] entries = .ok (some r.target) ∧
      value? network "net_config" [] entries = .ok (some r.network) ∧
      value? pool "pool_config" [] entries = .ok (some r.pool) ∧
      ∃ policy, value? submissions "subscribe_config" [] entries = .ok policy ∧
        policy.getD .minimal = r.emailPolicy := by
  simp only [settings, bind_eq_ok_iff, required_eq_ok_iff]
  constructor
  · rintro ⟨_, htarget, _, hnetwork, _, hpool, policy, hpolicy, _, rfl, _, rfl, _, rfl, heq⟩
    obtain rfl := Except.ok.inj heq
    exact ⟨htarget, hnetwork, hpool, policy, hpolicy, rfl⟩
  · rintro ⟨htarget, hnetwork, hpool, policy, hpolicy, hget⟩
    refine ⟨_, htarget, _, hnetwork, _, hpool, policy, hpolicy, _, rfl, _, rfl, _, rfl, ?_⟩
    rw [hget]
    rfl

/-- A store that is given key by key has a port. -/
theorem shows?_port_of_settings {tree : Setting} {source : Source} {r : Settings}
    (htable : tree.shows? ["db_config"] = some (.table source []))
    (h : settings tree.entries = .ok r) : tree.shows? ["db_config", "port"] ≠ none := by
  obtain ⟨entries, hentries⟩ := Setting.exists_entries_of_shows? htable
  obtain ⟨htarget, _⟩ := settings_eq_ok_iff.mp h
  rw [value?_of_lookup hentries, map_eq_ok_iff] at htarget
  obtain ⟨t, htarget, _⟩ := htarget
  obtain ⟨_, _, _, hport, _⟩ := target_table_eq_ok_iff.mp htarget
  rw [Setting.shows?_cons, hentries, Option.bind_some, Setting.shows?_singleton, Setting.entries]
  intro hnone
  rw [Option.map_eq_none_iff] at hnone
  rw [value?, hnone] at hport
  cases hport

end Extraction

end WaitingList

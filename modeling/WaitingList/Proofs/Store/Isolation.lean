import WaitingList.Proofs.Store.TestDatabase

namespace WaitingList

namespace Server

theorem has_congr {s after : Server} (hdatabases : after.databases = s.databases) (name : String) :
    after.has name = s.has name := by
  rw [has, has, hdatabases]

theorem database_congr {s after : Server} (hdatabases : after.databases = s.databases)
    (name : String) : after.database name = s.database name := by
  rw [database, database, hdatabases]

/-- A server on which at most the database of one name was worked in, and none was removed. -/
structure Spares (s after : Server) (name : String) : Prop where
  others : ∀ other, other ≠ name →
    after.has other = s.has other ∧ after.database other = s.database other
  kept : s.has name = true → after.has name = true

namespace Spares

theorem refl (s : Server) (name : String) : s.Spares s name := ⟨fun _ _ => ⟨rfl, rfl⟩, id⟩

theorem setDatabase {s after : Server} {name : String} (h : s.Spares after name) (d : Database) :
    s.Spares (after.setDatabase name d) name where
  others other hother := by simpa [hother] using h.others other hother
  kept _ := by simp

/-- Nothing but the database of that name has a part in it. -/
theorem beside (s : Server) (name : String) : Server.Beside (s.Spares · name) name where
  setDatabase _ d h := h.setDatabase d
  disarm _ h := ⟨h.others, h.kept⟩

theorem has {s after : Server} {name other : String} (h : s.Spares after name)
    (hhas : s.has other = true) : after.has other = true := by
  by_cases hother : other = name
  · subst hother
    exact h.kept hhas
  · rw [(h.others other hother).1, hhas]

end Spares

end Server

namespace ServerWork

theorem upsert_spares (name email : String) (s : Server) :
    (upsert name email).Ends s (fun _ after => s.Spares after name) (s.Spares · name) := by
  have htouched : s.Spares (s.touch name) name := (Server.Spares.refl s name).setDatabase _
  rw [Ends, outcome_upsert]
  cases s.struck? .upsert with
  | some failure => exact (Server.Spares.beside s name).disarm _ htouched
  | none =>
    cases (s.database name).rows with
    | none => exact htouched
    | some rows =>
      have hwritten := htouched.setDatabase
        { s.database name with rows := some (Row.write rows email (s.writes + 1)) }
      exact ⟨hwritten.others, hwritten.kept⟩

/-- A database is removed as a whole, unless a failure waits for the removal. -/
theorem dropDatabase_ends (name : String) (s : Server) :
    (dropDatabase name).Ends s
      (fun _ after => after.databases = s.databases.filter (·.1 != name))
      (fun after => after.databases = s.databases) := by
  rw [Ends, dropDatabase, outcome_bind, outcome_attempt]
  cases s.struck? .dropDatabase with
  | some failure => exact rfl
  | none => exact rfl

end ServerWork

namespace Manager

theorem migrate_spares (m : Manager) (store : Store) :
    store.server.Spares (m.migrate store).store.server m.target.database :=
  m.migrate_keeps (Server.Spares.beside store.server _) (.refl store.server _)

theorem upsert_spares (m : Manager) (email : String) (store : Store) :
    store.server.Spares (m.upsert email store).2.server m.target.database := by
  have hends := ServerWork.upsert_spares m.target.database email store.server
  rcases hupsert : m.upsert email store with ⟨error | done, after⟩
  · obtain ⟨_, rfl⟩ | ⟨_, _, hspares⟩ := Store.work_error hends hupsert
    · exact .refl _ _
    · exact hspares
  · exact (Store.work_ok hends hupsert).2.2

/-- A manager without a database of its own is given up without work. -/
theorem close_shared {m : Manager} (hshared : m.ownDatabase? = none) (target : ConnectionTarget)
    (closing : Option StoreError) (store : Store) :
    m.close target closing store = ⟨.ok (), store, []⟩ := by
  simp only [close, hshared]

/-- Giving up a manager that owns a database removes that one, or fails and removes none. Where the
connection cannot be closed it fails with the database removed. -/
theorem close_own {m : Manager} {name : String} (howns : m.ownDatabase? = some name)
    (target : ConnectionTarget) (closing : Option StoreError) (store : Store) :
    let outcome := m.close target closing store
    (∃ error, outcome.result = .error error) ∧
        outcome.store.server.databases = store.server.databases ∨
      outcome.store.server.databases = store.server.databases.filter (·.1 != name) ∧
        outcome.result = match closing with
          | none => .ok ()
          | some error => .error (.statement error) := by
  intro outcome
  have hends := ServerWork.dropDatabase_ends name store.server
  have houtcome : outcome = m.close target closing store := rfl
  simp only [close, howns] at houtcome
  rcases hwork : store.work .direct target.serverOptions id (ServerWork.dropDatabase name) with
    ⟨error | done, after⟩
  · rw [hwork] at houtcome
    rw [houtcome]
    refine .inl ⟨⟨_, rfl⟩, ?_⟩
    obtain ⟨_, rfl⟩ | ⟨_, _, hsame⟩ := Store.work_error hends hwork
    · rfl
    · exact hsame
  · rw [hwork] at houtcome
    have hremoved := (Store.work_ok hends hwork).2.2
    rw [houtcome]
    cases closing with
    | none => exact .inr ⟨hremoved, rfl⟩
    | some error => exact .inr ⟨hremoved, rfl⟩

section OfTest

variable {target : ConnectionTarget} {size : Nat} {token : String} {closing : Option StoreError}
  {store : Store}

/-- A manager that is made for a test has a database that was not there before, made empty and
migrated. -/
theorem databases_of_ofTest_ok {m : Manager}
    (hok : (ofTest target size token closing store).result = .ok m) :
    m = forTest target token ∧ store.server.has (testDatabaseName token) = false ∧
      (ofTest target size token closing store).store.server.databases =
        store.server.databases ++ [(testDatabaseName token, ⟨some [], [Migration.record]⟩)] := by
  by_cases hmakes : Makes target token store
  · cases closing with
    | some error =>
      rw [ofTest_of_unclosed hmakes] at hok
      cases hok
    | none =>
      obtain ⟨hresult, hstore⟩ := ofTest_of_closed size hmakes
      have hfresh := hmakes.fresh
      have hlast := databases_migrate_last (m := forTest target token)
        (p := ⟨.ofSize size, made token store⟩) hfresh (databases_made hmakes)
      have hempty : (made token store).server.database (forTest target token).target.database =
          .empty := database_made hmakes
      cases hmigrated :
          ((forTest target token).migratePooled ⟨.ofSize size, made token store⟩).1 with
      | error error =>
        rw [hresult, hmigrated] at hok
        cases hok
      | ok done =>
        rw [hresult, hmigrated] at hok
        obtain ⟨_, _, _, _, ⟨_, hdone⟩ | ⟨hsome, _⟩⟩ := migratePooled_ok hmigrated
        · refine ⟨(Except.ok.inj hok).symm, hfresh, ?_⟩
          rw [hdone.database, hempty] at hlast
          exact (congrArg (·.server.databases) hstore).trans hlast
        · rw [hempty] at hsome
          exact absurd rfl hsome
  · obtain ⟨cause, hresult, _⟩ := ofTest_of_not_makes size closing hmakes
    rw [hresult] at hok
    cases hok

/-- Where no manager is made for a test, the databases are as they were or have a new one behind
them. -/
theorem databases_of_ofTest_error {error : ManagerError}
    (herror : (ofTest target size token closing store).result = .error error) :
    (ofTest target size token closing store).store.server.databases = store.server.databases ∨
      store.server.has (testDatabaseName token) = false ∧
        ∃ left, (ofTest target size token closing store).store.server.databases =
          store.server.databases ++ [(testDatabaseName token, left)] := by
  by_cases habandons : Abandons target size token closing store
  · exact .inr ⟨habandons.fresh, _, (ofTest_of_abandons habandons).2⟩
  · by_cases hmakes : Makes target token store
    · rw [ofTest_eq_ok hmakes habandons] at herror
      cases herror
    · obtain ⟨_, _, hsame⟩ := ofTest_of_not_makes size closing hmakes
      exact .inl hsame

end OfTest

end Manager

end WaitingList

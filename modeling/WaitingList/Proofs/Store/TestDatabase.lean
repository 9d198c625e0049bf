import WaitingList.Proofs.Store.Atomicity
import WaitingList.Proofs.Store.Pool

namespace WaitingList

namespace Server

theorem has_eq_false_iff {s : Server} {name : String} :
    s.has name = false ↔ ∀ entry ∈ s.databases, entry.1 ≠ name := by
  simp [has]

theorem databases_setDatabase_new {s : Server} {name : String} (hnew : s.has name = false)
    (d : Database) : (s.setDatabase name d).databases = s.databases ++ [(name, d)] := by
  simp [setDatabase, hnew]

/-- A database that is last and of its own name stays last, whatever it is replaced with. -/
theorem databases_setDatabase_last {s now : Server} {name : String} {content : Database}
    (hnew : s.has name = false) (hlast : now.databases = s.databases ++ [(name, content)])
    (d : Database) : (now.setDatabase name d).databases = s.databases ++ [(name, d)] := by
  have hhas : now.has name = true := by simp [has, hlast]
  have hothers : (s.databases.map fun entry => if entry.1 == name then (name, d) else entry) =
      s.databases := by
    refine (List.map_congr_left fun entry hentry => ?_).trans (List.map_id _)
    simp [has_eq_false_iff.mp hnew entry hentry]
  simp only [setDatabase, hhas, hlast, List.map_append, hothers, if_true]
  simp

theorem database_last {s now : Server} {name : String} {content : Database}
    (hnew : s.has name = false) (hlast : now.databases = s.databases ++ [(name, content)]) :
    now.database name = content := by
  have hothers : s.databases.lookup name = none := by
    rw [List.lookup_eq_none_iff]
    intro entry hentry
    simpa using (has_eq_false_iff.mp hnew entry hentry).symm
  simp [database, hlast, List.lookup_append, hothers]

end Server

namespace ServerWork

theorem outcome_createDatabase (name : String) (s : Server) :
    (createDatabase name).outcome s =
      match s.struck? .createDatabase with
      | some failure => (.error (.database failure.text), s.disarm)
      | none =>
        if s.has name then (.error (.database s!"database \"{name}\" already exists"), s)
        else (.ok (), s.setDatabase name .empty) := by
  rw [createDatabase, outcome_bind, outcome_attempt]
  cases s.struck? .createDatabase with
  | some failure => rfl
  | none =>
    cases hhas : s.has name <;> simp [outcome_bind, hhas, put]

end ServerWork

namespace Manager

/-- A migration of a database that is last among those of a server leaves it last, and the others
in their order. -/
theorem databases_migrate_last {m : Manager} {p : PooledStore} {s : Server} {content : Database}
    (hnew : s.has m.target.database = false)
    (hlast : p.store.server.databases = s.databases ++ [(m.target.database, content)]) :
    (m.migratePooled p).2.store.server.databases = s.databases ++
      [(m.target.database, (m.migratePooled p).2.store.server.database m.target.database)] := by
  have hbeside : Server.Beside
      (fun now => ∃ left, now.databases = s.databases ++ [(m.target.database, left)])
      m.target.database := by
    constructor
    · rintro now d ⟨_, hnow⟩
      exact ⟨d, Server.databases_setDatabase_last hnew hnow d⟩
    · exact fun _ hnow => hnow
  obtain ⟨left, hleft⟩ := m.migratePooled_keeps hbeside ⟨content, hlast⟩
  rw [Server.database_last hnew hleft]
  exact hleft

/-- What it takes to make a database for a test. -/
structure Makes (target : ConnectionTarget) (token : String) (store : Store) : Prop where
  connects : store.refusal? .direct target.serverOptions = none
  unstruck : store.server.struck? .createDatabase = none
  fresh : store.server.has (testDatabaseName token) = false

/-- What leaves a database behind that was made for a test: the connection that made it cannot be
closed, there is no room for another one, or a failure waits for a statement of the migration. -/
structure Abandons (target : ConnectionTarget) (size : Nat) (token : String)
    (closing : Option StoreError) (store : Store) : Prop extends Makes target token store where
  disturbed : closing ≠ none ∨ size = 0 ∨
    ∃ statement ∈ Migration.statements .empty, store.server.struck? statement ≠ none

def made (token : String) (store : Store) : Store :=
  { store with server := store.server.setDatabase (testDatabaseName token) .empty }

/-- The manager of a database that is made for a test. -/
def forTest (target : ConnectionTarget) (token : String) : Manager :=
  ⟨{ target with database := testDatabaseName token }, true⟩

section OfTest

variable {target : ConnectionTarget} {size : Nat} {token : String} {closing : Option StoreError}
  {store : Store}

theorem work_of_makes (hmakes : Makes target token store) :
    store.work .direct target.serverOptions id
      (ServerWork.createDatabase (testDatabaseName token)) = (.ok (), made token store) := by
  rw [Store.work_of_connected hmakes.connects, ServerWork.outcome_createDatabase, hmakes.unstruck]
  simp only [hmakes.fresh]
  rfl

/-- A connection that cannot be closed ends the making before there is a migration. -/
theorem ofTest_of_unclosed {error : StoreError} (hmakes : Makes target token store) :
    ofTest target size token (some error) store =
      ⟨.error (.statement error), made token store, []⟩ := by
  simp only [ofTest, work_of_makes hmakes]

/-- Where a database can be made it is there, empty, when its migration begins. -/
theorem ofTest_of_closed (size : Nat) (hmakes : Makes target token store) :
    (ofTest target size token none store).result =
        ((forTest target token).migratePooled ⟨.ofSize size, made token store⟩).1.map
          (fun _ => forTest target token) ∧
      (ofTest target size token none store).store =
        ((forTest target token).migratePooled ⟨.ofSize size, made token store⟩).2.store := by
  simp only [ofTest, work_of_makes hmakes]
  exact ⟨rfl, rfl⟩

/-- Where a database cannot be made, there is no attempt to migrate one, and none is there that was
not there before. -/
theorem ofTest_of_not_makes (size : Nat) (closing : Option StoreError)
    (hnot : ¬ Makes target token store) :
    ∃ cause, (ofTest target size token closing store).result = .error (.statement cause) ∧
      (ofTest target size token closing store).store.server.databases =
        store.server.databases := by
  obtain ⟨cause, after, hwork, hsame⟩ : ∃ cause after,
      store.work .direct target.serverOptions id
        (ServerWork.createDatabase (testDatabaseName token)) = (.error cause, after) ∧
      after.server.databases = store.server.databases := by
    cases hrefusal : store.refusal? .direct target.serverOptions with
    | some refusal => exact ⟨refusal, store, Store.work_of_refused hrefusal, rfl⟩
    | none =>
      rw [Store.work_of_connected hrefusal, ServerWork.outcome_createDatabase]
      cases hstruck : store.server.struck? .createDatabase with
      | some failure => exact ⟨_, _, rfl, rfl⟩
      | none =>
        have htaken : store.server.has (testDatabaseName token) = true := by
          by_contra hfree
          exact hnot ⟨hrefusal, hstruck, Bool.eq_false_iff.mpr hfree⟩
        simp only [htaken]
        exact ⟨_, _, rfl, rfl⟩
  simp only [ofTest, hwork]
  exact ⟨cause, rfl, hsame⟩

theorem databases_made (hmakes : Makes target token store) :
    (made token store).server.databases =
      store.server.databases ++ [(testDatabaseName token, .empty)] :=
  Server.databases_setDatabase_new hmakes.fresh .empty

theorem refusal?_made (hmakes : Makes target token store) :
    (made token store).refusal? .pooled (forTest target token).target.options = none := by
  have hconnects := hmakes.connects
  have hpassword : (made token store).server.password = store.server.password :=
    Server.password_setDatabase ..
  unfold Store.refusal? at *
  rw [hpassword, show (made token store).reach = store.reach from rfl]
  cases hreach : store.reach with
  | server =>
    rw [hreach] at hconnects
    exact hconnects
  | silence => simp [hreach] at hconnects
  | nowhere => simp [hreach] at hconnects

theorem database_made (hmakes : Makes target token store) :
    (made token store).server.database (testDatabaseName token) = .empty :=
  Server.database_last hmakes.fresh (databases_made hmakes)

theorem struck?_made (token : String) (store : Store) (statement : Statement) :
    (made token store).server.struck? statement = store.server.struck? statement := by
  simp [made, Server.struck?]

theorem sound_empty : Migration.Sound .empty :=
  ⟨by simp [Database.empty], by simp [Database.empty], fun _ => rfl⟩

theorem lends_made (hmakes : Makes target token store) (hroom : 0 < size) :
    PooledStore.Lends ⟨.ofSize size, made token store⟩ (forTest target token).target.options :=
  PooledStore.lends_ofSize_iff.mpr ⟨hroom, refusal?_made hmakes⟩

/-- A database that was made for a test is migrated if there is room for a connection and no failure
waits for a statement of its migration. -/
theorem migratePooled_made_eq_ok_iff (hmakes : Makes target token store) :
    ((forTest target token).migratePooled ⟨.ofSize size, made token store⟩).1 = .ok () ↔
      0 < size ∧
        ∀ statement ∈ Migration.statements .empty, store.server.struck? statement = none := by
  have hempty : (made token store).server.database (forTest target token).target.database =
      .empty := database_made hmakes
  constructor
  · intro hok
    obtain ⟨hlends, _, hclear, _⟩ := migratePooled_ok hok
    refine ⟨(PooledStore.lends_ofSize_iff.mp hlends).1, ?_⟩
    simpa only [hempty, struck?_made] using hclear.unstruck
  · rintro ⟨hroom, hunstruck⟩
    refine (migratePooled_eq_ok_iff (lends_made hmakes hroom)).mpr ⟨?_, ?_⟩
    · rw [hempty]
      exact sound_empty
    · simpa only [hempty, struck?_made] using hunstruck

/-- The migration of a database that was made for a test, if it fails, leaves it empty, unless it
failed where the lock is given back. -/
theorem databases_of_migratePooled_made_error {error : ManagerError}
    (hmakes : Makes target token store)
    (herror : ((forTest target token).migratePooled ⟨.ofSize size, made token store⟩).1 =
      .error error) :
    ((forTest target token).migratePooled
        ⟨.ofSize size, made token store⟩).2.store.server.databases =
      store.server.databases ++ [(testDatabaseName token,
        if 0 < size ∧ store.server.struck? .advisoryUnlock ≠ none then
          ⟨some [], [Migration.record]⟩ else .empty)] := by
  have hempty : (made token store).server.database (forTest target token).target.database =
      .empty := database_made hmakes
  have hsound : Migration.Sound
      ((made token store).server.database (forTest target token).target.database) := by
    rw [hempty]
    exact sound_empty
  rw [databases_migrate_last (m := forTest target token)
    (p := ⟨.ofSize size, made token store⟩) hmakes.fresh (databases_made hmakes)]
  split
  next hlate =>
    obtain ⟨hroom, hstruck⟩ := hlate
    rw [← struck?_made token store] at hstruck
    obtain ⟨_, ⟨_, hmigrated⟩ | ⟨hsome, _⟩⟩ := migratePooled_of_struck_unlock
      (p := ⟨.ofSize size, made token store⟩) (lends_made hmakes hroom) hsound hstruck
    · rw [hmigrated.database, hempty]
      rfl
    · rw [hempty] at hsome
      exact absurd rfl hsome
  next hearly =>
    obtain ⟨hagrees, _⟩ | ⟨_, _, _, hstruck, _⟩ := migratePooled_error herror
    · rw [hagrees.server.database, hempty]
      rfl
    · obtain rfl | hroom := Nat.eq_zero_or_pos size
      · have hnot : (Pool.ofSize 0).lend (made token store)
            (forTest target token).target.options = .error .poolTimedOut := rfl
        rw [migratePooled, PooledStore.work_of_not_lent hnot, hempty]
        rfl
      · rw [struck?_made] at hstruck
        exact absurd ⟨hroom, hstruck⟩ hearly

/-- A manager is made exactly where the database can be made and nothing disturbs what comes behind
it. -/
theorem ofTest_eq_ok (hmakes : Makes target token store)
    (hcalm : ¬ Abandons target size token closing store) :
    (ofTest target size token closing store).result = .ok (forTest target token) := by
  have hopen : closing = none := by
    by_contra hunclosed
    exact hcalm ⟨hmakes, .inl hunclosed⟩
  have hroom : 0 < size := Nat.pos_of_ne_zero fun hnone => hcalm ⟨hmakes, .inr (.inl hnone)⟩
  have hunstruck : ∀ statement ∈ Migration.statements .empty,
      store.server.struck? statement = none := by
    intro statement hstatement
    by_contra hstruck
    exact hcalm ⟨hmakes, .inr (.inr ⟨statement, hstatement, hstruck⟩)⟩
  subst hopen
  rw [(ofTest_of_closed size hmakes).1,
    (migratePooled_made_eq_ok_iff hmakes).mpr ⟨hroom, hunstruck⟩]
  rfl

/-- What disturbs the making behind the new database leaves it behind the others, without a
manager. -/
theorem ofTest_of_abandons (habandons : Abandons target size token closing store) :
    (∃ error, (ofTest target size token closing store).result = .error error) ∧
      (ofTest target size token closing store).store.server.databases =
        store.server.databases ++ [(testDatabaseName token,
          if closing = none ∧ 0 < size ∧ store.server.struck? .advisoryUnlock ≠ none then
            ⟨some [], [Migration.record]⟩ else .empty)] := by
  have hmakes := habandons.toMakes
  cases closing with
  | some error =>
    rw [ofTest_of_unclosed hmakes]
    exact ⟨⟨_, rfl⟩, by simpa using databases_made hmakes⟩
  | none =>
    obtain ⟨hresult, hstore⟩ := ofTest_of_closed size hmakes
    cases hmigrated :
        ((forTest target token).migratePooled ⟨.ofSize size, made token store⟩).1 with
    | ok done =>
      obtain ⟨hroom, hcalm⟩ := (migratePooled_made_eq_ok_iff hmakes).mp hmigrated
      obtain hunclosed | hnone | ⟨statement, hstatement, hstruck⟩ := habandons.disturbed
      · exact absurd rfl hunclosed
      · omega
      · exact absurd (hcalm statement hstatement) hstruck
    | error error =>
      rw [hresult, hstore, hmigrated, databases_of_migratePooled_made_error hmakes hmigrated]
      exact ⟨⟨error, rfl⟩, by simp only [true_and]⟩

end OfTest

/-- A database for a test is made as a whole or not at all, but for one kind of case. Once it is
there, the connection that made it may fail to be closed, there may be no room for another one, or
its migration may fail: then the new database is left behind, and there is no manager that could
remove it. It is empty, unless its migration only failed where the lock is given back. In every
other case an error means that the server has the databases that it had, with what they held. -/
theorem ofTest_atomic_unless_abandons (target : ConnectionTarget) (size : Nat) (token : String)
    (closing : Option StoreError) (store : Store) :
    let outcome := ofTest target size token closing store
    (¬ Abandons target size token closing store → ∀ error, outcome.result = .error error →
      (∃ cause, error = .statement cause) ∧
        outcome.store.server.databases = store.server.databases) ∧
    (Abandons target size token closing store →
      (∃ error, outcome.result = .error error) ∧
        outcome.store.server.databases = store.server.databases ++ [(testDatabaseName token,
          if closing = none ∧ 0 < size ∧ store.server.struck? .advisoryUnlock ≠ none then
            ⟨some [], [Migration.record]⟩ else .empty)]) := by
  intro outcome
  refine ⟨?_, ofTest_of_abandons⟩
  intro hnot error herror
  by_cases hmakes : Makes target token store
  · have hok : outcome.result = _ := ofTest_eq_ok hmakes hnot
    rw [hok] at herror
    cases herror
  · obtain ⟨cause, hresult, hsame⟩ := ofTest_of_not_makes size closing hmakes
    have hcause : outcome.result = _ := hresult
    rw [hcause] at herror
    exact ⟨⟨cause, (Except.error.inj herror).symm⟩, hsame⟩

/-- The lock of the migration is not granted, and the new database stays beside the old one. -/
theorem ofTest_abandons_unlocked :
    let target : ConnectionTarget := ⟨"postgres", "", 5432, "localhost", "waitlist", .disable⟩
    let store : Store := ⟨.server, ⟨[("waitlist", .empty)], 0,
      some ⟨"lock", "57014", "canceling statement"⟩, none⟩⟩
    (ofTest target 5 "0a" none store).result =
        .error (.migration (.execute (.database "canceling statement"))) ∧
      (ofTest target 5 "0a" none store).store.server.databases =
        [("waitlist", .empty), ("test_0a", .empty)] := by
  intro target store
  exact ⟨by decide +kernel, by decide +kernel⟩

end Manager

end WaitingList

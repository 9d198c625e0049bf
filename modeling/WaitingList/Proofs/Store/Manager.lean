import WaitingList.Proofs.Store.Migration
import WaitingList.Proofs.Store.Upsert
import WaitingList.Store.Manager

namespace WaitingList

namespace Store

/-- A store whose server holds what that of another one holds, and is reached in the same way. -/
structure Agrees (store after : Store) : Prop where
  reach : after.reach = store.reach
  server : store.server.Agrees after.server

theorem Agrees.refl (store : Store) : store.Agrees store := ⟨rfl, .refl _⟩

theorem Agrees.arm (store : Store) (failure : Failure) : store.Agrees (store.arm failure) :=
  ⟨rfl, fun _ => rfl, rfl, rfl⟩

section Work

variable {ε α : Type} {work : ServerWork ε α} {good : α → Server → Prop} {bad : Server → Prop}
  {store after : Store} {use : ConnectionUse} {options : ConnectionOptions} {fault : StoreError → ε}

/-- With a connection, work comes to what it comes to on the server. -/
theorem work_of_connected (hconnects : store.refusal? use options = none) :
    store.work use options fault work =
      ((work.outcome store.server).1, { store with server := (work.outcome store.server).2 }) := by
  simp only [Store.work, hconnects]
  rfl

/-- Without a connection there is no work, and the store stays as it is. -/
theorem work_of_refused {refusal : StoreError}
    (hrefusal : store.refusal? use options = some refusal) :
    store.work use options fault work = (.error (fault refusal), store) := by
  simp only [Store.work, hrefusal]

theorem work_ok {a : α} (hwork : work.Ends store.server good bad)
    (hok : store.work use options fault work = (.ok a, after)) :
    store.refusal? use options = none ∧ after.reach = store.reach ∧ good a after.server := by
  cases hrefusal : store.refusal? use options with
  | some refusal =>
    rw [work_of_refused hrefusal] at hok
    cases hok
  | none =>
    rw [work_of_connected hrefusal, Prod.mk.injEq] at hok
    obtain ⟨hresult, rfl⟩ := hok
    exact ⟨rfl, rfl, hwork.of_ok hresult⟩

/-- Work that fails had no connection, or was done on the server and failed there. -/
theorem work_error {error : ε} (hwork : work.Ends store.server good bad)
    (herror : store.work use options fault work = (.error error, after)) :
    (∃ refusal, store.refusal? use options = some refusal) ∧ after = store ∨
      store.refusal? use options = none ∧ after.reach = store.reach ∧ bad after.server := by
  cases hrefusal : store.refusal? use options with
  | some refusal =>
    rw [work_of_refused hrefusal, Prod.mk.injEq] at herror
    exact .inl ⟨⟨refusal, rfl⟩, herror.2.symm⟩
  | none =>
    rw [work_of_connected hrefusal, Prod.mk.injEq] at herror
    obtain ⟨hresult, rfl⟩ := herror
    exact .inr ⟨rfl, rfl, hwork.of_error hresult⟩

end Work

end Store

namespace PooledStore

/-- A connection for the options is to be had of the pool. -/
def Lends (p : PooledStore) (options : ConnectionOptions) : Prop :=
  ∃ pool, p.pool.lend p.store options = .ok pool

section Work

variable {ε α : Type} {work : ServerWork ε α} {good : α → Server → Prop} {bad : Server → Prop}
  {p : PooledStore} {options : ConnectionOptions} {fault : StoreError → ε}

theorem work_of_lent {pool : Pool} (hlend : p.pool.lend p.store options = .ok pool) :
    p.work options fault work =
      ((work.outcome p.store.server).1,
        ⟨pool.takeBack, { p.store with server := (work.outcome p.store.server).2 }⟩) := by
  simp only [PooledStore.work, hlend]
  rfl

/-- Without a connection there is no work, and pool and store stay as they are. -/
theorem work_of_not_lent {refusal : StoreError}
    (hlend : p.pool.lend p.store options = .error refusal) :
    p.work options fault work = (.error (fault refusal), p) := by
  simp only [PooledStore.work, hlend]

theorem work_ok {a : α} (hwork : work.Ends p.store.server good bad)
    (hok : (p.work options fault work).1 = .ok a) :
    p.Lends options ∧ (p.work options fault work).2.store.reach = p.store.reach ∧
      good a (p.work options fault work).2.store.server := by
  cases hlend : p.pool.lend p.store options with
  | error refusal =>
    rw [work_of_not_lent hlend] at hok
    cases hok
  | ok pool =>
    rw [work_of_lent hlend] at hok ⊢
    exact ⟨⟨pool, hlend⟩, rfl, hwork.of_ok hok⟩

/-- Work over a pool that fails had no connection, or was done on the server and failed there. -/
theorem work_error {error : ε} (hwork : work.Ends p.store.server good bad)
    (herror : (p.work options fault work).1 = .error error) :
    ¬ p.Lends options ∧ (p.work options fault work).2 = p ∨
      p.Lends options ∧ (p.work options fault work).2.store.reach = p.store.reach ∧
        bad (p.work options fault work).2.store.server := by
  cases hlend : p.pool.lend p.store options with
  | error refusal =>
    rw [work_of_not_lent hlend]
    refine .inl ⟨?_, rfl⟩
    rintro ⟨pool, hlent⟩
    rw [hlend] at hlent
    cases hlent
  | ok pool =>
    rw [work_of_lent hlend] at herror ⊢
    exact .inr ⟨⟨pool, hlend⟩, rfl, hwork.of_error herror⟩

/-- Work whose errors are all told in one way, a connection that is not lent included, ends with no
other errors. -/
theorem work_adapt_error {ε' : Type} {f : ε → ε'} {error : ε'}
    (herror : (p.work options (fun refusal => f (fault refusal)) (ExceptT.adapt f work)).1 =
      .error error) : ∃ cause, error = f cause := by
  cases hlend : p.pool.lend p.store options with
  | error refusal =>
    rw [work_of_not_lent hlend] at herror
    exact ⟨fault refusal, (Except.error.inj herror).symm⟩
  | ok pool =>
    rw [work_of_lent hlend, ServerWork.outcome_adapt] at herror
    cases hresult : (work.outcome p.store.server).1 with
    | ok a => simp [hresult, Except.mapError] at herror
    | error cause =>
      rw [hresult] at herror
      exact ⟨cause, (Except.error.inj herror).symm⟩

/-- Work where there is always room for a connection is work over a new pool. -/
theorem work_new (store : Store) (work : ServerWork ε α) :
    store.work .pooled options fault work =
      ((PooledStore.work ⟨.ofSize 1, store⟩ options fault work).1,
        (PooledStore.work ⟨.ofSize 1, store⟩ options fault work).2.store) := by
  cases hrefusal : store.refusal? .pooled options with
  | some refusal =>
    have hlend : (Pool.ofSize 1).lend store options = .error refusal := by
      simp [Pool.lend, Pool.ofSize, hrefusal]
    rw [Store.work_of_refused hrefusal, work_of_not_lent hlend]
  | none =>
    have hlend : (Pool.ofSize 1).lend store options = .ok ⟨1, 0, 1⟩ := by
      simp [Pool.lend, Pool.ofSize, hrefusal]
    rw [Store.work_of_connected hrefusal, work_of_lent hlend]

/-- A pool of which no connection has been asked for yet lends one if it has room and the store does
not refuse it. -/
theorem lends_ofSize_iff {size : Nat} {store : Store} : Lends ⟨.ofSize size, store⟩ options ↔
    0 < size ∧ store.refusal? .pooled options = none := by
  by_cases hroom : 0 < size
  · cases hrefusal : store.refusal? .pooled options with
    | some refusal => simp [Lends, Pool.lend, Pool.ofSize, hrefusal, hroom]
    | none => simp [Lends, Pool.lend, Pool.ofSize, hrefusal, hroom]
  · simp [Lends, Pool.lend, Pool.ofSize, hroom]

end Work

end PooledStore

namespace Manager

variable {m : Manager} {email : String} {store after : Store} {p : PooledStore}

/-- A manager's pool lends it a connection to a database that is there. -/
structure Connects (m : Manager) (p : PooledStore) : Prop where
  lends : p.Lends m.target.options
  there : p.store.server.has m.target.database = true

/-- An upsert that is answered with success wrote the address once into the manager's database. -/
theorem upsert_ok (hok : m.upsert email store = (.ok (), after)) :
    after.reach = store.reach ∧ store.server.Wrote after.server m.target.database email :=
  (Store.work_ok (ServerWork.upsert_effect m.target.database email store.server) hok).2

theorem upsert_error {error : StoreError} (herror : m.upsert email store = (.error error, after)) :
    store.Agrees after := by
  have hwork := ServerWork.upsert_effect m.target.database email store.server
  obtain ⟨_, rfl⟩ | ⟨_, hreach, hagrees⟩ := Store.work_error hwork herror
  · exact .refl after
  · exact ⟨hreach, hagrees⟩

/-- A migration that succeeds had a connection and a clear way, and met no failure, so one that
waits goes on waiting. -/
theorem migratePooled_ok (hok : (m.migratePooled p).1 = .ok ()) :
    p.Lends m.target.options ∧ (m.migratePooled p).2.store.reach = p.store.reach ∧
      Migration.Clear p.store.server m.target.database ∧
      (m.migratePooled p).2.store.server.armed = p.store.server.armed ∧
      Migration.Applied p.store.server (m.migratePooled p).2.store.server m.target.database :=
  PooledStore.work_ok (Migration.run_ends p.store.server m.target.database).adapt hok

/-- A migration that fails leaves the store as it was, unless it came to where it gives its lock
back and only failed there. -/
theorem migratePooled_error {error : ManagerError}
    (herror : (m.migratePooled p).1 = .error error) :
    p.store.Agrees (m.migratePooled p).2.store ∧
        (p.Lends m.target.options → ¬ Migration.Ready p.store.server m.target.database) ∨
      p.Lends m.target.options ∧ (m.migratePooled p).2.store.reach = p.store.reach ∧
        Migration.Ready p.store.server m.target.database ∧
        p.store.server.struck? .advisoryUnlock ≠ none ∧
        Migration.Applied p.store.server (m.migratePooled p).2.store.server
          m.target.database := by
  have hends := Migration.run_ends p.store.server m.target.database
  obtain ⟨hnot, hafter⟩ | ⟨hlends, hreach, ⟨hagrees, hnot⟩ | ⟨hready, hstruck, happlied⟩⟩ :=
    PooledStore.work_error hends.adapt herror
  · have hsame : (m.migratePooled p).2 = p := hafter
    rw [hsame]
    exact .inl ⟨.refl p.store, fun hlends => absurd hlends hnot⟩
  · exact .inl ⟨⟨hreach, hagrees⟩, fun _ => hnot⟩
  · exact .inr ⟨hlends, hreach, hready, hstruck, happlied⟩

theorem migratePooled_error_kind {error : ManagerError}
    (herror : (m.migratePooled p).1 = .error error) : ∃ cause, error = .migration cause :=
  PooledStore.work_adapt_error herror

/-- A migration leaves the store as it was or applies as a whole to the manager's database. -/
theorem migratePooled_effect (m : Manager) (p : PooledStore) :
    p.store.Agrees (m.migratePooled p).2.store ∨
      (m.migratePooled p).2.store.reach = p.store.reach ∧
        p.store.server.Migrated (m.migratePooled p).2.store.server m.target.database := by
  have happlied (hreach : (m.migratePooled p).2.store.reach = p.store.reach)
      (happlied : Migration.Applied p.store.server (m.migratePooled p).2.store.server
        m.target.database) : p.store.Agrees (m.migratePooled p).2.store ∨
      (m.migratePooled p).2.store.reach = p.store.reach ∧
        p.store.server.Migrated (m.migratePooled p).2.store.server m.target.database := by
    obtain ⟨_, hmigrated⟩ | ⟨_, hagrees⟩ := happlied
    · exact .inr ⟨hreach, hmigrated⟩
    · exact .inl ⟨hreach, hagrees⟩
  cases hresult : (m.migratePooled p).1 with
  | ok done =>
    obtain ⟨_, hreach, _, _, hdone⟩ := migratePooled_ok hresult
    exact happlied hreach hdone
  | error error =>
    obtain ⟨hagrees, _⟩ | ⟨_, hreach, _, _, hdone⟩ := migratePooled_error hresult
    · exact .inl hagrees
    · exact happlied hreach hdone

/-- Where the pool lends a connection, a migration succeeds exactly where the way is clear. -/
theorem migratePooled_eq_ok_iff (hlends : p.Lends m.target.options) :
    (m.migratePooled p).1 = .ok () ↔ Migration.Clear p.store.server m.target.database := by
  constructor
  · intro hok
    obtain ⟨_, _, hclear, _⟩ := migratePooled_ok hok
    exact hclear
  · intro hclear
    cases hresult : (m.migratePooled p).1 with
    | ok done => rfl
    | error error =>
      obtain ⟨_, hnot⟩ | ⟨_, _, _, hstruck, _⟩ := migratePooled_error hresult
      · exact absurd hclear.ready (hnot hlends)
      · exact absurd hclear.unlock hstruck

/-- A migration where there is always room for a connection is one over a new pool. -/
theorem migrate_eq (m : Manager) (store : Store) :
    (m.migrate store).result = (m.migratePooled ⟨.ofSize 1, store⟩).1 ∧
      (m.migrate store).store = (m.migratePooled ⟨.ofSize 1, store⟩).2.store := by
  rw [← Prod.mk.injEq]
  exact PooledStore.work_new store
    (ExceptT.adapt ManagerError.migration (Migration.run m.target.database))

theorem migrate_effect (m : Manager) (store : Store) :
    store.Agrees (m.migrate store).store ∨
      (m.migrate store).store.reach = store.reach ∧
        store.server.Migrated (m.migrate store).store.server m.target.database := by
  rw [(m.migrate_eq store).2]
  exact m.migratePooled_effect ⟨.ofSize 1, store⟩

end Manager

end WaitingList

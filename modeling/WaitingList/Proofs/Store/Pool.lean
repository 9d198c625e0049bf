import WaitingList.Proofs.Store.Frame

namespace WaitingList

namespace ServerWork

/-- An upsert keeps the password that the server asks for, however it ends. -/
theorem upsert_keeps_password (database email : String) (password : Option String) :
    (upsert database email).Keeps (·.password = password) := by
  intro s hs
  refine (upsert_effect database email s).mono ?_ ?_
  · intro _ after hwrote
    exact hwrote.password.trans hs
  · intro after hagrees
    exact hagrees.password.trans hs

end ServerWork

namespace Server

/-- The password has no part in what a database holds, nor in the failure that waits. -/
theorem beside_password (name : String) (password : Option String) :
    Server.Beside (·.password = password) name where
  setDatabase s d hs := (password_setDatabase s name d).trans hs
  disarm _ hs := hs

end Server

namespace Store

/-- Whether a connection is refused is told by what answers and by the password that is asked
for. -/
theorem refusal?_congr (store after : Store) (hreach : after.reach = store.reach)
    (hpassword : after.server.password = store.server.password) (use : ConnectionUse)
    (options : ConnectionOptions) : after.refusal? use options = store.refusal? use options := by
  simp only [refusal?, hreach, hpassword]

end Store

namespace PooledStore

variable {p : PooledStore} {options : ConnectionOptions}

/-- A pool of which no connection is at work, and that has room for one. Those that it holds were
made on the store as it is now reached. -/
structure Resting (p : PooledStore) (options : ConnectionOptions) : Prop where
  room : 0 < p.pool.size
  lent : p.pool.lent = 0
  bounded : p.pool.idle ≤ p.pool.size
  connects : 0 < p.pool.idle → p.store.refusal? .pooled options = none

theorem Resting.ofSize {size : Nat} (hsize : 0 < size) (store : Store)
    (options : ConnectionOptions) : Resting ⟨.ofSize size, store⟩ options where
  room := hsize
  lent := rfl
  bounded := Nat.zero_le size
  connects hidle := absurd hidle (Nat.lt_irrefl 0)

/-- What happens to a store that is reached as before leaves its pool at rest. -/
theorem Resting.store {after : Store} (h : p.Resting options)
    (hreach : after.reach = p.store.reach)
    (hpassword : after.server.password = p.store.server.password) :
    Resting ⟨p.pool, after⟩ options where
  room := h.room
  lent := h.lent
  bounded := h.bounded
  connects hidle :=
    (Store.refusal?_congr p.store after hreach hpassword .pooled options).trans (h.connects hidle)

section Work

variable {ε α : Type} {work : ServerWork ε α} {fault : StoreError → ε}

/-- A pool at rest that cannot lend has none left, and the store refuses it another. -/
theorem lend_of_refused {refusal : StoreError} (h : p.Resting options)
    (hrefusal : p.store.refusal? .pooled options = some refusal) :
    p.pool.lend p.store options = .error refusal := by
  have hidle : p.pool.idle = 0 := by
    by_contra hsome
    rw [h.connects (Nat.pos_of_ne_zero hsome)] at hrefusal
    cases hrefusal
  have hroom : p.pool.lent < p.pool.size := h.lent ▸ h.room
  simp only [Pool.lend, hroom, if_true, hidle, hrefusal]

/-- A pool at rest on a store that can be connected to lends, and is at rest again once it has its
connection back. -/
theorem lend_of_connected (h : p.Resting options)
    (hconnects : p.store.refusal? .pooled options = none) :
    ∃ pool, p.pool.lend p.store options = .ok pool ∧ pool.takeBack.size = p.pool.size ∧
      pool.takeBack.lent = 0 ∧ pool.takeBack.idle ≤ pool.takeBack.size := by
  obtain ⟨⟨size, idle, lent⟩, store⟩ := p
  obtain ⟨hroom, rfl, hbounded, _⟩ := h
  dsimp only at hroom hbounded hconnects
  cases idle with
  | zero => exact ⟨⟨size, 0, 1⟩, by simp [Pool.lend, hroom, hconnects], rfl, rfl, hroom⟩
  | succ idle => exact ⟨⟨size, idle, 1⟩, by simp [Pool.lend, hroom], rfl, rfl, hbounded⟩

/-- Work over a pool at rest comes to what it comes to on the store, and the pool is at rest again
afterwards: whether the work succeeds, fails or is never begun makes no difference to it. -/
theorem work_of_resting (h : p.Resting options)
    (hkeeps : work.Keeps (·.password = p.store.server.password)) :
    (p.work options fault work).1 = (p.store.work .pooled options fault work).1 ∧
      (p.work options fault work).2.store = (p.store.work .pooled options fault work).2 ∧
      (p.work options fault work).2.Resting options := by
  cases hrefusal : p.store.refusal? .pooled options with
  | some refusal =>
    rw [work_of_not_lent (lend_of_refused h hrefusal), Store.work_of_refused hrefusal]
    exact ⟨rfl, rfl, h⟩
  | none =>
    have hpassword : (p.store.work .pooled options fault work).2.server.password =
        p.store.server.password := Store.work_keeps hkeeps rfl
    obtain ⟨pool, hlend, hsize, hlent, hbounded⟩ := lend_of_connected h hrefusal
    rw [Store.work_of_connected hrefusal] at hpassword
    rw [work_of_lent hlend, Store.work_of_connected hrefusal]
    have hafter := Store.refusal?_congr p.store
      { p.store with server := (work.outcome p.store.server).2 } rfl hpassword .pooled options
    exact ⟨rfl, rfl, hsize ▸ h.room, hlent, hbounded, fun _ => hafter.trans hrefusal⟩

end Work

/-- A pool that has never got a connection, since the store refuses every one. -/
structure Barred (p : PooledStore) (options : ConnectionOptions) : Prop where
  idle : p.pool.idle = 0
  refused : ∃ refusal, p.store.refusal? .pooled options = some refusal

theorem Barred.lend (h : p.Barred options) :
    ∃ refusal, p.pool.lend p.store options = .error refusal := by
  obtain ⟨refusal, hrefusal⟩ := h.refused
  unfold Pool.lend
  rw [h.idle, hrefusal]
  split
  · exact ⟨refusal, rfl⟩
  · exact ⟨.poolTimedOut, rfl⟩

/-- Over a pool that never got a connection nothing is done. -/
theorem Barred.work {ε α : Type} (h : p.Barred options) (work : ServerWork ε α)
    (fault : StoreError → ε) :
    ∃ refusal, p.work options fault work = (.error (fault refusal), p) := by
  obtain ⟨refusal, hlend⟩ := h.lend
  exact ⟨refusal, work_of_not_lent hlend⟩

end PooledStore

namespace Manager

variable {m : Manager} {p : PooledStore}

theorem migratePooled_of_resting (h : p.Resting m.target.options) :
    (m.migratePooled p).1 = (m.migrate p.store).result ∧
      (m.migratePooled p).2.store = (m.migrate p.store).store ∧
      (m.migratePooled p).2.Resting m.target.options :=
  PooledStore.work_of_resting h
    ((Migration.run_keeps (Server.beside_password m.target.database _)).adapt _)

theorem upsertPooled_of_resting (h : p.Resting m.target.options) (email : String) :
    (m.upsertPooled email p).1 = (m.upsert email p.store).1 ∧
      (m.upsertPooled email p).2.store = (m.upsert email p.store).2 ∧
      (m.upsertPooled email p).2.Resting m.target.options :=
  PooledStore.work_of_resting h (ServerWork.upsert_keeps_password m.target.database email _)

end Manager

end WaitingList

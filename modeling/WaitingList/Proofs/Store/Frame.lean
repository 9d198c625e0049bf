import WaitingList.Proofs.Store.Manager

namespace WaitingList

namespace ServerWork

variable {ε ε' α β : Type} {P : Server → Prop}

/-- Work that keeps a property of the server, however it ends. -/
def Keeps (P : Server → Prop) (work : ServerWork ε α) : Prop :=
  ∀ s, P s → work.Ends s (fun _ => P) P

namespace Keeps

theorem bind {work : ServerWork ε α} {next : α → ServerWork ε β} (hwork : work.Keeps P)
    (hnext : ∀ a, (next a).Keeps P) : (work >>= next).Keeps P := by
  intro s hs
  exact (hwork s hs).bind fun a after hafter => hnext a after hafter

theorem throw_bind {error : ε} {next : α → ServerWork ε β} :
    Keeps P (MonadExcept.throw error >>= next) := by
  intro s hs
  exact Ends.throw_bind hs

theorem adapt {work : ServerWork ε α} (f : ε → ε') (hwork : work.Keeps P) :
    Keeps P (ExceptT.adapt f work : ServerWork ε' α) := by
  intro s hs
  exact (hwork s hs).adapt

theorem tryCatch {work : ServerWork ε α} {handler : ε → ServerWork ε α} (hwork : work.Keeps P)
    (hhandler : ∀ error, (handler error).Keeps P) :
    Keeps P (MonadExcept.tryCatch work handler) := by
  intro s hs
  exact (hwork s hs).tryCatch fun error after hafter => hhandler error after hafter

end Keeps

end ServerWork

/-- A property of servers that neither a database of one name nor the failure that waits has a part
in. -/
structure Server.Beside (P : Server → Prop) (name : String) : Prop where
  setDatabase : ∀ s d, P s → P (s.setDatabase name d)
  disarm : ∀ s : Server, P s → P s.disarm

namespace Migration

open ServerWork

section Beside

variable {P : Server → Prop} {name : String} (hbeside : Server.Beside P name)

include hbeside

theorem attemptIn_keeps (statement : Statement) : (attemptIn name statement).Keeps P := by
  intro s hs
  have htouched : P (s.touch name) := hbeside.setDatabase s _ hs
  rw [Ends, outcome_attemptIn]
  cases s.struck? statement with
  | some failure => exact hbeside.disarm _ htouched
  | none => exact htouched

theorem put_keeps (d : Database) : (put name d).Keeps P :=
  fun s hs => hbeside.setDatabase s d hs

theorem execute_keeps (statement : Statement) : (execute name statement).Keeps P :=
  (attemptIn_keeps hbeside statement).adapt _

theorem onLock_keeps (statement : Statement) : (onLock name statement).Keeps P := by
  refine (execute_keeps hbeside _).bind fun _ => (execute_keeps hbeside _).bind fun _ => ?_
  exact fun _ hs => hs

theorem createTable_keeps : (createTable name).Keeps P := by
  refine (attemptIn_keeps hbeside _).bind fun d => ?_
  dsimp only
  split
  · exact .throw_bind
  · exact put_keeps hbeside _

theorem note_keeps : (note name).Keeps P :=
  (attemptIn_keeps hbeside _).bind fun _ => put_keeps hbeside _

/-- The transaction is taken back by putting the database in place as it was. -/
theorem apply_keeps : (apply name).Keeps P := by
  refine (execute_keeps hbeside _).bind fun before => .tryCatch ?_ ?_
  · refine ((createTable_keeps hbeside).adapt _).bind fun _ => ?_
    exact (note_keeps hbeside).adapt _
  · intro error s hs
    exact hbeside.setDatabase s before hs

/-- A migration keeps whatever its one database has no part in, however it ends. -/
theorem run_keeps : (run name).Keeps P := by
  refine (onLock_keeps hbeside _).bind fun _ => (execute_keeps hbeside _).bind fun _ => ?_
  refine (execute_keeps hbeside _).bind fun d => ?_
  dsimp only
  split
  · exact .throw_bind
  refine (execute_keeps hbeside _).bind fun d => ?_
  split
  · exact .throw_bind
  split
  · exact (apply_keeps hbeside).bind fun _ => onLock_keeps hbeside _
  · exact onLock_keeps hbeside _

end Beside

end Migration

/-- Work that keeps a property of the server keeps it whether or not the store can be reached. -/
theorem Store.work_keeps {ε α : Type} {work : ServerWork ε α} {P : Server → Prop} {store : Store}
    {use : ConnectionUse} {options : ConnectionOptions} {fault : StoreError → ε}
    (hkeeps : work.Keeps P) (hstore : P store.server) :
    P (store.work use options fault work).2.server := by
  cases hrefusal : store.refusal? use options with
  | some refusal =>
    rw [work_of_refused hrefusal]
    exact hstore
  | none =>
    rw [work_of_connected hrefusal]
    have hends := hkeeps store.server hstore
    cases hresult : (work.outcome store.server).1 with
    | ok a => exact hends.of_ok hresult
    | error error => exact hends.of_error hresult

/-- Work over a pool that keeps a property of the server keeps it whether or not a connection is
lent. -/
theorem PooledStore.work_keeps {ε α : Type} {work : ServerWork ε α} {P : Server → Prop}
    {p : PooledStore} {options : ConnectionOptions} {fault : StoreError → ε}
    (hkeeps : work.Keeps P) (hp : P p.store.server) :
    P (p.work options fault work).2.store.server := by
  cases hlend : p.pool.lend p.store options with
  | error refusal =>
    rw [work_of_not_lent hlend]
    exact hp
  | ok pool =>
    rw [work_of_lent hlend]
    have hends := hkeeps p.store.server hp
    cases hresult : (work.outcome p.store.server).1 with
    | ok a => exact hends.of_ok hresult
    | error error => exact hends.of_error hresult

namespace Manager

theorem migratePooled_keeps (m : Manager) {p : PooledStore} {P : Server → Prop}
    (hbeside : Server.Beside P m.target.database) (hp : P p.store.server) :
    P (m.migratePooled p).2.store.server :=
  PooledStore.work_keeps ((Migration.run_keeps hbeside).adapt _) hp

theorem migrate_keeps (m : Manager) {store : Store} {P : Server → Prop}
    (hbeside : Server.Beside P m.target.database) (hstore : P store.server) :
    P (m.migrate store).store.server := by
  rw [(m.migrate_eq store).2]
  exact m.migratePooled_keeps hbeside hstore

end Manager

end WaitingList

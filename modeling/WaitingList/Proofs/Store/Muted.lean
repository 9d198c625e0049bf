import WaitingList.Proofs.Store.Lockstep
import WaitingList.Proofs.Store.Manager

namespace WaitingList

/-- The failure without what it says. Which statement it waits for stays. -/
def Failure.muted (failure : Failure) : Failure := { failure with code := "", text := "" }

namespace Server

/-- The server without what the failure says that waits. -/
def muted (s : Server) : Server := { s with armed := s.armed.map Failure.muted }

theorem muted_setDatabase (s : Server) (name : String) (d : Database) :
    (s.setDatabase name d).muted = s.muted.setDatabase name d := by
  have hhas : s.muted.has name = s.has name := rfl
  unfold setDatabase
  rw [hhas]
  split <;> rfl

theorem muted_disarm (s : Server) : s.disarm.muted = s.muted.disarm := rfl

theorem struck?_muted (s : Server) (statement : Statement) :
    s.muted.struck? statement = (s.struck? statement).map Failure.muted := by
  cases harmed : s.armed with
  | none => simp [struck?, muted, harmed]
  | some failure =>
    have hhits : failure.muted.hits statement = failure.hits statement := rfl
    simp only [struck?, muted, harmed, Option.map_some, Option.filter_some, hhits]
    split <;> rfl

section

variable {s s' : Server} (hmuted : s.muted = s'.muted)

include hmuted

theorem database_of_muted (name : String) : s.database name = s'.database name := by
  have hsame : s.muted.database name = s'.muted.database name := by rw [hmuted]
  exact hsame

theorem writes_of_muted : s.writes = s'.writes := by
  have hsame : s.muted.writes = s'.muted.writes := by rw [hmuted]
  exact hsame

theorem setDatabase_of_muted (name : String) (d : Database) :
    (s.setDatabase name d).muted = (s'.setDatabase name d).muted := by
  rw [muted_setDatabase, muted_setDatabase, hmuted]

theorem touch_of_muted (name : String) : (s.touch name).muted = (s'.touch name).muted := by
  rw [touch, touch, database_of_muted hmuted]
  exact setDatabase_of_muted hmuted name _

theorem disarm_of_muted : s.disarm.muted = s'.disarm.muted := by
  rw [muted_disarm, muted_disarm, hmuted]

theorem struck?_cases (statement : Statement) :
    (∃ failure failure', s.struck? statement = some failure ∧
        s'.struck? statement = some failure') ∨
      s.struck? statement = none ∧ s'.struck? statement = none := by
  have hsame : (s.struck? statement).map Failure.muted =
      (s'.struck? statement).map Failure.muted := by
    rw [← struck?_muted, ← struck?_muted, hmuted]
  cases hstruck : s.struck? statement with
  | none =>
    rw [hstruck, Option.map_none] at hsame
    exact .inr ⟨rfl, Option.map_eq_none_iff.mp hsame.symm⟩
  | some failure =>
    rw [hstruck, Option.map_some] at hsame
    obtain ⟨failure', hstruck', _⟩ := Option.map_eq_some_iff.mp hsame.symm
    exact .inl ⟨failure, failure', rfl, hstruck'⟩

end

/-- Servers that differ only in what the failure says hold the same, and a failure that waits on one
of them waits on the other. -/
theorem lockstep_muted : Lockstep (fun s s' => s.muted = s'.muted) Eq where
  struck hmuted statement _ := by
    obtain ⟨_, _, hstruck, hstruck'⟩ | ⟨hnone, hnone'⟩ := struck?_cases hmuted statement
    · rw [hstruck, hstruck']
      rfl
    · rw [hnone, hnone']
  disarm := disarm_of_muted
  database := database_of_muted
  setDatabase hmuted hd name := by
    subst hd
    exact setDatabase_of_muted hmuted name _
  table hd := by rw [hd]
  applied hd := by rw [hd]
  created hd := by rw [hd]
  noted hd _ := by rw [hd]

end Server

namespace ServerWork

variable {ε ε' α β : Type}

/-- Outcomes of two pieces of work that went the same way: what an error says may differ. -/
inductive SameWay : Except ε α × Server → Except ε α × Server → Prop where
  | ok (a : α) {s s' : Server} (hmuted : s.muted = s'.muted) : SameWay (.ok a, s) (.ok a, s')
  | error {error error' : ε} {s s' : Server} (hmuted : s.muted = s'.muted) :
      SameWay (.error error, s) (.error error', s')

/-- Two pieces of work that go the same way on servers that differ only in what the failure says
that waits. -/
def Parallel (work work' : ServerWork ε α) : Prop :=
  ∀ s s' : Server, s.muted = s'.muted → SameWay (work.outcome s) (work'.outcome s')

namespace Parallel

theorem adapt {work work' : ServerWork ε α} (f : ε → ε') (hwork : Parallel work work') :
    Parallel (ExceptT.adapt f work : ServerWork ε' α) (ExceptT.adapt f work') := by
  intro s s' hmuted
  have hsame := hwork s s' hmuted
  rw [outcome_adapt, outcome_adapt]
  generalize work.outcome s = outcome at hsame ⊢
  generalize work'.outcome s' = outcome' at hsame ⊢
  cases hsame with
  | ok a hafter => exact .ok a hafter
  | error hafter => exact .error hafter

/-- An address is written on both servers with one number or on neither. -/
theorem upsert (name email : String) : Parallel (upsert name email) (upsert name email) := by
  intro s s' hmuted
  have htouched := Server.touch_of_muted hmuted name
  have hdatabase := Server.database_of_muted hmuted name
  have hwrites := Server.writes_of_muted hmuted
  rw [outcome_upsert, outcome_upsert]
  obtain ⟨failure, failure', hstruck, hstruck'⟩ | ⟨hunstruck, hunstruck'⟩ :=
    Server.struck?_cases hmuted .upsert
  · rw [hstruck, hstruck']
    exact .error (Server.disarm_of_muted htouched)
  rw [hunstruck, hunstruck', hdatabase]
  cases (s'.database name).rows with
  | none => exact .error htouched
  | some rows =>
    dsimp only
    rw [hwrites]
    refine .ok () ?_
    have hset := Server.setDatabase_of_muted htouched name
      { s'.database name with rows := some (Row.write rows email (s'.writes + 1)) }
    exact congrArg (fun server : Server => { server with writes := s'.writes + 1 }) hset

end Parallel

end ServerWork

namespace Migration

open ServerWork

/-- What a failure says has no part in what a migration does. -/
theorem run_parallel (name : String) : Parallel (run name) (run name) := by
  intro s s' hmuted
  have hmet := run_meet Server.lockstep_muted name s s' hmuted
  generalize (run name).outcome s = outcome at hmet ⊢
  generalize (run name).outcome s' = outcome' at hmet ⊢
  cases hmet with
  | ok _ hafter => exact .ok () hafter
  | error hafter => exact .error hafter

end Migration

namespace Store

/-- The store without what the failure says that waits. -/
def muted (store : Store) : Store := { store with server := store.server.muted }

variable {store store' : Store} (hmuted : store.muted = store'.muted)

include hmuted

theorem server_of_muted : store.server.muted = store'.server.muted := by
  have hsame : store.muted.server = store'.muted.server := by rw [hmuted]
  exact hsame

theorem reach_of_muted : store.reach = store'.reach := by
  have hsame : store.muted.reach = store'.muted.reach := by rw [hmuted]
  exact hsame

theorem refusal?_of_muted (use : ConnectionUse) (options : ConnectionOptions) :
    store.refusal? use options = store'.refusal? use options := by
  have hsame : store.muted.refusal? use options = store'.muted.refusal? use options := by
    rw [hmuted]
  exact hsame

/-- Work that goes the same way on both servers does so on both stores, connection or not. -/
theorem work_of_muted {ε α : Type} {work : ServerWork ε α} (hwork : work.Parallel work)
    (use : ConnectionUse) (options : ConnectionOptions) (fault : StoreError → ε) :
    (store.work use options fault work).1.toOption =
        (store'.work use options fault work).1.toOption ∧
      (store.work use options fault work).2.muted =
        (store'.work use options fault work).2.muted := by
  have hrefusal := refusal?_of_muted hmuted use options
  have hreach := reach_of_muted hmuted
  cases hrefused : store.refusal? use options with
  | some refusal =>
    rw [work_of_refused hrefused, work_of_refused (hrefusal.symm.trans hrefused)]
    exact ⟨rfl, hmuted⟩
  | none =>
    rw [work_of_connected hrefused, work_of_connected (hrefusal.symm.trans hrefused)]
    have hsame := hwork _ _ (server_of_muted hmuted)
    generalize work.outcome store.server = outcome at hsame ⊢
    generalize work.outcome store'.server = outcome' at hsame ⊢
    cases hsame with
    | ok a hafter => exact ⟨rfl, by simp only [muted, hreach, hafter]⟩
    | error hafter => exact ⟨rfl, by simp only [muted, hreach, hafter]⟩

end Store

namespace Manager

variable {store store' : Store} (hmuted : store.muted = store'.muted)

include hmuted

theorem upsert_of_muted (m : Manager) (email : String) :
    (m.upsert email store).1.toOption = (m.upsert email store').1.toOption ∧
      (m.upsert email store).2.muted = (m.upsert email store').2.muted :=
  Store.work_of_muted hmuted (ServerWork.Parallel.upsert m.target.database email) ..

theorem migrate_of_muted (m : Manager) :
    (m.migrate store).result.toOption = (m.migrate store').result.toOption ∧
      (m.migrate store).store.muted = (m.migrate store').store.muted :=
  Store.work_of_muted hmuted ((Migration.run_parallel m.target.database).adapt _) ..

end Manager

end WaitingList

import WaitingList.Proofs.Service.Pooled
import WaitingList.Proofs.Service.Restart
import WaitingList.Proofs.Service.Strictness

namespace WaitingList

theorem Store.reach_work {ε α : Type} (store : Store) (use : ConnectionUse)
    (options : ConnectionOptions) (fault : StoreError → ε) (work : ServerWork ε α) :
    (store.work use options fault work).2.reach = store.reach := by
  unfold Store.work
  split <;> rfl

namespace ServerWork

/-- Where no failure waits for an upsert, none does so after one. -/
theorem upsert_keeps_unstruck (database email : String) :
    (upsert database email).Keeps (·.struck? .upsert = none) := by
  intro s hs
  rw [Ends, outcome_upsert, hs]
  cases (s.database database).rows with
  | none =>
    change (s.touch database).struck? .upsert = none
    rw [Server.struck?, Server.armed_touch]
    exact hs
  | some rows =>
    change (Server.setDatabase _ database _).armed.filter _ = none
    rw [Server.armed_setDatabase, Server.armed_touch]
    exact hs

end ServerWork

namespace Server

theorem beside_unstruck (name : String) (statement : Statement) :
    Server.Beside (·.struck? statement = none) name where
  setDatabase s d hs := by
    rw [struck?, armed_setDatabase]
    exact hs
  disarm _ _ := Option.filter_none _

end Server

namespace Service

variable {service : Service} {store : Store}

/-- What a step keeps of the server: all that neither an upsert nor the service's own database has
a part in, and a failure that is armed has none in either. -/
theorem step_keeps {P : Server → Prop} {s : Step}
    (hbeside : Server.Beside P service.manager.target.database)
    (hupsert : ∀ email, (ServerWork.upsert service.manager.target.database email).Keeps P)
    (harm : ∀ failure, s = .fail failure → P (store.server.arm failure))
    (hstore : P store.server) : P (service.step store s).2.server := by
  cases s with
  | request moment request =>
    change P (service.answer moment request store).2.server
    by_cases hsubmission : request.IsSubmission
    · rw [answer_of_isSubmission service moment store hsubmission]
      cases haddress : request.body.submission service.policy with
      | error error =>
        rw [subscribe_of_refused haddress]
        exact hstore
      | ok address =>
        rw [(subscribe_of_address haddress).1]
        exact Store.work_keeps (hupsert address.text) hstore
    · rw [answer_of_not_isSubmission hsubmission]
      exact hstore
  | migrate => exact Manager.migrate_keeps service.manager hbeside hstore
  | fail failure => exact harm failure rfl

theorem reach_step (service : Service) (store : Store) (s : Step) :
    (service.step store s).2.reach = store.reach := by
  cases s with
  | request moment request =>
    change (service.answer moment request store).2.reach = store.reach
    by_cases hsubmission : request.IsSubmission
    · rw [answer_of_isSubmission service moment store hsubmission]
      cases haddress : request.body.submission service.policy with
      | error error => rw [subscribe_of_refused haddress]
      | ok address =>
        rw [(subscribe_of_address haddress).1]
        exact Store.reach_work ..
    · rw [answer_of_not_isSubmission hsubmission]
  | migrate =>
    change (service.manager.migrate store).store.reach = store.reach
    obtain hagrees | ⟨hreach, _⟩ := service.manager.migrate_effect store
    · exact hagrees.reach
    · exact hreach
  | fail failure => rfl

/-- No step changes whether the store can be connected to. -/
theorem refusal?_step (service : Service) (store : Store) (s : Step) (use : ConnectionUse)
    (options : ConnectionOptions) :
    (service.step store s).2.refusal? use options = store.refusal? use options := by
  refine Store.refusal?_congr store _ (service.reach_step store s) ?_ use options
  refine step_keeps (P := (·.password = store.server.password))
    (Server.beside_password _ _) (ServerWork.upsert_keeps_password _ · _) ?_ rfl
  exact fun _ _ => rfl

/-- No row has a higher number than the last write. -/
def Numbered (service : Service) (store : Store) : Prop :=
  ∀ rows, service.table store = some rows → ∀ row ∈ rows, row.number ≤ store.server.writes

theorem Numbered.step (h : service.Numbered store) (s : Step) :
    service.Numbered (service.step store s).2 := by
  intro rows hrows row hrow
  have heffect := service.step_effect store s
  generalize s.acceptedBody? (service.step store s).1 = body? at heffect
  generalize (service.step store s).2 = after at heffect hrows ⊢
  cases heffect with
  | wrote _ hwrote =>
    obtain ⟨before, hbefore, hafter⟩ := hwrote.rows
    rw [table, hafter, Option.some.injEq] at hrows
    subst hrows
    rw [hwrote.writes]
    obtain ⟨hold, _⟩ | rfl := Row.mem_write.mp hrow
    · exact (h before hbefore row hold).trans (Nat.le_succ _)
    · exact Nat.le_refl _
  | kept hagrees =>
    rw [table, hagrees.database] at hrows
    rw [hagrees.writes]
    exact h rows hrows row hrow
  | migrated hmigrated =>
    rw [table, hmigrated.database, Option.some.injEq] at hrows
    subst hrows
    cases hrow

section Run

/-- A run never changes whether the store can be connected to. -/
theorem refusal?_after (service : Service) (store : Store) (steps : List Step)
    (use : ConnectionUse) (options : ConnectionOptions) :
    (service.after store steps).refusal? use options = store.refusal? use options := by
  induction steps generalizing store with
  | nil => rfl
  | cons s rest ih => exact (ih _).trans (service.refusal?_step store s use options)

theorem Numbered.after (h : service.Numbered store) (steps : List Step) :
    service.Numbered (service.after store steps) := by
  induction steps generalizing store with
  | nil => exact h
  | cons s rest ih => exact ih (h.step s)

/-- A table that is there stays. -/
theorem table_after (htable : (service.table store).isSome) (steps : List Step) :
    (service.table (service.after store steps)).isSome := by
  induction steps generalizing store with
  | nil => exact htable
  | cons s rest ih => exact ih (((service.step_effect store s).change _).table htable)

/-- Where no failure waits for an upsert, one does so after steps only if one of them arms it. -/
theorem unstruck_after {steps : List Step} (hunstruck : store.server.struck? .upsert = none)
    (hunarmed : ∀ failure, .fail failure ∈ steps → failure.hits .upsert = false) :
    (service.after store steps).server.struck? .upsert = none := by
  induction steps generalizing store with
  | nil => exact hunstruck
  | cons s rest ih =>
    refine ih ?_ fun failure hmem => hunarmed failure (List.mem_cons_of_mem s hmem)
    refine step_keeps (P := (·.struck? .upsert = none)) (Server.beside_unstruck _ _)
      (ServerWork.upsert_keeps_unstruck _) ?_ hunstruck
    rintro failure rfl
    simp [Server.arm, Server.struck?, hunarmed failure List.mem_cons_self]

end Run

section Submission

variable {moment : Moment} {request : Request} {address : EmailAddress}

/-- Where the table is there and no failure waits, a valid submission is accepted, and its address
gets a higher number than any row had. -/
theorem answer_of_unstruck {rows : List Row}
    (hconnects : store.refusal? .pooled service.manager.target.options = none)
    (hunstruck : store.server.struck? .upsert = none) (hrows : service.table store = some rows)
    (hsubmission : request.IsSubmission)
    (haddress : request.body.submission service.policy = .ok address) :
    (service.answer moment request store).1.response.status = 200 ∧
      service.table (service.answer moment request store).2 =
        some (Row.write rows address.text (store.server.writes + 1)) := by
  constructor
  · have hfree := Manager.not_hindered hconnects hunstruck hrows
    rw [answer_of_free hsubmission haddress hfree]
    rfl
  · obtain ⟨after, hupsert, htook⟩ :=
      Open.upsert ⟨hconnects, hunstruck, Option.isSome_iff_exists.mpr ⟨rows, hrows⟩⟩ address.text
    rw [answer_of_isSubmission service moment store hsubmission,
      subscribe_of_written haddress hupsert]
    change service.table after = _
    rw [htook.rows, hrows, Option.map_some]

/-- A valid submission that meets a failure is told of it, and spends it. -/
theorem answer_of_struck {failure : Failure}
    (hconnects : store.refusal? .pooled service.manager.target.options = none)
    (hstruck : store.server.struck? .upsert = some failure) (hsubmission : request.IsSubmission)
    (haddress : request.body.submission service.policy = .ok address) :
    (service.answer moment request store).1.response.status = 500 ∧
      (service.answer moment request store).2.server.armed = none := by
  constructor
  · have hhindered : service.manager.Hindered store (.database failure.text) :=
      .struck hconnects hstruck
    rw [answer_of_hindered hsubmission haddress hhindered]
    rfl
  · rw [answer_of_isSubmission service moment store hsubmission,
      (subscribe_of_address haddress).1, Manager.upsert, Store.work_of_connected hconnects]
    change ((ServerWork.upsert _ _).outcome store.server).2.armed = none
    rw [ServerWork.outcome_upsert, hstruck]
    rfl

/-- On two stores that can be connected to and where no failure waits for an upsert, a request is
answered alike if the table is on both or on neither. -/
theorem answer_eq_of_unstruck {store' : Store}
    (hconnects : store.refusal? .pooled service.manager.target.options = none)
    (hconnects' : store'.refusal? .pooled service.manager.target.options = none)
    (hunstruck : store.server.struck? .upsert = none)
    (hunstruck' : store'.server.struck? .upsert = none)
    (htable : (service.table store).isSome = (service.table store').isSome) (moment : Moment)
    (request : Request) :
    (service.answer moment request store).1 = (service.answer moment request store').1 := by
  by_cases hsubmission : request.IsSubmission
  · cases haddress : request.body.submission service.policy with
    | error error =>
      rw [answer_of_isSubmission service moment store hsubmission,
        answer_of_isSubmission service moment store' hsubmission, subscribe_of_refused haddress,
        subscribe_of_refused haddress]
    | ok address =>
      cases hrows : service.table store with
      | none =>
        rw [hrows, Option.isSome_none, eq_comm, Option.isSome_eq_false_iff,
          Option.isNone_iff_eq_none] at htable
        rw [answer_of_hindered hsubmission haddress (.noTable hconnects hunstruck hrows),
          answer_of_hindered hsubmission haddress (.noTable hconnects' hunstruck' htable)]
      | some rows =>
        rw [hrows, Option.isSome_some, eq_comm] at htable
        obtain ⟨rows', hrows'⟩ := Option.isSome_iff_exists.mp htable
        rw [answer_of_free hsubmission haddress (Manager.not_hindered hconnects hunstruck hrows),
          answer_of_free hsubmission haddress (Manager.not_hindered hconnects' hunstruck' hrows')]
  · exact answer_eq_of_not_isSubmission hsubmission service service moment store' store

end Submission

/-- Two valid submissions that fail although the table is there fail of two failures: one that was
armed before the first, and one that was armed in between. -/
theorem armed_between {store : Store} {moment moment' : Moment} {request request' : Request}
    {address address' : EmailAddress} {between : List Step}
    (hconnects : store.refusal? .pooled service.manager.target.options = none)
    (htable : (service.table store).isSome)
    (hsubmission : request.IsSubmission)
    (haddress : request.body.submission service.policy = .ok address)
    (hfails : (service.answer moment request store).1.response.status ≠ 200)
    (hsubmission' : request'.IsSubmission)
    (haddress' : request'.body.submission service.policy = .ok address')
    (hfails' : (service.answer moment' request' (service.after store
      (.request moment request :: between))).1.response.status ≠ 200) :
    ∃ failure, .fail failure ∈ between ∧ failure.hits .upsert = true := by
  by_contra hnone
  have hunarmed : ∀ failure, .fail failure ∈ between → failure.hits .upsert = false := by
    intro failure hmem
    by_contra hhits
    exact hnone ⟨failure, hmem, by simpa using hhits⟩
  have hlater := table_after htable (.request moment request :: between)
  obtain ⟨rows, hrows⟩ := Option.isSome_iff_exists.mp htable
  obtain ⟨rows', hrows'⟩ := Option.isSome_iff_exists.mp hlater
  cases hstruck : store.server.struck? .upsert with
  | none => exact hfails (answer_of_unstruck hconnects hstruck hrows hsubmission haddress).1
  | some failure =>
    -- the first submission spends the failure, and none comes after it
    have hspent : (service.answer moment request store).2.server.armed = none :=
      (answer_of_struck hconnects hstruck hsubmission haddress).2
    have hcalm : (service.answer moment request store).2.server.struck? .upsert = none := by
      rw [Server.struck?, hspent, Option.filter_none]
    have hunstruck : (service.after (service.answer moment request store).2
        between).server.struck? .upsert = none := unstruck_after hcalm hunarmed
    have hconnects' :=
      (service.refusal?_after store (.request moment request :: between) .pooled _).trans hconnects
    exact hfails' (answer_of_unstruck hconnects' hunstruck hrows' hsubmission' haddress').1

/-- A service over a pool of any size goes on serving. Wherever a run on a store that it can connect
to has led, a valid submission is accepted if the table is there and no failure waits for it, and
its address gets the highest number. Of all that came before, a request notices no more than whether
the table is there. A failure that waits makes one submission fail and is spent, so between two that
fail although the table is there another one was armed. -/
theorem serves_after_failures (service : Service) (size : Nat) (hsize : 1 ≤ size) (store : Store)
    (hconnects : store.refusal? .pooled service.manager.target.options = none)
    (hnumbered : service.Numbered store) (steps : List Step) :
    let reached := service.afterPooled ⟨.ofSize size, store⟩ steps
    (∀ (moment : Moment) (request : Request) (address : EmailAddress) (rows : List Row),
      request.IsSubmission → request.body.submission service.policy = .ok address →
      service.table reached.store = some rows → reached.store.server.struck? .upsert = none →
      (service.answerPooled moment request reached).1.response.status = 200 ∧
        ∃ number now,
          service.table (service.answerPooled moment request reached).2.store = some now ∧
          ⟨address.text, number⟩ ∈ now ∧
          ∀ row ∈ now, row ≠ ⟨address.text, number⟩ → row.number < number) ∧
    (∀ (size' : Nat) (store' : Store) (steps' : List Step), 1 ≤ size' →
      store'.refusal? .pooled service.manager.target.options = none →
      let reached' := service.afterPooled ⟨.ofSize size', store'⟩ steps'
      reached.store.server.struck? .upsert = none →
      reached'.store.server.struck? .upsert = none →
      (service.table reached.store).isSome = (service.table reached'.store).isSome →
      ∀ (moment : Moment) (request : Request), (service.answerPooled moment request reached).1 =
        (service.answerPooled moment request reached').1) ∧
    ∀ (moment : Moment) (request : Request) (address : EmailAddress),
      request.IsSubmission → request.body.submission service.policy = .ok address →
      (∀ failure, reached.store.server.struck? .upsert = some failure →
        (service.answerPooled moment request reached).1.response.status = 500 ∧
        (service.answerPooled moment request reached).2.store.server.armed = none) ∧
      ∀ (between : List Step) (moment' : Moment) (request' : Request) (address' : EmailAddress),
        request'.IsSubmission → request'.body.submission service.policy = .ok address' →
        let later := service.afterPooled reached (.request moment request :: between)
        (service.table reached.store).isSome →
        (service.answerPooled moment request reached).1.response.status ≠ 200 →
        (service.answerPooled moment' request' later).1.response.status ≠ 200 →
          ∃ failure, .fail failure ∈ between ∧ failure.hits .upsert = true := by
  intro reached
  obtain ⟨hstore, hrests⟩ : reached.store = service.after store steps ∧
      reached.Resting service.manager.target.options :=
    afterPooled_of_resting (.ofSize hsize store _) steps
  have hnow : reached.store.refusal? .pooled service.manager.target.options = none := by
    rw [hstore]
    exact (service.refusal?_after store steps .pooled _).trans hconnects
  refine ⟨?_, ?_, ?_⟩
  · intro moment request address rows hsubmission haddress hrows hunstruck
    obtain ⟨hexchange, hafter, _⟩ := answerPooled_of_resting hrests moment request
    rw [hexchange, hafter]
    obtain ⟨hstatus, htable⟩ := answer_of_unstruck hnow hunstruck hrows hsubmission haddress
    refine ⟨hstatus, _, _, htable, Row.mem_write.mpr (.inr rfl), fun row hrow hother => ?_⟩
    obtain ⟨hold, _⟩ | hnew := Row.mem_write.mp hrow
    · have hbound := hnumbered.after steps
      rw [← hstore] at hbound
      exact Nat.lt_succ_of_le (hbound rows hrows row hold)
    · exact absurd hnew hother
  · intro size' store' steps' hsize' hconnects' reached' hunstruck hunstruck' htable moment request
    obtain ⟨hstore', hrests'⟩ : reached'.store = service.after store' steps' ∧
        reached'.Resting service.manager.target.options :=
      afterPooled_of_resting (.ofSize hsize' store' _) steps'
    have hnow' : reached'.store.refusal? .pooled service.manager.target.options = none := by
      rw [hstore']
      exact (service.refusal?_after store' steps' .pooled _).trans hconnects'
    rw [(answerPooled_of_resting hrests moment request).1,
      (answerPooled_of_resting hrests' moment request).1]
    exact answer_eq_of_unstruck hnow hnow' hunstruck hunstruck' htable moment request
  · intro moment request address hsubmission haddress
    obtain ⟨hexchange, hafter, _⟩ := answerPooled_of_resting hrests moment request
    refine ⟨fun failure hstruck => ?_, ?_⟩
    · rw [hexchange, hafter]
      exact answer_of_struck hnow hstruck hsubmission haddress
    · intro between moment' request' address' hsubmission' haddress' later htable hfails hfails'
      obtain ⟨hlater, hlast⟩ :=
        afterPooled_of_resting hrests (.request moment request :: between)
      rw [hexchange] at hfails
      rw [(answerPooled_of_resting hlast moment' request').1, hlater] at hfails'
      exact armed_between hnow htable hsubmission haddress hfails hsubmission' haddress' hfails'

/-- A pool of one connection, over which a migration is rolled back and a write fails, and beside
which a stream breaks, serves the next submission. -/
theorem serves_after_failures_single_connection :
    let service : Service :=
      ⟨⟨⟨"postgres", "", 5432, "localhost", "waitlist", .disable⟩, false⟩, .minimal⟩
    let moment : Moment := ⟨"", "", "", ""⟩
    let submission (breakage : Option String) : Request :=
      ⟨.post, ⟨none, none, "/api/subscribe", none⟩, [], ⟨"[\"a@b\"]".toUTF8.toList, breakage⟩⟩
    let steps := [.fail ⟨"bookkeeping", "40001", "could not serialize access"⟩, .migrate,
      .request moment (submission (some "reset")), .migrate,
      .fail ⟨"upsert", "57014", "canceling statement"⟩, .request moment (submission none)]
    let reached := service.afterPooled ⟨.ofSize 1, ⟨.server, .ofDatabase "waitlist"⟩⟩ steps
    reached.pool = ⟨1, 1, 0⟩ ∧
      (service.answerPooled moment (submission none) reached).1.response.status = 200 := by
  intro service moment submission steps reached
  have hrows : service.table reached.store = some [] := by decide +kernel
  have hunstruck : reached.store.server.struck? .upsert = none := by decide +kernel
  have haddress : (submission none).body.submission service.policy = .ok ⟨"a@b"⟩ := by
    decide +kernel
  obtain ⟨hserves, _⟩ := serves_after_failures service 1 (Nat.le_refl 1)
    ⟨.server, .ofDatabase "waitlist"⟩ rfl (fun rows hnone => by cases hnone) steps
  obtain ⟨hstatus, _⟩ := hserves moment (submission none) ⟨"a@b"⟩ [] ⟨rfl, rfl⟩ haddress hrows
    hunstruck
  exact ⟨by decide +kernel, hstatus⟩

end Service

end WaitingList

import WaitingList.Proofs.Service.Refusal
import WaitingList.Proofs.Submission.Accept
import WaitingList.Service.Run
import Mathlib.Data.List.Forall2

namespace WaitingList

/-- The body of a submission that was answered with status 200. -/
def Step.acceptedBody? : Step → StepAnswer → Option (List UInt8)
  | .request _ sent, .exchange exchange =>
    if sent.IsSubmission ∧ exchange.response.status = 200 then some sent.body.bytes else none
  | _, _ => none

/-- Only a submission without an error is answered with status 200. -/
theorem Subscription.status_eq_ok_iff (s : Subscription) :
    s.response.status = 200 ↔ s.error = none := by
  unfold response
  cases s.error with
  | none => simp [Response.accepted, Response.ofJson]
  | some error =>
    have hstatus : error.status ≠ 200 := by
      obtain _ | (_ | _) | _ | _ := error <;> simp [RequestError.status]
    simpa [Response.refused, Response.ofJson] using hstatus

namespace Service

/-- The rows of the table of subscribers, if there is a table. -/
def table (service : Service) (store : Store) : Option (List Row) :=
  (store.server.database service.manager.target.database).rows

/-- The store after steps. -/
def after (service : Service) (store : Store) (steps : List Step) : Store :=
  steps.foldl (fun store s => (service.step store s).2) store

/-- The bodies of the submissions of a run that were answered with status 200, in order. -/
def acceptedBodies (service : Service) (store : Store) (steps : List Step) : List (List UInt8) :=
  (steps.zip (service.run store steps)).filterMap fun (s, answer, _) => s.acceptedBody? answer

/-- What a step does to the server, told by the body that it accepts, if it accepts one. -/
inductive Effect (service : Service) (s after : Server) : Option (List UInt8) → Prop where
  | wrote {body : List UInt8} {email : String}
      (haccept : Submission.accept service.policy body = .ok ⟨email⟩)
      (hwrote : s.Wrote after service.manager.target.database email) :
      Effect service s after (some body)
  | kept (hagrees : s.Agrees after) : Effect service s after none
  | migrated (hmigrated : s.Migrated after service.manager.target.database) :
      Effect service s after none

section Steps

variable {service : Service} {moment : Moment} {request : Request} {store : Store}

/-- A request that submits nothing gets the response of its route, whatever the service and the
store. -/
theorem handle_of_not_isSubmission (hother : ¬ request.IsSubmission) :
    ∃ response, ∀ (service : Service) (moment : Moment) (store : Store),
      service.handle moment request store = (.plain response, store) := by
  cases hroute : Route.of request.method request.uri.path with
  | health => exact ⟨.alive, fun _ _ _ => by simp only [handle, hroute]⟩
  | methodNotAllowed allowed =>
    exact ⟨.methodNotAllowed allowed, fun _ _ _ => by simp only [handle, hroute]⟩
  | notFound => exact ⟨.notFound, fun _ _ _ => by simp only [handle, hroute]⟩
  | subscribe =>
    unfold Route.of at hroute
    split at hroute
    · split at hroute <;> cases hroute
    split at hroute
    next hpath =>
      split at hroute
      next hmethod => exact absurd ⟨hmethod, hpath⟩ hother
      next => cases hroute
    next => cases hroute

/-- A request that submits nothing leaves the store exactly as it was. -/
theorem answer_of_not_isSubmission (hother : ¬ request.IsSubmission) :
    (service.answer moment request store).2 = store := by
  obtain ⟨response, hhandle⟩ := handle_of_not_isSubmission hother
  rw [answer_eq, hhandle]

/-- A submission that is answered with status 200 is written once, and any other is not. -/
theorem subscribe_effect (service : Service) (body : Body) (store : Store) :
    service.Effect store.server (service.subscribe body store).2.server
      (if (service.subscribe body store).1.response.status = 200 then some body.bytes
        else none) := by
  simp only [Subscription.status_eq_ok_iff]
  cases hsubmission : body.submission service.policy with
  | error error =>
    rw [subscribe_of_refused hsubmission, if_neg (by simp)]
    exact .kept (.refl _)
  | ok address =>
    obtain ⟨_, _, haccept⟩ := Body.submission_eq_ok_iff.mp hsubmission
    rcases hupsert : service.manager.upsert address.text store with ⟨result, after⟩
    cases result with
    | error error =>
      rw [subscribe_of_unwritten hsubmission hupsert, if_neg (by simp)]
      exact .kept (Manager.upsert_error hupsert).server
    | ok done =>
      rw [subscribe_of_written hsubmission hupsert, if_pos rfl]
      exact .wrote haccept (Manager.upsert_ok hupsert).2

/-- Every step writes the address that it accepts, or else at most creates the table. -/
theorem step_effect (service : Service) (store : Store) (s : Step) :
    service.Effect store.server (service.step store s).2.server
      (s.acceptedBody? (service.step store s).1) := by
  cases s with
  | request moment request =>
    by_cases hsubmission : request.IsSubmission
    · have heffect := service.subscribe_effect request.body store
      have hanswer := answer_of_isSubmission service moment store hsubmission
      rw [← Passage.told_ofSubscription moment] at heffect
      simp only [step, hanswer, Step.acceptedBody?, hsubmission, true_and]
      exact heffect
    · simp only [step, Step.acceptedBody?, hsubmission, false_and, if_false,
        answer_of_not_isSubmission hsubmission]
      exact .kept (.refl _)
  | migrate =>
    obtain hagrees | ⟨_, hmigrated⟩ := service.manager.migrate_effect store
    · exact .kept hagrees.server
    · exact .migrated hmigrated
  | fail failure => exact .kept (Store.Agrees.arm store failure).server

end Steps

/-- How a run accounts for the rows of the table: each accepted body submits an address, the
server counts one write for each, and the rows are what those writes add up to. Before there is a
table nothing is accepted. -/
structure Ledger (service : Service) (base : Nat) (bodies : List (List UInt8))
    (emails : List String) (store : Store) : Prop where
  accepted : List.Forall₂
    (fun body email => Submission.accept service.policy body = .ok ⟨email⟩) bodies emails
  writes : store.server.writes = base + emails.length
  absent : service.table store = none → emails = []
  tallies : ∀ rows, service.table store = some rows → Row.Tallies rows base emails

namespace Ledger

variable {service : Service} {base : Nat} {bodies : List (List UInt8)} {emails : List String}
  {store after : Store}

/-- A table without rows accounts for a run in which nothing has happened. -/
theorem start (hempty : ∀ rows, service.table store = some rows → rows = []) :
    service.Ledger store.server.writes [] [] store where
  accepted := .nil
  writes := rfl
  absent _ := rfl
  tallies rows hrows := hempty rows hrows ▸ .nil _

/-- What a step does keeps the account. -/
theorem effect {body? : Option (List UInt8)} (h : service.Ledger base bodies emails store)
    (heffect : service.Effect store.server after.server body?) :
    ∃ emails, service.Ledger base (bodies ++ body?.toList) emails after := by
  cases heffect with
  | @wrote body email haccept hwrote =>
    obtain ⟨rows, hbefore, hrows⟩ := hwrote.rows
    have htallies := (h.tallies rows hbefore).write email
    rw [← h.writes] at htallies
    refine ⟨emails ++ [email], ?_, ?_, ?_, ?_⟩
    · exact List.rel_append h.accepted (.cons haccept .nil)
    · rw [hwrote.writes, h.writes, List.length_append, List.length_singleton, Nat.add_assoc]
    · intro hnone
      rw [table, hrows] at hnone
      cases hnone
    · intro found hfound
      rw [table, hrows, Option.some.injEq] at hfound
      exact hfound ▸ htallies
  | kept hagrees =>
    have htable : service.table after = service.table store := by
      rw [table, hagrees.database, table]
    rw [Option.toList_none, List.append_nil]
    exact ⟨emails, h.accepted, hagrees.writes.trans h.writes, htable ▸ h.absent,
      htable ▸ h.tallies⟩
  | migrated hmigrated =>
    have hnone : emails = [] := h.absent hmigrated.rows
    have htable : service.table after = some [] := by
      rw [table, hmigrated.database]
    rw [Option.toList_none, List.append_nil]
    refine ⟨emails, h.accepted, hmigrated.writes.trans h.writes, fun _ => hnone, ?_⟩
    intro rows hrows
    rw [htable, Option.some.injEq] at hrows
    exact hrows ▸ hnone ▸ .nil base

/-- A whole run keeps the account. -/
theorem run (h : service.Ledger base bodies emails store) (steps : List Step) :
    ∃ emails, service.Ledger base (bodies ++ service.acceptedBodies store steps) emails
      (service.after store steps) := by
  induction steps generalizing store bodies emails with
  | nil => exact ⟨emails, by simpa [acceptedBodies, Service.after] using h⟩
  | cons s rest ih =>
    obtain ⟨emails, hstep⟩ := h.effect (service.step_effect store s)
    obtain ⟨emails, hrest⟩ := ih hstep
    refine ⟨emails, ?_⟩
    have hbodies : service.acceptedBodies store (s :: rest) =
        (s.acceptedBody? (service.step store s).1).toList ++
          service.acceptedBodies (service.step store s).2 rest := by
      cases hbody : s.acceptedBody? (service.step store s).1 with
      | none => simp [acceptedBodies, Service.run, hbody]
      | some body => simp [acceptedBodies, Service.run, hbody]
    rw [hbodies, ← List.append_assoc]
    exact hrest

end Ledger

/-- A point of a run is the store after the steps up to it. -/
theorem after_of_run {service : Service} {store now : Store} {steps : List Step} {i : Nat}
    {answer : StepAnswer} (hpoint : (service.run store steps)[i]? = some (answer, now)) :
    now = service.after store (steps.take (i + 1)) := by
  induction steps generalizing store i with
  | nil => simp [run] at hpoint
  | cons s rest ih =>
    cases i with
    | zero =>
      simp only [run, List.getElem?_cons_zero, Option.some.injEq, Prod.ext_iff] at hpoint
      exact hpoint.2.symm
    | succ i =>
      simp only [run, List.getElem?_cons_succ] at hpoint
      exact ih hpoint

/-- Every point of a run that starts without rows has an account of its rows. -/
theorem exists_ledger_of_run {service : Service} {store now : Store} {steps : List Step} {i : Nat}
    {answer : StepAnswer} (hempty : ∀ rows, service.table store = some rows → rows = [])
    (hpoint : (service.run store steps)[i]? = some (answer, now)) :
    ∃ emails, service.Ledger store.server.writes
      (service.acceptedBodies store (steps.take (i + 1))) emails now := by
  rw [after_of_run hpoint]
  simpa using (Ledger.start hempty).run (steps.take (i + 1))

/-- An accepted body gives the address that it is accepted for, and the policy allows it to be
stored. -/
theorem read_of_accept {policy : EmailPolicy} {body : List UInt8} {email : String}
    (h : Submission.accept policy body = .ok ⟨email⟩) :
    Submission.read body = .ok (some email) ∧ EmailAddress.Storable policy email := by
  obtain ⟨text, hread, hparse⟩ := Submission.accept_eq_ok_iff_read.mp h
  obtain ⟨htext, hstorable⟩ := EmailAddress.parse_eq_ok_iff.mp hparse
  obtain rfl : email = text := congrArg EmailAddress.text htext
  exact ⟨hread, hstorable⟩

/-- The rows are told by the answers. At every point of a run that starts without rows, the table
holds one row for each address that a submission answered with status 200 gave, and its number
counts such submissions up to the last one that gave the address. From there every further step
answers a submission with status 200 exactly if it writes the address of its body once, and else
leaves all rows as they are. No premise is made on requests, failures or whether the store can be
reached. -/
theorem rows_of_accepted_bodies (service : Service) (store : Store)
    (hempty : ∀ rows, service.table store = some rows → rows = []) (steps : List Step) (i : Nat)
    (answer : StepAnswer) (now : Store)
    (hpoint : (service.run store steps)[i]? = some (answer, now)) :
    (∃ emails, List.Forall₂ (fun body email => Submission.read body = .ok (some email))
        (service.acceptedBodies store (steps.take (i + 1))) emails ∧
      ∀ rows, service.table now = some rows → Row.Tallies rows store.server.writes emails) ∧
    ∀ s : Step,
      (∀ body, s.acceptedBody? (service.step now s).1 = some body →
        ∃ email rows, Submission.read body = .ok (some email) ∧ service.table now = some rows ∧
          service.table (service.step now s).2 =
            some (Row.write rows email (now.server.writes + 1))) ∧
      (s.acceptedBody? (service.step now s).1 = none →
        service.table (service.step now s).2 = service.table now ∨
          service.table now = none ∧ service.table (service.step now s).2 = some []) := by
  refine ⟨?_, fun s => ⟨?_, ?_⟩⟩
  · obtain ⟨emails, hledger⟩ := exists_ledger_of_run hempty hpoint
    exact ⟨emails, hledger.accepted.imp fun _ _ haccept => (read_of_accept haccept).1,
      hledger.tallies⟩
  · intro body hbody
    have heffect := service.step_effect now s
    rw [hbody] at heffect
    cases heffect with
    | @wrote _ email haccept hwrote =>
      obtain ⟨rows, hbefore, hrows⟩ := hwrote.rows
      exact ⟨email, rows, (read_of_accept haccept).1, hbefore, hrows⟩
  · intro hnone
    have heffect := service.step_effect now s
    rw [hnone] at heffect
    cases heffect with
    | kept hagrees =>
      refine .inl ?_
      rw [table, hagrees.database, table]
    | migrated hmigrated =>
      refine .inr ⟨hmigrated.rows, ?_⟩
      rw [table, hmigrated.database]

/-- A submission before the table is there fails and leaves no trace. Of the three behind the
migration, the last only gives its address a new number. -/
theorem rows_of_accepted_bodies_resubmission :
    let service : Service :=
      ⟨⟨⟨"postgres", "", 5432, "localhost", "waitlist", .disable⟩, false⟩, .minimal⟩
    let submit (body : String) : Step := .request ⟨"", "", "", ""⟩
      ⟨.post, ⟨none, none, "/api/subscribe", none⟩, [], ⟨body.toUTF8.toList, none⟩⟩
    let steps := [submit "[\"a@b\"]", .migrate, submit "[\"a@b\"]", submit "[\"c@d\"]",
      submit "[\"a@b\"]"]
    ∃ answer now emails,
      (service.run ⟨.server, .ofDatabase "waitlist"⟩ steps)[4]? = some (answer, now) ∧
      service.table now = some [⟨"c@d", 2⟩, ⟨"a@b", 3⟩] ∧
      Row.Tallies [⟨"c@d", 2⟩, ⟨"a@b", 3⟩] 0 emails := by
  intro service submit steps
  obtain ⟨answer, now, hpoint⟩ : ∃ answer now,
      (service.run ⟨.server, .ofDatabase "waitlist"⟩ steps)[4]? = some (answer, now) := ⟨_, _, rfl⟩
  have hrows : service.table now = some [⟨"c@d", 2⟩, ⟨"a@b", 3⟩] := by
    rw [after_of_run hpoint]
    decide +kernel
  obtain ⟨⟨emails, _, htallies⟩, _⟩ := rows_of_accepted_bodies service
    ⟨.server, .ofDatabase "waitlist"⟩ (fun rows hnone => by cases hnone) steps 4 answer now hpoint
  exact ⟨answer, now, emails, hpoint, hrows, htallies _ hrows⟩

private theorem exists_of_mem_right {α β : Type} {r : α → β → Prop} {as : List α} {bs : List β}
    {b : β} (h : List.Forall₂ r as bs) (hb : b ∈ bs) : ∃ a, r a b := by
  induction h with
  | nil => cases hb
  | @cons a c _ _ hfirst _ ih =>
    obtain rfl | hrest := List.mem_cons.mp hb
    · exact ⟨a, hfirst⟩
    · exact ih hrest

/-- Every row that a run leaves holds an address that the policy allows to be stored, as long as
there were no rows to begin with. The bounds are on the bytes that are stored, and these are the
bytes of a text. -/
theorem storable_of_row (service : Service) (store : Store)
    (hempty : ∀ rows, service.table store = some rows → rows = []) (steps : List Step)
    (answer : StepAnswer) (now : Store) (hpoint : (answer, now) ∈ service.run store steps)
    (rows : List Row) (hrows : service.table now = some rows) (row : Row) (hrow : row ∈ rows) :
    EmailAddress.Storable service.policy row.email ∧
      Utf8.text? (Utf8.encode row.email.toList) = some row.email := by
  obtain ⟨i, hi⟩ := List.mem_iff_getElem?.mp hpoint
  obtain ⟨emails, hledger⟩ := exists_ledger_of_run hempty hi
  have hwritten := (hledger.tallies rows hrows).email_mem hrow
  have hstorable : ∀ email ∈ emails, EmailAddress.Storable service.policy email := by
    intro email hemail
    obtain ⟨body, haccept⟩ := exists_of_mem_right hledger.accepted hemail
    exact (read_of_accept haccept).2
  exact ⟨hstorable row.email hwritten, Utf8.text?_eq_some_iff.mpr rfl⟩

/-- Under the strict policy an address that is refused leaves no row, and one that is written with
escapes is stored as what it is decoded to. -/
theorem storable_of_row_strict :
    let service : Service :=
      ⟨⟨⟨"postgres", "", 5432, "localhost", "waitlist", .disable⟩, false⟩, .strict⟩
    let submit (body : String) : Step := .request ⟨"", "", "", ""⟩
      ⟨.post, ⟨none, none, "/api/subscribe", none⟩, [], ⟨body.toUTF8.toList, none⟩⟩
    let steps := [.migrate, submit "[\"a@\"]", submit "[\"\\u0061@b\"]"]
    ∃ answer now, (answer, now) ∈ service.run ⟨.server, .ofDatabase "waitlist"⟩ steps ∧
      service.table now = some [⟨"a@b", 1⟩] ∧ EmailAddress.Storable .strict "a@b" := by
  intro service submit steps
  obtain ⟨answer, now, hpoint⟩ : ∃ answer now,
      (service.run ⟨.server, .ofDatabase "waitlist"⟩ steps)[2]? = some (answer, now) := ⟨_, _, rfl⟩
  have hrows : service.table now = some [⟨"a@b", 1⟩] := by
    rw [after_of_run hpoint]
    decide +kernel
  have hmem := List.mem_iff_getElem?.mpr ⟨2, hpoint⟩
  obtain ⟨hstorable, _⟩ := storable_of_row service ⟨.server, .ofDatabase "waitlist"⟩
    (fun rows hnone => by cases hnone) steps answer now hmem _ hrows ⟨"a@b", 1⟩ (by simp)
  exact ⟨answer, now, hmem, hrows, hstorable⟩

end Service

end WaitingList

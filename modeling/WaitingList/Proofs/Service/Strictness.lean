import WaitingList.Proofs.Service.Ledger
import WaitingList.Proofs.Store.Containment

namespace WaitingList

namespace EmailAddress

variable {text : String} {address : EmailAddress}

theorem parse_minimal_of_strict (hstrict : parse .strict text = .ok address) :
    parse .minimal text = .ok address := by
  obtain ⟨rfl, h⟩ := parse_eq_ok_iff.mp hstrict
  have hminimal : Storable .minimal text :=
    ⟨h.nonempty, h.sign, h.nul, h.bytes, by simp, by simp⟩
  exact parse_eq_ok_iff.mpr ⟨rfl, hminimal⟩

/-- The strict check begins with the minimal one and passes its faults on. -/
theorem parse_strict_of_fault {fault : EmailFault}
    (hminimal : parse .minimal text = .error fault) : parse .strict text = .error fault := by
  rw [parse] at hminimal
  rw [parse, parseStrict, hminimal]

end EmailAddress

namespace Body

variable {body : Body}

theorem submission_minimal_of_strict {address : EmailAddress}
    (hstrict : body.submission .strict = .ok address) :
    body.submission .minimal = .ok address := by
  obtain ⟨hshort, hwhole, haccept⟩ := submission_eq_ok_iff.mp hstrict
  obtain ⟨text, hread, hparse⟩ := Submission.accept_eq_ok_iff_read.mp haccept
  have hminimal := EmailAddress.parse_minimal_of_strict hparse
  exact submission_eq_ok_iff.mpr
    ⟨hshort, hwhole, Submission.accept_eq_ok_iff_read.mpr ⟨text, hread, hminimal⟩⟩

/-- A body that is refused under the minimal policy is refused under the strict one with the same
error. -/
theorem submission_strict_of_refused {error : RequestError}
    (hminimal : body.submission .minimal = .error error) :
    body.submission .strict = .error error := by
  unfold submission at *
  split at hminimal
  next => exact hminimal
  next bytes _ =>
    unfold Submission.accept at *
    cases hread : Submission.read bytes with
    | error fault =>
      rw [hread] at hminimal
      exact hminimal
    | ok given =>
      cases given with
      | none =>
        rw [hread] at hminimal
        exact hminimal
      | some text =>
        simp only [hread] at hminimal ⊢
        cases hparse : EmailAddress.parse .minimal text with
        | error fault =>
          rw [hparse] at hminimal
          rw [EmailAddress.parse_strict_of_fault hparse]
          exact hminimal
        | ok address =>
          rw [hparse] at hminimal
          cases hminimal

end Body

namespace Service

variable {store store' : Store}

/-- A submission under both policies: what is refused under the minimal one is refused likewise
under the strict one, and what is written under the strict one is written under the minimal one. -/
theorem subscribe_within (manager : Manager) (h : store.Within store') (body : Body) :
    (subscribe ⟨manager, .strict⟩ body store).2.Within
        (subscribe ⟨manager, .minimal⟩ body store').2 ∧
      ((subscribe ⟨manager, .strict⟩ body store).1.error = none →
        (subscribe ⟨manager, .minimal⟩ body store').1.error = none) ∧
      ((∀ address, body.submission .minimal ≠ .ok address) →
        (subscribe ⟨manager, .minimal⟩ body store').1 =
          (subscribe ⟨manager, .strict⟩ body store).1) := by
  cases hminimal : body.submission .minimal with
  | error error =>
    have hstrict : subscribe ⟨manager, .strict⟩ body store = (⟨none, some error⟩, store) :=
      subscribe_of_refused (Body.submission_strict_of_refused hminimal)
    have hrefused : subscribe ⟨manager, .minimal⟩ body store' = (⟨none, some error⟩, store') :=
      subscribe_of_refused hminimal
    rw [hstrict, hrefused]
    exact ⟨h, id, fun _ => rfl⟩
  | ok address =>
    obtain ⟨hafter', herror'⟩ : (subscribe ⟨manager, .minimal⟩ body store').2 = _ ∧ (_ ↔ _) :=
      subscribe_of_address hminimal
    rw [hafter', herror']
    cases hsubmission : body.submission .strict with
    | error error =>
      have hstrict : subscribe ⟨manager, .strict⟩ body store = (⟨none, some error⟩, store) :=
        subscribe_of_refused hsubmission
      rw [hstrict]
      refine ⟨h.upsert_right manager address.text, ?_, fun hnot => absurd rfl (hnot address)⟩
      intro hnone
      cases hnone
    | ok address' =>
      obtain rfl : address = address' := by
        have hsame := hminimal.symm.trans (Body.submission_minimal_of_strict hsubmission)
        exact Except.ok.inj hsame
      obtain ⟨hafter, herror⟩ : (subscribe ⟨manager, .strict⟩ body store).2 = _ ∧ (_ ↔ _) :=
        subscribe_of_address hsubmission
      obtain ⟨hboth, hwritten⟩ := h.upsert manager address.text
      rw [hafter, herror]
      exact ⟨hboth, hwritten, fun hnot => absurd rfl (hnot address)⟩

/-- A request that submits nothing is answered in one way, whatever the service and the store. -/
theorem answer_eq_of_not_isSubmission {request : Request} (hother : ¬ request.IsSubmission)
    (service service' : Service) (moment : Moment) (store store' : Store) :
    (service'.answer moment request store').1 = (service.answer moment request store).1 := by
  obtain ⟨response, hhandle⟩ := handle_of_not_isSubmission hother
  rw [answer_eq, answer_eq, hhandle, hhandle]

/-- How an answer under the strict policy stands beside the answer under the minimal one: success
is not its own, and where the request submits no address that the minimal policy accepts, the two
are one and the same. -/
structure Stricter (request : Request) (strict minimal : Exchange) : Prop where
  accepted : strict.response.status = 200 → minimal.response.status = 200
  refused : (request.IsSubmission → ∀ address, request.body.submission .minimal ≠ .ok address) →
    minimal = strict

theorem answer_within (manager : Manager) (h : store.Within store') (moment : Moment)
    (request : Request) :
    (answer ⟨manager, .strict⟩ moment request store).2.Within
        (answer ⟨manager, .minimal⟩ moment request store').2 ∧
      Stricter request (answer ⟨manager, .strict⟩ moment request store).1
        (answer ⟨manager, .minimal⟩ moment request store').1 := by
  by_cases hsubmission : request.IsSubmission
  · obtain ⟨hafter, haccepted, hrefused⟩ := subscribe_within manager h request.body
    rw [answer_of_isSubmission _ moment store hsubmission]
    rw [answer_of_isSubmission _ moment store' hsubmission]
    refine ⟨hafter, ?_, ?_⟩
    · simp only [Passage.exchange, Passage.told_ofSubscription, Response.status_withRequestId,
        Subscription.status_eq_ok_iff]
      exact haccepted
    · intro hnot
      rw [hrefused (hnot hsubmission)]
  · rw [answer_of_not_isSubmission hsubmission, answer_of_not_isSubmission hsubmission]
    have hsame := answer_eq_of_not_isSubmission hsubmission ⟨manager, .strict⟩ ⟨manager, .minimal⟩
      moment store store'
    exact ⟨h, fun hok => hsame ▸ hok, fun _ => hsame⟩

theorem step_within (manager : Manager) (h : store.Within store') (s : Step) :
    (step ⟨manager, .strict⟩ store s).2.Within (step ⟨manager, .minimal⟩ store' s).2 := by
  cases s with
  | request moment request => exact (answer_within manager h moment request).1
  | migrate => exact h.migrate manager
  | fail failure => exact h.arm failure

/-- At every point of two runs of the same steps, the last step was taken from stores of which the
strict one held no other addresses than the minimal one. -/
theorem within_of_run {manager : Manager} {steps : List Step} {i : Nat} {s : Step}
    {point point' : StepAnswer × Store} (h : store.Within store') (hs : steps[i]? = some s)
    (hstrict : (run ⟨manager, .strict⟩ store steps)[i]? = some point)
    (hminimal : (run ⟨manager, .minimal⟩ store' steps)[i]? = some point') :
    ∃ before before', before.Within before' ∧ point = step ⟨manager, .strict⟩ before s ∧
      point' = step ⟨manager, .minimal⟩ before' s := by
  -- The runs go on from stores that the first step left so related.
  induction steps generalizing store store' i with
  | nil => cases hs
  | cons first rest ih =>
    cases i with
    | zero =>
      simp only [run, List.getElem?_cons_zero, Option.some.injEq] at hs hstrict hminimal
      obtain rfl := hs
      exact ⟨store, store', h, hstrict.symm, hminimal.symm⟩
    | succ i =>
      simp only [run, List.getElem?_cons_succ] at hs hstrict hminimal
      exact ih (step_within manager h first) hs hstrict hminimal

/-- A service that runs under the strict policy beside one under the minimal policy, from one store
and through the same requests, migrations and failures. At every point, each database of the strict
store holds no address that the minimal one does not hold. A request that is answered with status
200 under the strict policy is so under the minimal one, and one that does not reach the store under
the minimal policy gets the same response and leaves the same log under both. The runs may spend a
failure at different steps and number their writes differently. -/
theorem strict_run_within_minimal (manager : Manager) (store : Store) (steps : List Step) (i : Nat)
    (s : Step) (strict minimal : StepAnswer × Store) (hs : steps[i]? = some s)
    (hstrict : (run ⟨manager, .strict⟩ store steps)[i]? = some strict)
    (hminimal : (run ⟨manager, .minimal⟩ store steps)[i]? = some minimal) :
    (∀ name, ∀ email ∈ (strict.2.server.database name).emails,
      email ∈ (minimal.2.server.database name).emails) ∧
    ∀ moment request, s = .request moment request →
      ∃ exchange exchange', strict.1 = .exchange exchange ∧ minimal.1 = .exchange exchange' ∧
        (exchange.response.status = 200 → exchange'.response.status = 200) ∧
        ((request.IsSubmission →
            ∀ address, request.body.submission .minimal ≠ .ok address) →
          exchange' = exchange) := by
  obtain ⟨before, before', hbefore, rfl, rfl⟩ := within_of_run (.refl store) hs hstrict hminimal
  refine ⟨?_, ?_⟩
  · intro name email hemail
    have hafter := step_within manager hbefore s
    exact (hafter.server.databases name).emails email hemail
  · rintro moment request rfl
    obtain ⟨_, hstricter⟩ := answer_within manager hbefore moment request
    exact ⟨_, _, rfl, rfl, hstricter.accepted, hstricter.refused⟩

/-- The failure is spent on an address that the strict policy refuses, so under that policy it
strikes the next one, which only the minimal run stores. -/
theorem strict_run_within_minimal_spent_failure :
    let manager : Manager := ⟨⟨"postgres", "", 5432, "localhost", "waitlist", .disable⟩, false⟩
    let submit (body : String) : Step := .request ⟨"", "", "", ""⟩
      ⟨.post, ⟨none, none, "/api/subscribe", none⟩, [], ⟨body.toUTF8.toList, none⟩⟩
    let steps := [.migrate, .fail ⟨"upsert", "57P01", "terminating connection"⟩,
      submit "[\"a@\"]", submit "[\"a@b\"]"]
    ∃ strict minimal : StepAnswer × Store,
      (run ⟨manager, .strict⟩ ⟨.server, .ofDatabase "waitlist"⟩ steps)[3]? = some strict ∧
      (run ⟨manager, .minimal⟩ ⟨.server, .ofDatabase "waitlist"⟩ steps)[3]? = some minimal ∧
      (strict.2.server.database "waitlist").emails = [] ∧
      (minimal.2.server.database "waitlist").emails = ["a@b"] ∧
      ∀ name, ∀ email ∈ (strict.2.server.database name).emails,
        email ∈ (minimal.2.server.database name).emails := by
  intro manager submit steps
  obtain ⟨strict, hstrict⟩ : ∃ point,
      (run ⟨manager, .strict⟩ ⟨.server, .ofDatabase "waitlist"⟩ steps)[3]? = some point := ⟨_, rfl⟩
  obtain ⟨minimal, hminimal⟩ : ∃ point,
      (run ⟨manager, .minimal⟩ ⟨.server, .ofDatabase "waitlist"⟩ steps)[3]? = some point := ⟨_, rfl⟩
  obtain ⟨hemails, _⟩ := strict_run_within_minimal manager ⟨.server, .ofDatabase "waitlist"⟩ steps
    3 _ strict minimal rfl hstrict hminimal
  refine ⟨strict, minimal, hstrict, hminimal, ?_, ?_, hemails⟩
  · rw [after_of_run hstrict]
    decide +kernel
  · rw [after_of_run hminimal]
    decide +kernel

end Service

end WaitingList

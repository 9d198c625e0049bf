import WaitingList.Proofs.Service.Refusal
import WaitingList.Proofs.Store.Hindrance
import WaitingList.Proofs.Store.Muted
import WaitingList.Service.Run

namespace WaitingList

/-- The response to a request without an id that the process made up for it. An id that the client
gave stays. -/
def Request.seen (request : Request) (response : Response) : Response :=
  match request.clientId? with
  | some _ => response
  | none =>
    { response with headers := response.headers.filter (·.name ≠ Response.requestIdName) }

/-- What is seen of an answer outside the log. -/
inductive Sight where
  | exchange (response : Response) (span : RequestSpan) (subscriber : Option EmailAddress)
  | migrated (succeeded : Bool)
  | armed
  deriving DecidableEq, Repr

namespace Step

def sight (s : Step) : StepAnswer → Sight
  | .exchange exchange =>
    let response := match s with
      | request _ sent => sent.seen exchange.response
      | _ => exchange.response
    .exchange response exchange.span exchange.subscriber
  | .migrated result => .migrated result.toOption.isSome
  | .armed => .armed

/-- The step without what the process makes up for it, and without what a failure says. -/
def muted : Step → Step
  | request _ sent => request ⟨"", "", "", ""⟩ sent
  | migrate => migrate
  | fail failure => fail failure.muted

end Step

theorem Request.seen_withRequestId (request : Request) (response : Response)
    (moment moment' : Moment) :
    request.seen (response.withRequestId (request.responseId moment)) =
      request.seen (response.withRequestId (request.responseId moment')) := by
  unfold seen
  cases hid : request.clientId? with
  | some id => simp [responseId, hid]
  | none => simp [Response.withRequestId, Header.set]

namespace Service

variable {service : Service} {store store' : Store}

/-- What is seen of a run outside the log: of each answer, and of the store that it leaves. -/
def sights (service : Service) (store : Store) (steps : List Step) : List (Sight × Store) :=
  (steps.zip (service.run store steps)).map fun (s, answer, now) => (s.sight answer, now.muted)

/-- A submission comes to one response for all that a failure may say. -/
theorem subscribe_of_muted (service : Service) (hmuted : store.muted = store'.muted)
    (body : Body) :
    (service.subscribe body store).1.subscriber = (service.subscribe body store').1.subscriber ∧
      (service.subscribe body store).1.response = (service.subscribe body store').1.response ∧
      (service.subscribe body store).2.muted = (service.subscribe body store').2.muted := by
  cases hsubmission : body.submission service.policy with
  | error error =>
    rw [subscribe_of_refused hsubmission, subscribe_of_refused hsubmission]
    exact ⟨rfl, rfl, hmuted⟩
  | ok address =>
    obtain ⟨hresult, hafter⟩ := Manager.upsert_of_muted hmuted service.manager address.text
    rcases hupsert : service.manager.upsert address.text store with ⟨result, after⟩
    rcases hupsert' : service.manager.upsert address.text store' with ⟨result', after'⟩
    rw [hupsert, hupsert'] at hresult hafter
    cases result with
    | ok done =>
      cases result' with
      | error error' => cases hresult
      | ok done' =>
        rw [subscribe_of_written hsubmission hupsert, subscribe_of_written hsubmission hupsert']
        exact ⟨rfl, rfl, hafter⟩
    | error error =>
      cases result' with
      | ok done' => cases hresult
      | error error' =>
        rw [subscribe_of_unwritten hsubmission hupsert,
          subscribe_of_unwritten hsubmission hupsert']
        exact ⟨rfl, rfl, hafter⟩

/-- A request is answered in one way for all that a failure may say, ids that the process makes up
aside. -/
theorem answer_of_muted (hmuted : store.muted = store'.muted) (moment moment' : Moment)
    (request : Request) :
    let s := Step.request moment request
    s.sight (.exchange (service.answer moment request store).1) =
        s.sight (.exchange (service.answer moment' request store').1) ∧
      (service.answer moment request store).2.muted =
        (service.answer moment' request store').2.muted := by
  intro s
  have hresponse (response : Response) :
      request.seen (response.withRequestId (request.responseId moment)) =
        request.seen (response.withRequestId (request.responseId moment')) :=
    request.seen_withRequestId response moment moment'
  rw [answer_eq, answer_eq, handle, handle]
  cases Route.of request.method request.uri.path with
  | health | methodNotAllowed | notFound =>
    refine ⟨?_, hmuted⟩
    simp only [s, Step.sight, Passage.exchange, hresponse]
  | subscribe =>
    obtain ⟨hsubscriber, hsame, hafter⟩ := service.subscribe_of_muted hmuted request.body
    refine ⟨?_, hafter⟩
    simp only [s, Step.sight, Passage.exchange, Passage.told_ofSubscription, hresponse, hsame,
      Passage.subscriber_ofSubscription, hsubscriber]

theorem step_of_muted (service : Service) (hmuted : store.muted = store'.muted) {s s' : Step}
    (hstep : s.muted = s'.muted) :
    s.sight (service.step store s).1 = s'.sight (service.step store' s').1 ∧
      (service.step store s).2.muted = (service.step store' s').2.muted := by
  cases s with
  | request moment request =>
    cases s' with
    | request moment' request' =>
      obtain rfl : request = request' := by simpa [Step.muted] using hstep
      exact answer_of_muted hmuted moment moment' request
    | migrate | fail => cases hstep
  | migrate =>
    cases s' with
    | migrate =>
      obtain ⟨hresult, hafter⟩ := Manager.migrate_of_muted hmuted service.manager
      exact ⟨by simp only [Step.sight, step, hresult], hafter⟩
    | request | fail => cases hstep
  | fail failure =>
    cases s' with
    | fail failure' =>
      have hfailure : failure.muted = failure'.muted := by simpa [Step.muted] using hstep
      have hafter : store.muted.arm failure.muted = store'.muted.arm failure'.muted := by
        rw [hmuted, hfailure]
      exact ⟨rfl, hafter⟩
    | request | migrate => cases hstep

/-- Runs that differ only in what failures say look the same from outside the log. -/
theorem sights_of_muted (hmuted : store.muted = store'.muted) {steps steps' : List Step}
    (hsteps : steps.map Step.muted = steps'.map Step.muted) :
    service.sights store steps = service.sights store' steps' := by
  -- The two runs go on from stores that are alike but for what failures say.
  induction steps generalizing store store' steps' with
  | nil =>
    obtain rfl : steps' = [] := by simpa using hsteps.symm
    rfl
  | cons s rest ih =>
    cases steps' with
    | nil => cases hsteps
    | cons s' rest' =>
      obtain ⟨hstep, hrest⟩ := List.cons.inj hsteps
      obtain ⟨hsight, hafter⟩ := service.step_of_muted hmuted hstep
      have htail := ih hafter hrest
      simp only [sights, run, List.zip_cons_cons, List.map_cons, hsight, hafter]
      exact congrArg (_ :: ·) htail

theorem response_of_unwritten (error : StoreError) (id : List UInt8) :
    (Response.refused (.store error)).withRequestId id =
      ⟨500, [.ofText "content-type" "application/json", .ofText "content-length" "25",
        ⟨"x-request-id", id⟩], "\x7b\"error\":\"Service error\"\x7d"⟩ := by
  have hbody : JsonText.object [("error", JsonText.string "Service error")] =
      "\x7b\"error\":\"Service error\"\x7d" := by decide
  have hlength : toString "\x7b\"error\":\"Service error\"\x7d".utf8ByteSize = "25" := by decide
  have hresponse : Response.refused (.store error) =
      Response.ofJson 500 (JsonText.object [("error", JsonText.string "Service error")]) := rfl
  rw [hresponse, hbody, Response.ofJson, hlength]
  rfl

section Write

variable {request : Request} {address : EmailAddress} {moment : Moment}

theorem answer_of_hindered {error : StoreError} (hsubmission : request.IsSubmission)
    (haddress : request.body.submission service.policy = .ok address)
    (hhindered : service.manager.Hindered store error) :
    (service.answer moment request store).1 =
      (Passage.ofSubscription moment ⟨some address, some (.store error)⟩).exchange moment
        request := by
  have herror := (Manager.upsert_eq_error_iff address.text).mpr hhindered
  rcases hupsert : service.manager.upsert address.text store with ⟨result, after⟩
  rw [hupsert] at herror
  subst herror
  rw [answer_of_isSubmission service moment store hsubmission,
    subscribe_of_unwritten haddress hupsert]

/-- A submission whose address passes the checks is accepted where nothing hinders the write. -/
theorem answer_of_free (hsubmission : request.IsSubmission)
    (haddress : request.body.submission service.policy = .ok address)
    (hfree : ∀ error, ¬ service.manager.Hindered store error) :
    (service.answer moment request store).1 =
      (Passage.ofSubscription moment ⟨some address, none⟩).exchange moment request := by
  have hok := Manager.upsert_eq_ok address.text hfree
  rcases hupsert : service.manager.upsert address.text store with ⟨result, after⟩
  rw [hupsert] at hok
  subst hok
  rw [answer_of_isSubmission service moment store hsubmission,
    subscribe_of_written haddress hupsert]

end Write

/-- What a client is told of a store that fails, and what it is not told. A submission whose
address passes the checks is accepted unless the write is hindered, and then it gets one and the
same response but for its id, while the log tells the reason. Runs of the same steps on the same
store, which may differ in what failures say and in what the process makes up, look the same from
outside the log. -/
theorem store_failures_undisclosed (service : Service) :
    (∀ (request : Request) (address : EmailAddress) (moment : Moment) (store : Store),
      request.IsSubmission → request.body.submission service.policy = .ok address →
      (∀ error, service.manager.Hindered store error →
        (service.answer moment request store).1.response =
          ⟨500, [.ofText "content-type" "application/json", .ofText "content-length" "25",
            ⟨"x-request-id", request.responseId moment⟩],
            "\x7b\"error\":\"Service error\"\x7d"⟩ ∧
        (service.answer moment request store).1.requestLines.map RequestLine.errorMembers =
          [[("client_error_type", "ServiceError"), ("web_error_type", "Sqlx"),
            ("web_error_msg", s!"sqlx error: {error.message}")]]) ∧
      ((∀ error, ¬ service.manager.Hindered store error) →
        (service.answer moment request store).1.response.status = 200)) ∧
    ∀ (store store' : Store) (steps steps' : List Step), store.muted = store'.muted →
      steps.map Step.muted = steps'.map Step.muted →
        service.sights store steps = service.sights store' steps' := by
  refine ⟨?_, fun store store' steps steps' hmuted hsteps => sights_of_muted hmuted hsteps⟩
  intro request address moment store hsubmission haddress
  constructor
  · intro error hhindered
    rw [answer_of_hindered hsubmission haddress hhindered]
    exact ⟨response_of_unwritten error _, rfl⟩
  · intro hfree
    rw [answer_of_free hsubmission haddress hfree]
    rfl

/-- Two failures that strike the same upsert are told apart by the log alone. -/
theorem store_failures_undisclosed_upsert :
    let service : Service :=
      ⟨⟨⟨"postgres", "", 5432, "localhost", "waitlist", .disable⟩, false⟩, .minimal⟩
    let moment : Moment := ⟨"", "", "", ""⟩
    let request : Request := ⟨.post, ⟨none, none, "/api/subscribe", none⟩, [],
      ⟨"[\"a@b\"]".toUTF8.toList, none⟩⟩
    let store : Store := ⟨.server, ⟨[("waitlist", ⟨some [], []⟩)], 0, none, none⟩⟩
    let outage : Failure := ⟨"upsert", "57P01", "terminating connection"⟩
    let conflict : Failure := ⟨"upsert", "40001", "could not serialize access"⟩
    let steps (failure : Failure) : List Step := [.fail failure, .request moment request]
    service.sights store (steps outage) = service.sights store (steps conflict) ∧
      (service.answer moment request (store.arm outage)).1.response.status = 500 ∧
      (service.answer moment request (store.arm outage)).1.requestLines ≠
        (service.answer moment request (store.arm conflict)).1.requestLines := by
  intro service moment request store outage conflict steps
  have haddress : request.body.submission service.policy = .ok ⟨"a@b"⟩ := by decide +kernel
  obtain ⟨hanswer, hsights⟩ := store_failures_undisclosed service
  have hhindered (failure : Failure) (hkind : failure.kind = "upsert") :
      service.manager.Hindered (store.arm failure) (.database failure.text) := by
    refine .struck rfl ?_
    simp [Store.arm, Server.arm, Server.struck?, Failure.hits, hkind, Statement.name]
  have houtage := (hanswer request _ moment (store.arm outage) ⟨rfl, rfl⟩ haddress).1 _
    (hhindered outage rfl)
  have hconflict := (hanswer request _ moment (store.arm conflict) ⟨rfl, rfl⟩ haddress).1 _
    (hhindered conflict rfl)
  refine ⟨hsights store store (steps outage) (steps conflict) rfl rfl, ?_, ?_⟩
  · rw [houtage.1]
  · intro hsame
    have hmembers := houtage.2.symm.trans ((congrArg _ hsame).trans hconflict.2)
    revert hmembers
    decide

end Service

end WaitingList

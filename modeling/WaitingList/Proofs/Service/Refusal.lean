import WaitingList.Proofs.Service.Layers
import WaitingList.Proofs.Store.Manager

namespace WaitingList

/-- A request that submits an address. -/
def Request.IsSubmission (request : Request) : Prop :=
  request.method = .post ∧ request.uri.path = "/api/subscribe"

instance (request : Request) : Decidable request.IsSubmission :=
  inferInstanceAs (Decidable (_ ∧ _))

/-- What a client and the log are told of a request: the status, the body of the response, and the
members of each line of the log that tell of an error. -/
def Exchange.verdict (exchange : Exchange) : Nat × String × List (List (String × String)) :=
  (exchange.response.status, exchange.response.body,
    exchange.requestLines.map RequestLine.errorMembers)

namespace Body

/-- The reasons for which a body is refused under a policy, each with the error that is logged, the
status, and what the client is told. A reason only counts if none before it applies. -/
inductive Refused (policy : EmailPolicy) (body : Body) : RequestError → Nat → String → Prop where
  | tooLong (hlong : 2097152 < body.bytes.length) :
      Refused policy body (.body .tooLong) 413 "Invalid request body"
  | broken {text : String} (hshort : body.bytes.length ≤ 2097152)
      (hbroken : body.breakage = some text) :
      Refused policy body (.body (.broken text)) 400 "Invalid request body"
  | malformed {fault : Submission.Fault} (hshort : body.bytes.length ≤ 2097152)
      (hwhole : body.breakage = none) (hread : Submission.read body.bytes = .error fault)
      (hform : fault.cause.concernsShape = false) :
      Refused policy body (.json fault) 400 "Invalid request body"
  | misshapen {fault : Submission.Fault} (hshort : body.bytes.length ≤ 2097152)
      (hwhole : body.breakage = none) (hread : Submission.read body.bytes = .error fault)
      (hshape : fault.cause.concernsShape = true) :
      Refused policy body (.json fault) 400 "Invalid email"
  | missing (hshort : body.bytes.length ≤ 2097152) (hwhole : body.breakage = none)
      (hread : Submission.read body.bytes = .ok none) :
      Refused policy body (.email .missing) 400 "Invalid email"
  | unacceptable {text : String} {fault : EmailFault} (hshort : body.bytes.length ≤ 2097152)
      (hwhole : body.breakage = none) (hread : Submission.read body.bytes = .ok (some text))
      (hparse : EmailAddress.parse policy text = .error fault) :
      Refused policy body (.email fault) 400 "Invalid email"

section Submission

variable {policy : EmailPolicy} {body : Body}

/-- A body that arrives whole submits what its bytes do. -/
theorem submission_of_whole (hshort : body.bytes.length ≤ 2097152)
    (hwhole : body.breakage = none) :
    body.submission policy = Submission.accept policy body.bytes := by
  have hlength : ¬ body.bytes.length > maxLength := Nat.not_lt.mpr hshort
  simp [submission, read, hlength, hwhole]

/-- A body submits an address exactly if it arrives whole and its bytes do. -/
theorem submission_eq_ok_iff {address : EmailAddress} :
    body.submission policy = .ok address ↔
      body.bytes.length ≤ 2097152 ∧ body.breakage = none ∧
        Submission.accept policy body.bytes = .ok address := by
  by_cases hlong : body.bytes.length > maxLength
  · have hnot : ¬ body.bytes.length ≤ 2097152 := Nat.not_le.mpr hlong
    simp [submission, read, hlong, hnot]
  · have hshort : body.bytes.length ≤ 2097152 := Nat.not_lt.mp hlong
    cases hbreakage : body.breakage with
    | some text => simp [submission, read, hlong, hbreakage]
    | none => simp [submission_of_whole hshort hbreakage, hshort]

end Submission

namespace Refused

variable {policy : EmailPolicy} {body : Body} {error : RequestError} {status : Nat} {told : String}

theorem submission (h : body.Refused policy error status told) :
    body.submission policy = .error error := by
  cases h with
  | tooLong hlong =>
    have hlength : body.bytes.length > maxLength := hlong
    simp [Body.submission, read, hlength]
  | broken hshort hbroken =>
    have hlength : ¬ body.bytes.length > maxLength := Nat.not_lt.mpr hshort
    simp [Body.submission, read, hlength, hbroken]
  | malformed hshort hwhole hread hform =>
    simp [submission_of_whole hshort hwhole, Submission.accept, hread]
  | misshapen hshort hwhole hread hshape =>
    simp [submission_of_whole hshort hwhole, Submission.accept, hread]
  | missing hshort hwhole hread =>
    simp [submission_of_whole hshort hwhole, Submission.accept, hread]
  | unacceptable hshort hwhole hread hparse =>
    simp [submission_of_whole hshort hwhole, Submission.accept, hread, hparse]

theorem status_eq (h : body.Refused policy error status told) : error.status = status := by
  cases h <;> rfl

theorem told_eq (h : body.Refused policy error status told) :
    error.clientError.message = told := by
  cases h with
  | malformed _ _ _ hform => simp [RequestError.clientError, hform, ClientError.message]
  | misshapen _ _ _ hshape => simp [RequestError.clientError, hshape, ClientError.message]
  | _ => rfl

/-- The table misses no refusal. -/
theorem of_submission (h : body.submission policy = .error error) :
    ∃ status told, body.Refused policy error status told := by
  by_cases hlong : 2097152 < body.bytes.length
  · have htable : body.Refused policy _ _ _ := .tooLong hlong
    rw [htable.submission, Except.error.injEq] at h
    exact ⟨_, _, h ▸ htable⟩
  have hshort := Nat.not_lt.mp hlong
  cases hbreakage : body.breakage with
  | some text =>
    have htable : body.Refused policy _ _ _ := .broken hshort hbreakage
    rw [htable.submission, Except.error.injEq] at h
    exact ⟨_, _, h ▸ htable⟩
  | none =>
    rw [submission_of_whole hshort hbreakage] at h
    unfold Submission.accept at h
    split at h
    next fault hread =>
      obtain rfl := Except.error.inj h
      cases hcause : fault.cause.concernsShape with
      | false => exact ⟨_, _, .malformed hshort hbreakage hread hcause⟩
      | true => exact ⟨_, _, .misshapen hshort hbreakage hread hcause⟩
    next hread => exact Except.error.inj h ▸ ⟨_, _, .missing hshort hbreakage hread⟩
    next text hread =>
      split at h
      next fault hparse =>
        exact Except.error.inj h ▸ ⟨_, _, .unacceptable hshort hbreakage hread hparse⟩
      next => cases h

end Refused

end Body

namespace Service

variable {request : Request}

theorem handle_of_isSubmission (service : Service) (moment : Moment) (store : Store)
    (hsubmission : request.IsSubmission) :
    service.handle moment request store =
      (.ofSubscription moment (service.subscribe request.body store).1,
        (service.subscribe request.body store).2) := by
  obtain ⟨hmethod, hpath⟩ := hsubmission
  have hroute : Route.of request.method request.uri.path = .subscribe := by
    rw [hmethod, hpath]
    decide
  simp only [handle, hroute]

/-- A submission is answered with what became of it. -/
theorem answer_of_isSubmission (service : Service) (moment : Moment) (store : Store)
    (hsubmission : request.IsSubmission) :
    service.answer moment request store =
      ((Passage.ofSubscription moment (service.subscribe request.body store).1).exchange moment
        request, (service.subscribe request.body store).2) := by
  rw [answer_eq, handle_of_isSubmission service moment store hsubmission]

section Subscribe

variable {service : Service} {body : Body} {store after : Store} {address : EmailAddress}

/-- A submission that is refused does not reach the store. -/
theorem subscribe_of_refused {error : RequestError}
    (hrefused : body.submission service.policy = .error error) :
    service.subscribe body store = (⟨none, some error⟩, store) := by
  simp only [subscribe, hrefused]

theorem subscribe_of_unwritten {error : StoreError}
    (haddress : body.submission service.policy = .ok address)
    (hupsert : service.manager.upsert address.text store = (.error error, after)) :
    service.subscribe body store = (⟨some address, some (.store error)⟩, after) := by
  simp only [subscribe, haddress, hupsert]

theorem subscribe_of_written (haddress : body.submission service.policy = .ok address)
    (hupsert : service.manager.upsert address.text store = (.ok (), after)) :
    service.subscribe body store = (⟨some address, none⟩, after) := by
  simp only [subscribe, haddress, hupsert]

/-- A submission that passes the checks comes to what the upsert of its address comes to. -/
theorem subscribe_of_address (haddress : body.submission service.policy = .ok address) :
    (service.subscribe body store).2 = (service.manager.upsert address.text store).2 ∧
      ((service.subscribe body store).1.error = none ↔
        (service.manager.upsert address.text store).1 = .ok ()) := by
  rcases hupsert : service.manager.upsert address.text store with ⟨error | done, after⟩
  · rw [subscribe_of_unwritten haddress hupsert]
    simp
  · rw [subscribe_of_written haddress hupsert]
    simp

end Subscribe

theorem refused_body (error : RequestError) :
    (Response.refused error).body =
      "\x7b\"error\":\"" ++ error.clientError.message ++ "\"\x7d" := by
  cases hclient : error.clientError <;> simp only [Response.refused, Response.ofJson, hclient] <;>
    decide

/-- A refused submission leaves the store exactly as it was, failures that wait included, and its
verdict is read off the table of refusals. -/
theorem answer_of_refused {policy : EmailPolicy} {error : RequestError} {status : Nat}
    {told : String} (manager : Manager) (moment : Moment) (store : Store)
    (hsubmission : request.IsSubmission)
    (hrefused : request.body.Refused policy error status told) :
    (answer ⟨manager, policy⟩ moment request store).2 = store ∧
      (answer ⟨manager, policy⟩ moment request store).1.verdict =
        (status, "\x7b\"error\":\"" ++ told ++ "\"\x7d",
          [[("client_error_type", error.clientError.typeName),
            ("web_error_type", error.typeName), ("web_error_msg", error.message)]]) := by
  have hsubscribe : subscribe ⟨manager, policy⟩ request.body store =
      (⟨none, some error⟩, store) := subscribe_of_refused hrefused.submission
  rw [answer_of_isSubmission ⟨manager, policy⟩ moment store hsubmission, hsubscribe]
  refine ⟨rfl, ?_⟩
  rw [← hrefused.status_eq, ← hrefused.told_eq, ← refused_body]
  rfl

/-- A refused submission as the client and the store see it. -/
theorem response_of_refused {service : Service} {moment : Moment} {store : Store}
    {error : RequestError} {status : Nat} {told : String} (hsubmission : request.IsSubmission)
    (hrefused : request.body.Refused service.policy error status told) :
    (service.answer moment request store).1.response.status = status ∧
      (service.answer moment request store).1.response.body =
        "\x7b\"error\":\"" ++ told ++ "\"\x7d" ∧
      (service.answer moment request store).2 = store := by
  obtain ⟨hstore, hverdict⟩ := answer_of_refused service.manager moment store hsubmission hrefused
  exact ⟨congrArg Prod.fst hverdict, congrArg (fun verdict => verdict.2.1) hverdict, hstore⟩

/-- The store takes no part in a refusal. Every submission whose body is in the table of refusals
gets the verdict of the table and leaves the store exactly as it was, failures that wait included.
So two submissions of one body under one policy get one verdict, whatever the managers, the stores
and the moments. A body that is not in the table submits an address. -/
theorem refusal_independent_of_store (policy : EmailPolicy) (request : Request)
    (hsubmission : request.IsSubmission) :
    (∀ error status told, request.body.Refused policy error status told →
      (∀ manager moment store,
        (answer ⟨manager, policy⟩ moment request store).2 = store ∧
          (answer ⟨manager, policy⟩ moment request store).1.verdict =
            (status, "\x7b\"error\":\"" ++ told ++ "\"\x7d",
              [[("client_error_type", error.clientError.typeName),
                ("web_error_type", error.typeName), ("web_error_msg", error.message)]])) ∧
      ∀ other : Request, other.IsSubmission → other.body = request.body →
        ∀ manager manager' moment moment' store store',
          (answer ⟨manager', policy⟩ moment' other store').1.verdict =
            (answer ⟨manager, policy⟩ moment request store).1.verdict) ∧
    ((∀ error status told, ¬ request.body.Refused policy error status told) →
      ∃ address, request.body.submission policy = .ok address) := by
  refine ⟨?_, ?_⟩
  · intro error status told hrefused
    refine ⟨fun manager moment store =>
      answer_of_refused manager moment store hsubmission hrefused, ?_⟩
    intro other hother hbody manager manager' moment moment' store store'
    have hverdict := answer_of_refused manager moment store hsubmission hrefused
    have hother := answer_of_refused manager' moment' store' hother (hbody ▸ hrefused)
    exact hother.2.trans hverdict.2.symm
  · intro hnone
    cases hsubmitted : request.body.submission policy with
    | ok address => exact ⟨address, rfl⟩
    | error error =>
      obtain ⟨status, told, hrefused⟩ := Body.Refused.of_submission hsubmitted
      exact absurd hrefused (hnone error status told)

/-- A stream that breaks behind a complete submission is refused as unread, though a failure waits
for the upsert, and the failure goes on waiting. -/
theorem refusal_independent_of_store_broken_stream :
    let body : Body := ⟨"\x7b\"email\":\"a@b\"\x7d".toUTF8.toList, some "reset"⟩
    let request : Request := ⟨.post, ⟨none, none, "/api/subscribe", none⟩, [], body⟩
    let store : Store :=
      ⟨.server, ⟨[("waitlist", ⟨some [], []⟩)], 0, some ⟨"upsert", "", ""⟩, none⟩⟩
    let manager : Manager := ⟨⟨"postgres", "", 5432, "localhost", "waitlist", .disable⟩, false⟩
    let answer := Service.answer ⟨manager, .minimal⟩ ⟨"", "", "", ""⟩ request store
    request.IsSubmission ∧ answer.2 = store ∧ answer.1.verdict.1 = 400 := by
  intro body request store manager answer
  have hsubmission : request.IsSubmission := ⟨rfl, rfl⟩
  have hrefused : body.Refused .minimal (.body (.broken "reset")) 400 "Invalid request body" :=
    .broken (by decide +kernel) rfl
  obtain ⟨hstore, hverdict⟩ := ((refusal_independent_of_store .minimal request hsubmission).1 _ _ _
    hrefused).1 manager ⟨"", "", "", ""⟩ store
  exact ⟨hsubmission, hstore, by rw [hverdict]⟩

end Service

end WaitingList

import WaitingList.Proofs.Service.Ledger

namespace WaitingList

theorem isServerError_iff {status : Nat} : isServerError status ↔ 500 ≤ status ∧ status < 600 := by
  simp [isServerError]

namespace Service

variable {service : Service} {store : Store}

/-- Each step of a run is taken from the store that the steps before it left. -/
theorem getElem?_run (steps : List Step) (i : Nat) :
    (service.run store steps)[i]? =
      steps[i]?.map (service.step (service.after store (steps.take i))) := by
  induction steps generalizing store i with
  | nil => simp [run]
  | cons s rest ih =>
    cases i with
    | zero => rfl
    | succ i => exact ih i

/-- What a request of a run leads to is what it leads to at its point of the run. -/
theorem run_of_request {steps : List Step} {i : Nat} {moment : Moment} {request : Request}
    (hstep : steps[i]? = some (.request moment request)) :
    let before := service.after store (steps.take i)
    (service.run store steps)[i]? =
      some (.exchange ((service.handle moment request before).1.exchange moment request),
        (service.handle moment request before).2) := by
  intro before
  rw [getElem?_run, hstep, Option.map_some, step, answer_eq]

end Service

namespace Passage

variable {passage : Passage} {moment : Moment} {request : Request}

/-- Nothing has been logged that the layers log. -/
def Quiet (p : Passage) : Prop :=
  ∀ event ∈ p.events, event.source ≠ .requests ∧ event.source ≠ .requestLines

theorem quiet_plain (response : Response) : (plain response).Quiet := by
  intro event hevent
  cases hevent

theorem quiet_ofSubscription (moment : Moment) (s : Subscription) :
    (ofSubscription moment s).Quiet := by
  intro event hevent
  cases herror : s.error <;>
    simp only [ofSubscription, Subscription.events, herror, List.mem_singleton] at hevent <;>
    simp [hevent, Event.source]

/-- How an exchange agrees with the passage that its route sent back. -/
structure Agrees (passage : Passage) (moment : Moment) (request : Request) (exchange : Exchange) :
    Prop where
  /-- One line is kept. It has the status of the response, it is an error exactly if that is a
  status of the server's errors, and it tells of the error that came back, if one did. -/
  line : ∃ line, exchange.requestLines = [line] ∧ line.status = exchange.response.status ∧
    (line.level = .error ↔ 500 ≤ exchange.response.status ∧ exchange.response.status < 600) ∧
    line.errorMembers = passage.error.elim [] fun error =>
      [("client_error_type", error.clientError.typeName), ("web_error_type", error.typeName),
        ("web_error_msg", error.message)]
  /-- An error that came back is what the client is told of. -/
  refused : ∀ error, passage.error = some error →
    let body := "\x7b\"error\":\"" ++ error.clientError.message ++ "\"\x7d"
    exchange.response =
      ⟨error.status, [.ofText "content-type" "application/json",
        .ofText "content-length" (toString body.utf8ByteSize),
        ⟨"x-request-id", request.responseId moment⟩], body⟩
  /-- Without an error the response of the route only gets the id. -/
  untouched : passage.error = none → exchange.response =
    ⟨passage.response.status,
      passage.response.headers ++ [⟨"x-request-id", request.responseId moment⟩],
      passage.response.body⟩
  /-- The request is begun once and ended once, with the status of the response. -/
  spanned : exchange.events.filter (·.source = .requests) =
    [.requestBegun request.uri.text, .requestEnded moment.latency exchange.response.status]
  ended : (Event.requestEnded moment.latency exchange.response.status).level =
    if 500 ≤ exchange.response.status ∧ exchange.response.status < 600 then .error
    else if 400 ≤ exchange.response.status ∧ exchange.response.status < 500 then .warn
    else .info

theorem requestLines_exchange (hquiet : passage.Quiet) :
    (passage.exchange moment request).requestLines =
      [{ time := moment.time
         requestId := request.loggedId moment
         method := request.method.name
         uri := request.uri.text
         status := passage.told.status
         error := passage.error }] := by
  unfold Exchange.requestLines exchange
  rw [List.filterMap_append, List.filterMap_append,
    (List.filterMap_eq_nil_iff (l := passage.events)).mpr]
  · rfl
  · intro event hevent
    cases event with
    | requestLogged line => exact absurd rfl (hquiet _ hevent).2
    | _ => rfl

theorem filter_requests_exchange (hquiet : passage.Quiet) :
    (passage.exchange moment request).events.filter (·.source = .requests) =
      [.requestBegun request.uri.text, .requestEnded moment.latency passage.told.status] := by
  have hnone : passage.events.filter (·.source = .requests) = [] := by
    rw [List.filter_eq_nil_iff]
    intro event hevent
    simpa using (hquiet event hevent).1
  rw [exchange, List.filter_append, List.filter_append, hnone]
  rfl

/-- What the layers make of a passage agrees with it. -/
theorem agrees_exchange (hid : passage.response.id? = none) (hquiet : passage.Quiet) :
    passage.Agrees moment request (passage.exchange moment request) where
  line := by
    refine ⟨_, requestLines_exchange hquiet, rfl, ?_, ?_⟩
    · rw [RequestLine.level, ← isServerError_iff]
      simp [exchange]
    · cases herror : passage.error <;> simp [RequestLine.errorMembers]
  refused := by
    intro error herror body
    have htold : passage.told = .refused error := by rw [told, herror]
    have hnoId : (Response.refused error).id? = none := Response.id?_ofJson _ _
    have hbody : (Response.refused error).body = body := Service.refused_body error
    rw [exchange, htold, Response.withRequestId_of_id?_eq_none hnoId, ← hbody]
    rfl
  untouched := by
    intro hnone
    have htold : passage.told = passage.response := by rw [told, hnone]
    rw [exchange, htold, Response.withRequestId_of_id?_eq_none hid]
    rfl
  spanned := filter_requests_exchange hquiet
  ended := by
    simp [Event.level, isServerError, isClientError]

end Passage

namespace Service

theorem quiet_handle (service : Service) (moment : Moment) (request : Request) (store : Store) :
    (service.handle moment request store).1.Quiet := by
  unfold handle
  cases Route.of request.method request.uri.path with
  | health | methodNotAllowed | notFound => exact Passage.quiet_plain _
  | subscribe => exact Passage.quiet_ofSubscription moment _

theorem subscriber_subscribe (service : Service) (body : Body) (store : Store) :
    (service.subscribe body store).1.subscriber = (body.submission service.policy).toOption := by
  cases hsubmission : body.submission service.policy with
  | error error =>
    rw [subscribe_of_refused hsubmission]
    rfl
  | ok address =>
    rcases hupsert : service.manager.upsert address.text store with ⟨error | done, after⟩
    · rw [subscribe_of_unwritten hsubmission hupsert]
      rfl
    · rw [subscribe_of_written hsubmission hupsert]
      rfl

/-- An address is recorded for a submission whose body passes the checks, and for nothing else. -/
theorem subscriber_handle_iff (service : Service) (moment : Moment) (request : Request)
    (store : Store) (address : EmailAddress) :
    (service.handle moment request store).1.subscriber = some address ↔
      request.IsSubmission ∧ request.body.submission service.policy = .ok address := by
  by_cases hsubmission : request.IsSubmission
  · rw [handle_of_isSubmission service moment store hsubmission, Passage.subscriber_ofSubscription,
      subscriber_subscribe]
    cases request.body.submission service.policy <;> simp [hsubmission, Except.toOption]
  · obtain ⟨response, hhandle⟩ := handle_of_not_isSubmission hsubmission
    simp [hhandle, Passage.plain, hsubmission]

/-- The three accounts of each request of a run agree, whatever the request, the steps before it and
the store: the exchange agrees with the passage that the route sent back, and the address that is
recorded is the one that the body submits, if the body passes the checks. -/
theorem exchange_agrees (service : Service) (store : Store) (steps : List Step) (i : Nat)
    (moment : Moment) (request : Request) (hstep : steps[i]? = some (.request moment request)) :
    let before := service.after store (steps.take i)
    ∃ exchange now, (service.run store steps)[i]? = some (.exchange exchange, now) ∧
      (service.handle moment request before).1.Agrees moment request exchange ∧
      ∀ address, exchange.subscriber = some address ↔
        request.IsSubmission ∧ request.body.submission service.policy = .ok address := by
  intro before
  exact ⟨_, _, run_of_request hstep,
    Passage.agrees_exchange (service.id?_handle moment request before)
      (service.quiet_handle moment request before),
    service.subscriber_handle_iff moment request before⟩

/-- A submission that the store does not take, behind a migration that it could not run: the empty
response that stood for the error is not the one that the client is given. -/
theorem exchange_agrees_outage :
    let service : Service :=
      ⟨⟨⟨"postgres", "", 5432, "localhost", "waitlist", .disable⟩, false⟩, .minimal⟩
    let request : Request := ⟨.post, ⟨none, none, "/api/subscribe", none⟩, [],
      ⟨"[\"a@b\"]".toUTF8.toList, none⟩⟩
    let steps : List Step := [.migrate, .request ⟨"", "", "n", "s"⟩ request]
    ∃ exchange now line, (service.run ⟨.nowhere, .empty⟩ steps)[1]? =
        some (.exchange exchange, now) ∧
      exchange.requestLines = [line] ∧ line.status = 500 ∧
      exchange.response.body = "\x7b\"error\":\"Service error\"\x7d" ∧
      exchange.subscriber = some ⟨"a@b"⟩ := by
  intro service request steps
  obtain ⟨exchange, now, hpoint, hagrees, hsubscriber⟩ :=
    exchange_agrees service ⟨.nowhere, .empty⟩ steps 1 _ request rfl
  have hresponse := hagrees.refused (.store .unreachable) (by decide +kernel)
  obtain ⟨line, hlines, hstatus, _, _⟩ := hagrees.line
  rw [hresponse] at hstatus
  exact ⟨exchange, now, line, hpoint, hlines, hstatus, by rw [hresponse]; rfl,
    (hsubscriber ⟨"a@b"⟩).mpr ⟨⟨rfl, rfl⟩, by decide +kernel⟩⟩

end Service

end WaitingList

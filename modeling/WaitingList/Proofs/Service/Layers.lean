import WaitingList.Proofs.Text.Utf8
import WaitingList.Service.Layers

namespace WaitingList

namespace Header

variable {name : String} {value : List UInt8} {headers : List Header}

theorem first?_eq_none_iff : first? name headers = none ↔ ∀ h ∈ headers, h.name ≠ name := by
  simp [first?]

/-- Of the fields of a name only the new one is left. -/
theorem filter_set : (set headers ⟨name, value⟩).filter (·.name = name) = [⟨name, value⟩] := by
  simp [set, List.filter_append, List.filter_filter]

theorem first?_set : first? name (set headers ⟨name, value⟩) = some value := by
  rw [first?, ← List.head?_filter, filter_set]
  rfl

/-- Where no field has the name, the new one is put behind the others. -/
theorem set_of_first?_eq_none (h : first? name headers = none) :
    set headers ⟨name, value⟩ = headers ++ [⟨name, value⟩] := by
  rw [set, List.filter_eq_self.mpr]
  simpa using first?_eq_none_iff.mp h

end Header

namespace Request

variable {request : Request} {moment : Moment}

/-- The id of the response to a request: the one that the client gave, or else the new one. -/
def responseId (request : Request) (moment : Moment) : List UInt8 :=
  request.clientId?.getD (Utf8.encode moment.newId.toList)

/-- The id that the log knows a request by: that of the response, unless it cannot be read. -/
def loggedId (request : Request) (moment : Moment) : String :=
  (Header.readable? (request.responseId moment)).getD moment.spareId

@[simp]
theorem method_identified (newId : String) :
    (request.identified newId).method = request.method := by
  unfold identified
  split <;> rfl

@[simp]
theorem uri_identified (newId : String) : (request.identified newId).uri = request.uri := by
  unfold identified
  split <;> rfl

@[simp]
theorem body_identified (newId : String) : (request.identified newId).body = request.body := by
  unfold identified
  split <;> rfl

/-- Behind the first layer a request has the id that its response will have. -/
@[simp]
theorem clientId?_identified :
    (request.identified moment.newId).clientId? = some (request.responseId moment) := by
  cases hid : request.clientId? with
  | some id => simp [identified, responseId, hid]
  | none =>
    simp only [identified, responseId, hid, Option.getD_none]
    exact Header.first?_set

end Request

namespace Response

variable {r : Response} {id : List UInt8}

@[simp]
theorem id?_withRequestId : (r.withRequestId id).id? = some id := Header.first?_set

@[simp]
theorem status_withRequestId : (r.withRequestId id).status = r.status := rfl

@[simp]
theorem status_refused (error : RequestError) : (refused error).status = error.status := rfl

/-- An id is the only thing that a new id takes the place of. -/
theorem withRequestId_of_id?_eq_none (h : r.id? = none) :
    r.withRequestId id = ⟨r.status, r.headers ++ [⟨requestIdName, id⟩], r.body⟩ := by
  rw [withRequestId, Header.set_of_first?_eq_none h]

theorem id?_ofJson (status : Nat) (body : String) : (ofJson status body).id? = none :=
  Header.first?_eq_none_iff.mpr (by simp [ofJson, Header.ofText, requestIdName])

end Response

namespace Passage

/-- The response that the client is told of: the one that was sent back, unless it stands for an
error. -/
def told (p : Passage) : Response :=
  match p.error with
  | some error => .refused error
  | none => p.response

/-- The exchange of a request that a passage was sent back for. -/
def exchange (p : Passage) (moment : Moment) (request : Request) : Exchange where
  response := p.told.withRequestId (request.responseId moment)
  span := ⟨request.method.name, request.uri.path⟩
  subscriber := p.subscriber
  events :=
    [.requestBegun request.uri.text] ++ p.events ++
      [.requestLogged
        { time := moment.time
          requestId := request.loggedId moment
          method := request.method.name
          uri := request.uri.text
          status := p.told.status
          error := p.error },
      .requestEnded moment.latency p.told.status]

@[simp]
theorem subscriber_ofSubscription (moment : Moment) (s : Subscription) :
    (ofSubscription moment s).subscriber = s.subscriber := rfl

theorem id?_ofSubscription (moment : Moment) (s : Subscription) :
    (ofSubscription moment s).response.id? = none := by
  obtain ⟨subscriber, error⟩ := s
  cases error with
  | none => exact Response.id?_ofJson _ _
  | some error => rfl

theorem told_ofSubscription (moment : Moment) (s : Subscription) :
    (ofSubscription moment s).told = s.response := by
  cases herror : s.error <;> simp [told, ofSubscription, Subscription.response, herror]

end Passage

namespace Handler

variable {inner : Handler} {moment : Moment} {request : Request} {store : Store}

/-- All layers around a handler that puts no id on its response. -/
theorem layered_eq (hid : (inner (request.identified moment.newId) store).1.response.id? = none) :
    inner.layered moment request store =
      ((inner (request.identified moment.newId) store).1.exchange moment request,
        (inner (request.identified moment.newId) store).2) := by
  rcases hpassage : inner (request.identified moment.newId) store with
    ⟨⟨response, error, subscriber, events⟩, after⟩
  rw [hpassage] at hid
  simp only [layered, traced, tellingError, propagatingId, hpassage, hid, Passage.exchange,
    Passage.told, Request.clientId?_identified, Request.method_identified, Request.uri_identified,
    Request.loggedId, Option.bind_some]
  cases error <;> simp

end Handler

namespace Service

/-- A route makes the same of a request whatever its id. -/
@[simp]
theorem handle_identified (service : Service) (moment : Moment) (request : Request)
    (newId : String) (store : Store) :
    service.handle moment (request.identified newId) store =
      service.handle moment request store := by
  simp only [handle, Request.method_identified, Request.uri_identified, Request.body_identified]

/-- No route puts an id on its response. -/
theorem id?_handle (service : Service) (moment : Moment) (request : Request) (store : Store) :
    (service.handle moment request store).1.response.id? = none := by
  unfold handle
  cases Route.of request.method request.uri.path with
  | health | notFound => rfl
  | methodNotAllowed allowed =>
    exact Header.first?_eq_none_iff.mpr
      (by simp [Passage.plain, Response.methodNotAllowed, Response.bodiless, Header.ofText,
        Response.requestIdName])
  | subscribe => exact Passage.id?_ofSubscription moment _

theorem answer_eq (service : Service) (moment : Moment) (request : Request) (store : Store) :
    service.answer moment request store =
      ((service.handle moment request store).1.exchange moment request,
        (service.handle moment request store).2) := by
  have hid := service.id?_handle moment request store
  rw [← service.handle_identified moment request moment.newId] at hid ⊢
  exact Handler.layered_eq hid

end Service

end WaitingList

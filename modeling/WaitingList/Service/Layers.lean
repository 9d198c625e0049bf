import WaitingList.Service.Exchange
import WaitingList.Service.Route

namespace WaitingList

/-- What comes back through the layers. -/
structure Passage where
  response : Response
  /-- The error that the response stands for, until a layer tells it to the client. -/
  error : Option RequestError
  /-- The submitted address, once it has passed the checks. -/
  subscriber : Option EmailAddress
  /-- What has been logged so far. -/
  events : List Event
  deriving DecidableEq, Repr

/-- What takes a request and sends a passage back. It may change the store. -/
def Handler : Type := Request → Store → Passage × Store

namespace Passage

/-- A response that stands for no error and of which nothing is logged. -/
def plain (response : Response) : Passage := ⟨response, none, none, []⟩

/-- What the route of submissions sends back. An error is not told here: an empty response stands
for it. -/
def ofSubscription (moment : Moment) (s : Subscription) : Passage where
  response := if s.error.isSome then Response.bodiless 500 [] else .accepted
  error := s.error
  subscriber := s.subscriber
  events := s.events moment

end Passage

namespace Response

/-- The id on a response. -/
def id? (r : Response) : Option (List UInt8) := Header.first? requestIdName r.headers

end Response

namespace Request

/-- The request with an id: its own, or else a new one. -/
def identified (request : Request) (newId : String) : Request :=
  match request.clientId? with
  | some _ => request
  | none =>
    { request with
      headers := Header.set request.headers (.ofText Response.requestIdName newId) }

end Request

namespace Handler

/-- Puts the id of the request on a response that has none. -/
def propagatingId (inner : Handler) : Handler := fun request store =>
  let (passage, store) := inner request store
  let response := match passage.response.id?, request.clientId? with
    | none, some id => passage.response.withRequestId id
    | _, _ => passage.response
  ({ passage with response }, store)

/-- Tells the client of the error that a response stands for, and keeps a line of the request with
the status that the client is given. The new response keeps the id of the one that it replaces. -/
def tellingError (moment : Moment) (inner : Handler) : Handler := fun request store =>
  let (passage, store) := inner request store
  let response := match passage.error with
    | none => passage.response
    | some error =>
      match passage.response.id? with
      | none => .refused error
      | some id => (Response.refused error).withRequestId id
  let line : RequestLine :=
    { time := moment.time
      requestId := (request.clientId?.bind Header.readable?).getD moment.spareId
      method := request.method.name
      uri := request.uri.text
      status := (passage.error.map RequestError.status).getD passage.response.status
      error := passage.error }
  ({ passage with response, error := none, events := passage.events ++ [.requestLogged line] },
    store)

/-- Puts all that is logged of a request between its begin and its end, in one span. -/
def traced (moment : Moment) (inner : Handler) (request : Request) (store : Store) :
    Exchange × Store :=
  let (passage, store) := inner request store
  ({ response := passage.response
     span := ⟨request.method.name, request.uri.path⟩
     subscriber := passage.subscriber
     events := [.requestBegun request.uri.text] ++ passage.events ++
       [.requestEnded moment.latency passage.response.status] },
    store)

/-- All layers around a handler. Inside the first one every request has an id, as if the client
had given it. -/
def layered (moment : Moment) (inner : Handler) (request : Request) (store : Store) :
    Exchange × Store :=
  (inner.propagatingId.tellingError moment).traced moment (request.identified moment.newId) store

end Handler

namespace Service

/-- What the route of a request makes of it. -/
def handle (service : Service) (moment : Moment) : Handler := fun request store =>
  match Route.of request.method request.uri.path with
  | .health => (.plain .alive, store)
  | .methodNotAllowed allowed => (.plain (.methodNotAllowed allowed), store)
  | .notFound => (.plain .notFound, store)
  | .subscribe =>
    let (subscription, store) := service.subscribe request.body store
    (.ofSubscription moment subscription, store)

def answer (service : Service) (moment : Moment) (request : Request) (store : Store) :
    Exchange × Store :=
  (service.handle moment).layered moment request store

end Service

end WaitingList

import WaitingList.Service.Reply
import WaitingList.Service.Subscription

namespace WaitingList

/-- What only the running process can tell while it answers a request. -/
structure Moment where
  time : String
  /-- How long the answer took. -/
  latency : String
  /-- An id that no other request has. -/
  newId : String
  /-- Another such id. -/
  spareId : String
  deriving DecidableEq, Repr

/-- The span that all of a request's records are made in. -/
structure RequestSpan where
  method : String
  path : String
  deriving DecidableEq, Repr

/-- All that a request leads to, apart from changes of the store. -/
structure Exchange where
  response : Response
  span : RequestSpan
  /-- The submitted address, once it has passed the checks. -/
  subscriber : Option EmailAddress
  events : List Event
  deriving DecidableEq, Repr

namespace Exchange

def requestLines (e : Exchange) : List RequestLine :=
  e.events.filterMap fun event => match event with
    | .requestLogged line => some line
    | _ => none

/-- The events beside the lines that are kept of the request. -/
def otherEvents (e : Exchange) : List Event :=
  e.events.filter fun event => match event with
    | .requestLogged _ => false
    | _ => true

end Exchange

namespace Request

/-- The id that the client gave the request: the first one, if it gave several. -/
def clientId? (request : Request) : Option (List UInt8) :=
  Header.first? Response.requestIdName request.headers

end Request

namespace Subscription

/-- The response to what became of a submission. -/
def response (s : Subscription) : Response :=
  match s.error with
  | some error => .refused error
  | none => .accepted

/-- What is logged of a submission. -/
def events (s : Subscription) (moment : Moment) : List Event :=
  match s.error with
  | some error => [.requestRefused error]
  | none => [.subscriberRecorded moment.time]

end Subscription

end WaitingList

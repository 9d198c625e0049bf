import WaitingList.Http.Request

namespace WaitingList

/-- What a request asks for. -/
inductive Route where
  /-- Whether the service is alive. -/
  | health
  /-- To put an address on the list. -/
  | subscribe
  /-- Something that is there, but by other methods. -/
  | methodNotAllowed (allowed : String)
  /-- Something that is not there. -/
  | notFound
  deriving DecidableEq, Repr

namespace Route

/-- The path under which the service tells that it is alive. -/
def healthPath : String := "/health-check"

/-- The path under which addresses are submitted. -/
def subscribePath : String := "/api/subscribe"

def of (method : Method) (path : String) : Route :=
  if path = healthPath then
    if method = .get ∨ method = .head then .health else .methodNotAllowed "GET,HEAD"
  else if path = subscribePath then
    if method = .post then .subscribe else .methodNotAllowed "POST"
  else .notFound

end Route

end WaitingList

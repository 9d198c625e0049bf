import WaitingList.Http.Request
import WaitingList.Service.RequestError
import WaitingList.Text.JsonText

namespace WaitingList.Response

/-- The field that carries the id of a request. -/
def requestIdName : String := "x-request-id"

/-- A response without a body. -/
def bodiless (status : Nat) (headers : List Header) : Response :=
  ⟨status, headers ++ [.ofText "content-length" "0"], ""⟩

def ofJson (status : Nat) (body : String) : Response :=
  ⟨status, [.ofText "content-type" "application/json",
    .ofText "content-length" (toString body.utf8ByteSize)], body⟩

def alive : Response := bodiless 200 []

/-- There is nothing under the path. -/
def notFound : Response := ⟨404, [], ""⟩

/-- There is something under the path, but not by this method. -/
def methodNotAllowed (allowed : String) : Response := bodiless 405 [.ofText "allow" allowed]

/-- The submission is on the list. -/
def accepted : Response := ofJson 200 (JsonText.object [("success", "true")])

/-- The submission is not on the list. -/
def refused (error : RequestError) : Response :=
  ofJson error.status (JsonText.object [("error", JsonText.string error.clientError.message)])

def withRequestId (r : Response) (id : List UInt8) : Response :=
  { r with headers := Header.set r.headers ⟨requestIdName, id⟩ }

end WaitingList.Response

import WaitingList.Log.Level
import WaitingList.Service.RequestError
import WaitingList.Text.JsonText

namespace WaitingList

/-- What the log keeps of a request. -/
structure RequestLine where
  /-- When the line was written. -/
  time : String
  requestId : String
  method : String
  uri : String
  status : Nat
  /-- Why the request was not answered with success, if the service refused it. -/
  error : Option RequestError
  deriving DecidableEq, Repr

def isServerError (status : Nat) : Bool := 500 ≤ status && status < 600

def isClientError (status : Nat) : Bool := 400 ≤ status && status < 500

namespace RequestLine

/-- How much a line matters. -/
def level (line : RequestLine) : Level := if isServerError line.status then .error else .debug

def clientError (line : RequestLine) : Option ClientError := line.error.map RequestError.clientError

/-- The members that tell of the error. All are there, or none. -/
def errorMembers (line : RequestLine) : List (String × String) :=
  match line.error with
  | none => []
  | some error =>
    [("client_error_type", error.clientError.typeName), ("web_error_type", error.typeName),
      ("web_error_msg", error.message)]

/-- A line in writing, its members by name. -/
def json (line : RequestLine) : String :=
  let texts := [("timestamp", line.time), ("req_id", line.requestId), ("req_method", line.method),
    ("uri", line.uri)] ++ line.errorMembers
  let members := ("status_code", toString line.status) ::
    texts.map fun (name, text) => (name, JsonText.string text)
  JsonText.object (members.mergeSort fun a b => a.1 ≤ b.1)

end RequestLine

end WaitingList

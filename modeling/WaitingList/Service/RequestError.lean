import WaitingList.Email.Address
import WaitingList.Store.Error
import WaitingList.Submission.Reader

namespace WaitingList

/-- Why the body of a request could not be read. -/
inductive BodyError where
  /-- The body is longer than the service is ready to hold. -/
  | tooLong
  /-- The connection gave the body up with the given words. -/
  | broken (text : String)
  deriving DecidableEq, Repr

namespace BodyError

def message : BodyError → String
  | tooLong => "Failed to buffer the request body: length limit exceeded"
  | broken text => s!"Failed to buffer the request body: {text}"

end BodyError

inductive ClientError where
  | invalidEmail
  | invalidBody
  | serviceError
  deriving DecidableEq, Repr

namespace ClientError

/-- The name of an error in log lines. -/
def typeName : ClientError → String
  | invalidEmail => "InvalidEmail"
  | invalidBody => "InvalidBody"
  | serviceError => "ServiceError"

/-- The words that the client is sent. -/
def message : ClientError → String
  | invalidEmail => "Invalid email"
  | invalidBody => "Invalid request body"
  | serviceError => "Service error"

end ClientError

/-- Why a submission is not answered with success. -/
inductive RequestError where
  /-- The submission carries no acceptable address. -/
  | email (fault : EmailFault)
  /-- The body could not be read. -/
  | body (error : BodyError)
  /-- The body is no submission. -/
  | json (fault : Submission.Fault)
  /-- The store did not take the address. -/
  | store (error : StoreError)
  deriving DecidableEq, Repr

namespace RequestError

/-- The name of an error in log lines. -/
def typeName : RequestError → String
  | email _ => "DataParsing"
  | body _ => "BodyRejection"
  | json _ => "Json"
  | store _ => "Sqlx"

/-- The words for an error in log lines. -/
def message : RequestError → String
  | email fault => s!"data parsing error: {fault.message}"
  | body error => s!"failed to read the request body: {error.message}"
  | json fault => s!"failed to deserialize json body: {fault.message}"
  | store error => s!"sqlx error: {error.message}"

def status : RequestError → Nat
  | email _ | json _ => 400
  | body .tooLong => 413
  | body (.broken _) => 400
  | store _ => 500

/-- What the client learns of an error. A body that is JSON of the wrong shape counts as one
without an acceptable address. -/
def clientError : RequestError → ClientError
  | email _ => .invalidEmail
  | body _ => .invalidBody
  | json fault => if fault.cause.concernsShape then .invalidEmail else .invalidBody
  | store _ => .serviceError

end RequestError

/-- The address that a body submits under a policy. -/
def Submission.accept (policy : EmailPolicy) (body : List UInt8) :
    Except RequestError EmailAddress :=
  match read body with
  | .error fault => .error (.json fault)
  | .ok none => .error (.email .missing)
  | .ok (some text) =>
    match EmailAddress.parse policy text with
    | .error fault => .error (.email fault)
    | .ok address => .ok address

end WaitingList

import WaitingList.Http.Request
import WaitingList.Service.RequestError
import WaitingList.Store.Manager

namespace WaitingList

namespace Body

/-- The most bytes that the service is ready to hold. -/
def maxLength : Nat := 2097152

/-- What arrives of a body. A body that is too long is given up before its end is seen. -/
def read (b : Body) : Except BodyError (List UInt8) :=
  if b.bytes.length > maxLength then .error .tooLong
  else
    match b.breakage with
    | some text => .error (.broken text)
    | none => .ok b.bytes

def submission (b : Body) (policy : EmailPolicy) : Except RequestError EmailAddress :=
  match b.read with
  | .error error => .error (.body error)
  | .ok bytes => Submission.accept policy bytes

end Body

/-- A service: a manager of the store, and the policy for what is stored. -/
structure Service where
  manager : Manager
  policy : EmailPolicy
  deriving DecidableEq, Repr

/-- What became of a submission. -/
structure Subscription where
  /-- The address, once it has passed the checks. -/
  subscriber : Option EmailAddress
  /-- Why the address is not on the list, if it is not. -/
  error : Option RequestError
  deriving DecidableEq, Repr

/-- Puts the address that a body submits on the list. -/
def Service.subscribe (service : Service) (body : Body) (store : Store) : Subscription × Store :=
  match body.submission service.policy with
  | .error error => (⟨none, some error⟩, store)
  | .ok address =>
    match service.manager.upsert address.text store with
    | (.error error, store) => (⟨some address, some (.store error)⟩, store)
    | (.ok (), store) => (⟨some address, none⟩, store)

end WaitingList

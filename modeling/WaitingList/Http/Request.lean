import WaitingList.Http.Header
import WaitingList.Http.Uri

namespace WaitingList

/-- The body of a request as it arrives: the bytes that come in, and what the connection says if
it breaks after them. -/
structure Body where
  bytes : List UInt8
  breakage : Option String
  deriving DecidableEq, Repr

/-- A request. -/
structure Request where
  method : Method
  uri : Uri
  headers : List Header
  body : Body
  deriving DecidableEq, Repr

/-- Why parts do not make a request. -/
inductive RequestFault where
  | method
  | uri (fault : UriFault)
  | headerName
  | headerValue
  deriving DecidableEq, Repr

namespace RequestFault

def message : RequestFault → String
  | method => "invalid HTTP method"
  | uri fault => fault.message
  | headerName => "invalid HTTP header name"
  | headerValue => "failed to parse header value"

end RequestFault

namespace Request

/-- The header field that a name and a value make. -/
def header (name : String) (value : List UInt8) : Except RequestFault Header :=
  if !Header.isName name then .error .headerName
  else if !value.all Header.isValueByte then .error .headerValue
  else .ok ⟨name.toLower, value⟩

/-- The request that parts make. The first part that is at fault decides. -/
def ofParts (method : String) (uri : List UInt8) (headers : List (String × List UInt8))
    (body : Body) : Except RequestFault Request :=
  match Method.ofText? method with
  | none => .error .method
  | some method =>
    match Uri.ofBytes uri with
    | .error fault => .error (.uri fault)
    | .ok uri =>
      match headers.mapM fun (name, value) => header name value with
      | .error fault => .error fault
      | .ok headers => .ok { method, uri, headers, body }

end Request

/-- What a request is answered with. -/
structure Response where
  status : Nat
  headers : List Header
  body : String
  deriving DecidableEq, Repr

end WaitingList

import Scep.Exchange.Method
import Scep.Exchange.Request
import Scep.Url.Server

/-!
Requests as they are put on the wire.

On `GET` the message is a query value in base64; on `POST` it is the body, whose
length is always stated.  Either way the query gets the operation, and all else
of it is kept.
-/

namespace Scep

structure Outgoing where
  method : Method
  url : Url
  headers : List (String × String)
  body : Octets
  deriving DecidableEq, Repr

namespace Outgoing

def make (method : Method) (url : Url) (fields : List (String × String)) (body : Octets) :
    Except Fault Outgoing :=
  match url.shownHost with
  | .error flaw => .error (.hostName flaw)
  | .ok [] => .ok ⟨method, url, fields, body⟩
  | .ok _ =>
    match Text.ascii url.netloc with
    | .error flaw => .error (.notAscii flaw)
    | .ok netloc => .ok ⟨method, url, ("host", String.ofList netloc) :: fields, body⟩

def setParam (url : Url) (name value : String) : Except Raised Url :=
  (url.setParam name value).mapError fun flaw => ⟨flaw.fault, none⟩

def get (url : Url) (request : Request) : Except Raised Outgoing := do
  let url ←
    if request.message.isEmpty then pure url
    else setParam url "message" (String.ofList (Base64.encode request.message))
  (make .get url [] []).mapError fun fault => ⟨fault, none⟩

def post (url : Url) (request : Request) : Except Raised Outgoing :=
  let length := ("content-length", toString request.message.length)
  (make .post url [length] request.message).mapError fun fault =>
    ⟨.failure (.requestConstruction request.name fault.message), some fault⟩

def ofRequest (method : String) (url : Url) (request : Request) : Except Raised Outgoing := do
  let target ← setParam url "operation" request.name
  match Method.ofName? method with
  | some .get => get target request
  | some .post => post target request
  | none => .error ⟨.failure (.unsupportedMethod method), none⟩

end Outgoing

end Scep

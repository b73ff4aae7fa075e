import Scep.Client.Redirect
import Scep.Client.Session

/-!
A client of one server.

A client turns what its calls ask into requests, sends them by a transport, and
reads the deliveries that come back.  Where the address of the server names a
user, each request says so.
-/

namespace Scep

structure Client where
  url : Url
  deadline : Option Deadline

def Client.ofAddress (address : String) (deadline : Option Deadline) : Except Raised Client := do
  return ⟨← Url.ofServer address.toList, deadline⟩

def Outgoing.authorized (outgoing : Outgoing) : Outgoing :=
  let user := outgoing.url.userName
  let password := outgoing.url.password
  if user.isEmpty && password.isEmpty then outgoing
  else
    let token := Base64.encodeStandard (Text.Utf8.encode (user ++ ':' :: password))
    { outgoing with
      headers := outgoing.headers ++ [("authorization", "Basic " ++ String.ofList token)] }

/-- What carries requests to a server.  A request is sent, and when it need not
wait any more there is a delivery or a fault. -/
structure Transport (Far Held : Type) where
  send : Outgoing → Far → Far × Wait × Held
  receive : Held → Far → Far × List Audit.Record × Except Fault Delivery

/-- The state of the other end, and the requests that were sent, latest first. -/
structure Wire (Far : Type) where
  far : Far
  sent : List Outgoing := []

structure Pending (Held : Type) where
  request : Request
  url : Url
  held : Held

namespace Client

variable {Far Held : Type}

def send (client : Client) (transport : Transport Far Held) (ask : Ask) (wire : Wire Far) :
    Wire Far × List Audit.Record × Except Raised (Wait × Pending Held) :=
  match Outgoing.ofRequest ask.method.name client.url ask.request with
  | .error raised => (wire, [], .error raised)
  | .ok outgoing =>
    let outgoing := outgoing.authorized
    let (far, wait, held) := transport.send outgoing wire.far
    let event : Audit.Event :=
      .requestSent ask.request.name ask.method.name (String.ofList client.url.render)
        ask.request.message.length
    (⟨far, outgoing :: wire.sent⟩, [{ event }], .ok (wait, ⟨ask.request, outgoing.url, held⟩))

def receive (transport : Transport Far Held) (pending : Pending Held) (wire : Wire Far) :
    Wire Far × List Audit.Record × Except Raised Response :=
  let (far, records, outcome) := transport.receive pending.held wire.far
  let wire := { wire with far }
  match outcome with
  | .error fault => (wire, records, .error ⟨fault, none⟩)
  | .ok delivery =>
    match Redirect.fault? pending.url delivery with
    | some fault => (wire, records, .error ⟨fault, none⟩)
    | none =>
      match (delivery.receive pending.request.operation).outcome with
      | .error raised => (wire, records, .error raised)
      | .ok response =>
        let event : Audit.Event :=
          .responseReceived pending.request.name delivery.status response.data.length
            response.certificates
        (wire, records ++ [{ event }], .ok response)

def line (client : Client) (transport : Transport Far Held) : Line (Wire Far) (Pending Held) where
  start := client.send transport
  finish := receive transport
  tell := Raised.during

def session (client : Client) (far : Far) : Session (Wire Far) (Pending Held) :=
  { far := ⟨far, []⟩, deadline := client.deadline }

end Client

end Scep

import Scep.Client.Basic
import Scep.Responder.Host

/-!
A client and a responder that meet without a network.

Each request of the client arrives at the responder, and the page that the
responder sends is delivered to the client, in one piece or in several.
-/

namespace Scep

structure Loopback (State : Type) where
  host : Host State
  responder : Responder
  state : State

namespace Loopback

variable {State : Type}

def mark : String := "loopback"

def arrival (outgoing : Outgoing) : Arrival :=
  { method := outgoing.method.name
    scheme := String.ofList outgoing.url.scheme
    host := String.ofList outgoing.url.netloc
    path := outgoing.url.shownPath
    query := Text.Utf8.encode (outgoing.url.query.getD [])
    pieces := [outgoing.body]
    mark }

def delivery (page : Page) (pieces : List Octets) : Delivery :=
  { status := page.status, headers := page.fields, pieces }

/-- A way to the responder that cuts the body of the page for a request into
pieces.  Operations are performed in their turn, all else is answered at once. -/
def transportBy (cut : Outgoing → Octets → List Octets) :
    Transport (Loopback State) Outgoing where
  send := fun outgoing loopback =>
    let wait := match loopback.responder.find outgoing.method.name outgoing.url.shownPath with
      | .endpoint .operations => .turn
      | _ => .ready
    (loopback, wait, outgoing)
  receive := fun outgoing loopback =>
    let (state, served) := loopback.host.serve loopback.responder (arrival outgoing) loopback.state
    let page := served.page
    ({ loopback with state }, served.records, .ok (delivery page (cut outgoing page.body)))

def transport : Transport (Loopback State) Outgoing := transportBy fun _ body => [body]

end Loopback

end Scep

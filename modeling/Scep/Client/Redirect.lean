import Scep.Exchange.Delivery
import Scep.Exchange.Outgoing
import Scep.Url.Join

/-!
Redirections, which are not followed but are read.

A response that sends the client elsewhere is a response like any other, unless
the place that it names is no place.
-/

namespace Scep.Redirect

def statuses : List Int := [301, 302, 303, 307, 308]

def location? (delivery : Delivery) : Option String :=
  if statuses.contains delivery.status then delivery.headers.value? "Location" else none

def withHost (asked place : Url) : Except Fault Url :=
  if place.scheme.isEmpty then .ok place
  else
    match place.shownHost with
    | .error flaw => .error (.hostName flaw)
    | .ok [] => { place with host := asked.host }.components.build.mapError Url.Flaw.fault
    | .ok _ => .ok place

def withFragment (asked place : Url) : Except Fault Url :=
  if !asked.shownFragment.isEmpty && place.shownFragment.isEmpty then
    { place.components with fragment := some asked.shownFragment }.build.mapError Url.Flaw.fault
  else .ok place

def complete (asked place : Url) : Except Fault Url := do
  let place ← withHost asked place
  let isAbsolute := !place.scheme.isEmpty && !place.host.isEmpty
  let place ← if isAbsolute then .ok place else (asked.join place).mapError Url.Flaw.fault
  let place ← withFragment asked place
  match place.shownHost, Text.ascii place.netloc with
  | .error flaw, _ => throw (.hostName flaw)
  | _, .error flaw => throw (.notAscii flaw)
  | .ok _, .ok _ => return place

/-- The fault in the place that a response sends a client to, if there is one.
A text that is no address breaks the rules of the exchange. -/
def fault? (asked : Url) (delivery : Delivery) : Option Fault :=
  match location? delivery with
  | none => none
  | some text =>
    match Url.parse text.toList with
    | .error flaw =>
      some (.network .remoteProtocolError
        ("Invalid URL in location header: " ++ flaw.message ++ "."))
    | .ok place =>
      match complete asked place with
      | .error fault => some fault
      | .ok _ => none

end Scep.Redirect

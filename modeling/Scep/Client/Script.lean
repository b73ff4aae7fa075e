import Scep.Client.Basic

/-!
Other ends whose answers are known beforehand.

A script has replies for each operation, which are used in order; the last one
is never used up.
-/

namespace Scep

/-- Takes the next of some replies.  The last one stays. -/
def takeReply {Reply : Type} : List Reply → Option (Reply × List Reply)
  | [] => none
  | [last] => some (last, [last])
  | first :: rest => some (first, rest)

/-! ### Servers -/

/-- What a server does with a request: it may make it wait, it may fail, and
otherwise it delivers.  An echo delivers the message of the request. -/
structure Reply where
  wait : Wait := .ready
  fault : Option Fault := none
  isEcho : Bool := false
  delivery : Delivery

structure Script where
  replies : List (String × List Reply)

namespace Script

def anyOperation : String := "*"

def noReply : Reply :=
  { delivery := { status := 404, pieces := [Text.Utf8.encode "not found".toList] } }

def take? (script : Script) (name : String) : Option (Reply × Script) :=
  match script.replies.find? fun entry => entry.1 == name && !entry.2.isEmpty with
  | none => none
  | some (_, replies) =>
    (takeReply replies).map fun (reply, others) =>
      (reply, ⟨script.replies.map fun entry =>
        if entry.1 == name then (entry.1, others) else entry⟩)

def next (script : Script) (name : String) : Reply × Script :=
  match script.take? name with
  | some taken => taken
  | none => (script.take? anyOperation).getD (noReply, script)

def param (outgoing : Outgoing) (name : String) : String :=
  (outgoing.url.params.valuesOf name).headD ""

def messageOf (outgoing : Outgoing) : Octets :=
  match outgoing.method with
  | .post => outgoing.body
  | .get => (Base64.decode (param outgoing "message").toList).toOption.getD []

def delivered (outgoing : Outgoing) (reply : Reply) : Except Fault Delivery :=
  match reply.fault with
  | some fault => .error fault
  | none =>
    if reply.isEcho then .ok { reply.delivery with pieces := [messageOf outgoing] }
    else .ok reply.delivery

def transport : Transport Script (Outgoing × Reply) where
  send := fun outgoing script =>
    let (reply, script) := script.next (param outgoing "operation")
    (script, reply.wait, outgoing, reply)
  receive := fun (outgoing, reply) script => (script, [], delivered outgoing reply)

end Script

/-! ### Fetches alone -/

structure Fetch where
  wait : Wait := .ready
  outcome : Except Fault Octets

def Fetch.line : Line (List Fetch) Fetch where
  start := fun _ fetches =>
    match takeReply fetches with
    | some (fetch, others) => (others, [], .ok (fetch.wait, fetch))
    | none => (fetches, [], .ok (.ready, ⟨.ready, .ok []⟩))
  finish := fun fetch fetches =>
    (fetches, [], match fetch.outcome with
      | .ok data => .ok { operation := some .getCaCaps, data }
      | .error fault => .error ⟨fault, none⟩)
  tell := fun _ _ raised => raised

end Scep

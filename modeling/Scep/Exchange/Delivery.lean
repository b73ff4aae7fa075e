import Scep.Exchange.Answer
import Scep.Exchange.ContentCoding
import Scep.Exchange.Status

/-!
Responses as a client receives them: a status, header fields, and a body that
arrives in pieces and may break off.

`Delivery.read` is the one bounded reader of bodies.  What it finds in a body without
codings depends on the octets delivered and not on how they are cut into pieces.
-/

namespace Scep

/-- A response on its way: the pieces of its body in order, and the fault that
comes in place of the end of the body, if one does. -/
structure Delivery where
  status : Int
  headers : Headers := []
  reason : Option Octets := none
  pieces : List Octets := []
  fault : Option Fault := none
  deriving Repr

/-- The reason phrase in words: the one sent, its ASCII part, or the usual one
for the status. -/
def Delivery.phrase (delivery : Delivery) : String :=
  match delivery.reason with
  | some octets =>
    String.ofList ((octets.filter fun octet => octet < 0x80).map fun octet =>
      Char.ofNat octet.toNat)
  | none => reasonPhrase delivery.status

inductive Shortfall where
  | tooLong
  | broken (fault : Fault)
  deriving DecidableEq, Repr

/-- What was read of a body: the octets, in pieces and last piece first, how
many there are, how many pieces were taken from the transport, and why reading
stopped before the end, if it did. -/
structure Reading where
  done : List Octets
  size : Nat
  pulled : Nat
  shortfall : Option Shortfall
  deriving DecidableEq, Repr

def Reading.octets (reading : Reading) : Octets := reading.done.reverse.flatten

/-- Undoes the codings on a piece from the transport.  An empty piece is not
shown to them. -/
def decodePiece (codings : List Coding) (piece : Octets) :
    Except String (List Coding × Octets) :=
  if piece.isEmpty then .ok (codings, []) else Coding.decodeAll codings piece

def readPieces (limit : Nat) (fault : Option Fault) (codings : List Coding)
    (done : List Octets) (size pulled : Nat) : List Octets → Reading
  | [] => ⟨done, size, pulled, fault.map .broken⟩
  | piece :: rest =>
    match decodePiece codings piece with
    | .error reason => ⟨done, size, pulled + 1, some (.broken (.network .decodingError reason))⟩
    | .ok (codings, data) =>
      if limit < size + data.length then
        ⟨data :: done, size + data.length, pulled + 1, some .tooLong⟩
      else readPieces limit fault codings (data :: done) (size + data.length) (pulled + 1) rest

def Delivery.read (delivery : Delivery) (limit : Nat) : Reading :=
  readPieces limit delivery.fault delivery.headers.codings [] 0 0 delivery.pieces

def Fault.breaksBody : Fault → Bool
  | .network kind _ => kind.breaksBody
  | _ => false

def Reading.payload (reading : Reading) (limit : Nat) : Except Raised Octets :=
  match reading.shortfall with
  | none => .ok reading.octets
  | some .tooLong => .error ⟨.failure (.payloadTooLarge limit), none⟩
  | some (.broken fault) =>
    if fault.breaksBody then .error ⟨.failure (.readFailed fault.message), some fault⟩
    else .error ⟨fault, none⟩

/-- The start of the body of an error response.  A body that breaks off counts
as far as it came. -/
def Reading.snippet (reading : Reading) (limit : Nat) : Except Raised Octets :=
  match reading.shortfall with
  | some (.broken fault) =>
    if fault.breaksBody then .ok (reading.octets.take limit) else .error ⟨fault, none⟩
  | _ => .ok (reading.octets.take limit)

/-! ### Receiving -/

structure Intake where
  pulled : Nat := 0
  isClosed : Bool := false
  deriving DecidableEq, Repr

/-- Work on the stream of a response.  If it fails the stream is left as it was
by then. -/
abbrev Streaming := ExceptT Raised (StateM Intake)

def Delivery.pull (delivery : Delivery) (limit : Nat) : Streaming Reading := do
  let reading := delivery.read limit
  modify fun intake => { intake with pulled := reading.pulled + intake.pulled }
  return reading

def Intake.close : Streaming Unit := modify fun intake => { intake with isClosed := true }

/-- The payload of a response.  From status 400 on it is an error, reported with the
start of its body as diagnostic text. -/
def Delivery.payload (delivery : Delivery) : Streaming Octets := do
  if 400 ≤ delivery.status then
    let reading ← delivery.pull snippetLimit
    let snippet ← reading.snippet snippetLimit
    let body := String.ofList (Text.Utf8.decodeLossy snippet)
    throw ⟨.failure (.httpStatus delivery.status delivery.phrase body), none⟩
  else
    let reading ← delivery.pull payloadLimit
    reading.payload payloadLimit

/-- The outcome of an exchange, how many pieces of the response were taken from the
transport, and whether its stream was closed. -/
structure Receipt where
  outcome : Except Raised Response
  pulled : Nat
  closed : Bool

/-- Receives a response.  Its stream is closed whatever comes of the body, and the
media type says whether the payload is a chain. -/
def Delivery.receive (delivery : Delivery) (operation : Option Operation) : Receipt :=
  let receiving : Streaming Response := do
    let data ← try delivery.payload finally Intake.close
    let isChain := delivery.headers.value? "Content-Type" == some MediaType.caChain
    return { operation, certificates := if isChain then chainHint else 0, data }
  let (outcome, intake) := receiving.run.run {}
  ⟨outcome, intake.pulled, intake.isClosed⟩

namespace Delivery

variable {delivery : Delivery}

theorem receive_of_failed (operation : Option Operation) (failed : 400 ≤ delivery.status) :
    delivery.receive operation =
      ⟨do
        let snippet ← (delivery.read snippetLimit).snippet snippetLimit
        throw ⟨.failure (.httpStatus delivery.status delivery.phrase
          (String.ofList (Text.Utf8.decodeLossy snippet))), none⟩,
        (delivery.read snippetLimit).pulled, true⟩ := by
  simp only [receive, payload, pull, Intake.close, if_pos failed, bind_assoc, pure_bind]
  cases (delivery.read snippetLimit).snippet snippetLimit <;> rfl

theorem receive_of_fine (operation : Option Operation) (fine : ¬400 ≤ delivery.status) :
    delivery.receive operation =
      ⟨do
        let data ← (delivery.read payloadLimit).payload payloadLimit
        let isChain := delivery.headers.value? "Content-Type" == some MediaType.caChain
        return { operation, certificates := if isChain then chainHint else 0, data },
        (delivery.read payloadLimit).pulled, true⟩ := by
  simp only [receive, payload, pull, Intake.close, if_neg fine, bind_assoc, pure_bind]
  cases (delivery.read payloadLimit).payload payloadLimit <;> rfl

end Delivery

end Scep

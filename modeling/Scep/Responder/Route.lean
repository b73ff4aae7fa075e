import Scep.Exchange.Delivery
import Scep.Exchange.Message
import Scep.Responder.Arrival
import Scep.Responder.Service

/-!
The one route on which all operations are answered.

A request is read in a fixed order: the operation, the body, the message.  What
is wrong before the operation is performed is answered as its own kind of
failure; a failure of the operation itself is a page of status 500 and counts as
a request served.  A fault that is no failure of the protocol goes unanswered.
-/

namespace Scep.Route

variable {State : Type}

/-- What becomes of a fault that the route does not answer: a failure is told
by its own status and recorded, anything else goes unanswered. -/
def refuse (pulled : Nat) (fault : Fault) : Served :=
  match fault with
  | .failure failure =>
    { page := Page.text failure.status failure.message
      pulled
      records := [{ event := .error fault "request_handling" }] }
  | _ => { page := Page.broken, pulled, escaped := some fault }

def conclude (arrival : Arrival) (operation : Operation) (pulled : Nat)
    (outcome : Except Fault Response) : Served :=
  let served := fun response records =>
    let answer := Answer.ofResponse response
    let event : Audit.Event :=
      .requestServed operation.name arrival.method answer.status response.data.length
    { page := Page.ofAnswer answer
      pulled
      records := records ++ [Audit.Record.during arrival.mark event] : Served }
  match outcome with
  | .ok response => served response []
  | .error (.failure failure) =>
    let event : Audit.Event := .error (.failure failure) operation.name
    served { operation, error := some (.failure failure) }
      [Audit.Record.during arrival.mark event]
  | .error fault => refuse pulled fault

def readBody (arrival : Arrival) : Reading :=
  if Method.ofName? arrival.method = some .post then
    readPieces payloadLimit none [] [] 0 0 arrival.pieces
  else ⟨[], 0, 0, none⟩

def message (arrival : Arrival) (reading : Reading) : Except Raised Octets := do
  let body ← reading.payload payloadLimit
  Message.ofRequest arrival.method arrival.params body

def serve (service : Service State) (arrival : Arrival) (state : State) : State × Served :=
  let asked := (arrival.params.last? "operation").getD ""
  match Operation.ofName? asked with
  | none => (state, refuse 0 (.failure (.unknownOperation asked)))
  | some operation =>
    let reading := readBody arrival
    match message arrival reading with
    | .error raised => (state, refuse reading.pulled raised.fault)
    | .ok message =>
      let (state, outcome) := service.perform operation message state
      (state, conclude arrival operation reading.pulled outcome)

end Scep.Route

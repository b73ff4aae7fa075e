import Scep.Certificate.Store
import Scep.Exchange.Answer

/-!
The operations as a responder performs them.

Capabilities and certificates are what was configured.  Enrollment messages are
opaque here: whatever they ask for is done by a handler, which has a state of its
own and is given nothing but the message.
-/

namespace Scep

structure Handler (State : Type) where
  enroll : Octets → State → State × Except Fault Octets
  nextCertificate : State → State × Except Fault Octets

/-- What a responder performs operations with: the capabilities that it
advertises, the certificates that it gives out with their number, and the
handler, if it has one. -/
structure Service (State : Type) where
  capabilities : List String
  certificates : Octets × Nat
  handler : Option (Handler State)

namespace Service

variable {State : Type}

def capabilityList (service : Service State) : Octets :=
  Text.Utf8.encode ("\n".intercalate service.capabilities).toList

def handle (service : Service State) (operation : Operation)
    (task : Handler State → State → State × Except Fault Octets) (state : State) :
    State × Except Fault Response :=
  match service.handler with
  | none => (state, .error (.failure (.noHandler operation.name)))
  | some handler =>
    let (state, outcome) := task handler state
    (state, outcome.map fun data => { operation, data })

def perform (service : Service State) (operation : Operation) (message : Octets)
    (state : State) : State × Except Fault Response :=
  match operation with
  | .getCaCaps => (state, .ok { operation, data := service.capabilityList })
  | .getCaCert =>
    (state, .ok { operation, certificates := service.certificates.2, data := service.certificates.1 })
  | .pkiOperation => service.handle operation (fun handler => handler.enroll message) state
  | .getNextCaCert => service.handle operation Handler.nextCertificate state

end Service

end Scep

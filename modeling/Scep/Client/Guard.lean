import Scep.Fault
import Scep.Operation

/-!
What the caller of an operation is told when an exchange fails.

A call has a deadline.  Running out of time, and every other failure of the
connection, is told in terms of the operation; anything else is told as it is.
-/

namespace Scep

structure Deadline where
  text : String
  seconds : Float

def Deadline.shown : Option Deadline → String
  | some deadline => deadline.text
  | none => "None"

def Fault.isTimeout : Fault → Bool
  | .plain .timeout _ => true
  | .network kind _ => kind.isTimeout
  | _ => false

def Fault.isTransport : Fault → Bool
  | .network kind _ => kind.isTransport
  | _ => false

/-- What a call of an operation makes of a fault. -/
def Raised.during (operation : Operation) (deadline : Option Deadline) (raised : Raised) :
    Raised :=
  if raised.fault.isTimeout then
    ⟨.failure (.deadlineExceeded operation.name (Deadline.shown deadline)), some raised.fault⟩
  else if raised.fault.isTransport then
    ⟨.failure (.transport operation.name raised.fault.className raised.fault.message),
      some raised.fault⟩
  else raised

end Scep

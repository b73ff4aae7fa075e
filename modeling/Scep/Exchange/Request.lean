import Scep.Operation

/-!
A request before it is put on the wire.
-/

namespace Scep

/-- An operation with its message.  A request without an operation is sent
with an empty operation name. -/
structure Request where
  operation : Option Operation
  message : Octets := []
  deriving DecidableEq, Repr

def Request.name (request : Request) : String := operationName request.operation

end Scep

import Scep.Fault
import Scep.Operation
import Scep.Text.Utf8

/-!
Answers of a responder: from the outcome of an operation to the page that is
sent.
-/

namespace Scep

/-- The outcome of an operation, at either end of an exchange.  A refusal by
the authority travels inside `data`; `error` is a failure of the responder
itself. -/
structure Response where
  operation : Option Operation := none
  certificates : Int := 0
  data : Octets := []
  error : Option Fault := none
  deriving DecidableEq, Repr

def Response.isChain (response : Response) : Bool :=
  chainHint ≤ response.certificates

structure Answer where
  status : Nat
  contentType : String
  body : Octets
  deriving DecidableEq, Repr

namespace Answer

def page (status : Nat) (text : String) : Answer :=
  ⟨status, MediaType.text ++ "; charset=utf-8", Text.Utf8.encode text.toList⟩

def headers (answer : Answer) : List (String × String) :=
  [("content-length", toString answer.body.length), ("content-type", answer.contentType)]

/-- The answer to an operation: a page with the failure in words if the
responder failed, and the payload under its media type if it did not. -/
def ofResponse (response : Response) : Answer :=
  match response.error with
  | some fault => page 500 fault.message
  | none => ⟨200, MediaType.ofAnswer response.operation response.certificates, response.data⟩

end Answer

end Scep

import Scep.Exchange.Method
import Scep.Fault
import Scep.Operation
import Scep.Query

/-!
The message of an incoming request: base64 in the query, or the body.
-/

namespace Scep

namespace Message

/-- The octets in a query value.  Text outside of ASCII is refused before any
of it is read. -/
def ofQueryValue (value : String) : Except Raised Octets :=
  if value.toList.any fun char => 0x7F < char.toNat then
    .error ⟨.plain .value "string argument should contain only ASCII characters", none⟩
  else
    match Base64.decode value.toList with
    | .ok octets => .ok octets
    | .error flaw =>
      .error ⟨.failure (.invalidMessage flaw.message), some (.base64 flaw)⟩

def ofBody (body : Octets) : Except Raised Octets :=
  if payloadLimit < body.length then
    .error ⟨.failure (.payloadTooLarge payloadLimit), none⟩
  else .ok body

/-- The message of a request: on `GET` the query value `message`, empty if
absent, and on `POST` the body. -/
def ofRequest (method : String) (query : Query) (body : Octets) : Except Raised Octets :=
  match Method.ofName? method with
  | some .get => ofQueryValue ((query.last? "message").getD "")
  | some .post => ofBody body
  | none => .error ⟨.failure (.unsupportedMethod method), none⟩

end Message

end Scep

import Scep.Audit
import Scep.Exchange.Answer
import Scep.Query

/-!
Requests as they arrive at a responder, and what becomes of them.
-/

namespace Scep

/-- A request as it arrives.  The path has no escapes, the query is as it was
sent, and the body comes in pieces. -/
structure Arrival where
  method : String
  scheme : String := "http"
  host : String
  path : List Char
  query : Octets := []
  pieces : List Octets := [[]]
  mark : String
  deriving DecidableEq, Repr

/-- The pairs of the query.  Octets count as characters before escapes are
undone. -/
def Arrival.params (arrival : Arrival) : Query :=
  Query.parse (arrival.query.map fun octet => Char.ofNat octet.toNat)

structure Page where
  status : Nat
  fields : List (String × String)
  body : Octets
  deriving DecidableEq, Repr

namespace Page

def ofAnswer (answer : Answer) : Page := ⟨answer.status, answer.headers, answer.body⟩

def text (status : Nat) (content : String) : Page := ofAnswer (.page status content)

def object (status : Nat) (content : String) : Page :=
  ofAnswer ⟨status, "application/json", Text.Utf8.encode content.toList⟩

def notFound : Page := object 404 "\x7b\"detail\":\"Not Found\"\x7d"

def methodNotAllowed (allowed : List String) : Page :=
  let page := object 405 "\x7b\"detail\":\"Method Not Allowed\"\x7d"
  { page with fields := ("allow", ", ".intercalate allowed) :: page.fields }

def broken : Page := text 500 "Internal Server Error"

def redirect (location : String) : Page :=
  ⟨307, [("content-length", "0"), ("location", location)], []⟩

end Page

/-- What became of a request: the page sent, the number of pieces of its body
that were read, the records kept, and the fault that went unanswered, if one
did. -/
structure Served where
  page : Page
  pulled : Nat := 0
  records : List Audit.Record := []
  escaped : Option Fault := none
  deriving DecidableEq, Repr

end Scep

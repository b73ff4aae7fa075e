/-!
The operations of the enrollment protocol, the media types of their answers,
and the sizes that bound an exchange.
-/

namespace Scep

abbrev Octets := List UInt8

inductive Operation where
  | getCaCaps
  | getCaCert
  | pkiOperation
  | getNextCaCert
  deriving DecidableEq, Repr

namespace Operation

def name : Operation → String
  | getCaCaps => "GetCACaps"
  | getCaCert => "GetCACert"
  | pkiOperation => "PKIOperation"
  | getNextCaCert => "GetNextCACert"

def all : List Operation := [getCaCaps, getCaCert, pkiOperation, getNextCaCert]

def ofName? (text : String) : Option Operation :=
  all.find? fun operation => operation.name == text

end Operation

def operationName (operation : Option Operation) : String :=
  match operation with
  | none => ""
  | some operation => operation.name

namespace MediaType

def caCertificate : String := "application/x-x509-ca-cert"
def caChain : String := "application/x-x509-ca-ra-cert"
def pkiMessage : String := "application/x-pki-message"
def text : String := "text/plain"

/-- The media type of an answer: of certificates by their number, of
enrollment messages their own, and plain text for all else. -/
def ofAnswer (operation : Option Operation) (certificates : Int) : String :=
  match operation with
  | some .getCaCert => if 1 < certificates then caChain else caCertificate
  | some .pkiOperation => pkiMessage
  | _ => text

end MediaType

/-- No response and no posted body is longer: two mebibytes. -/
def payloadLimit : Nat := 2097152

/-- So much of the body of a failed response is kept for diagnosis. -/
def snippetLimit : Nat := 4096

/-- The number of certificates assumed of an answer that is labelled a chain. -/
def chainHint : Int := 2

def postingCapabilities : List String := ["POSTPKIOperation", "SCEPStandard"]

end Scep

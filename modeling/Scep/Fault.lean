import Scep.Base64
import Scep.Idn.Flaw
import Scep.Text.Ascii
import Scep.Text.Quoted
import Scep.Text.Utf8

/-!
Everything that can go wrong in an exchange, by cause.

`Failure` holds the causes that the protocol layer itself reports: each has a
message, the status with which a responder answers it, and details for the
audit record.  `Fault` adds what comes from below: the transport, plain errors
of a handler, flawed encodings.  `Raised` is a fault together with the one that
it stands in for.
-/

namespace Scep

/-! ### Failures of the protocol layer -/

inductive Detail where
  | text (value : String)
  | whole (value : Int)
  | flag (value : Bool)
  | missing
  deriving DecidableEq, Repr

inductive Family where
  | general
  | invalidServerUrl
  | unsupportedMethod
  | requestConstruction
  | transportRead
  | httpStatus
  | requestCancelled
  | transport
  | malformedRequest
  | notSupported
  | caStore
  | configuration
  deriving DecidableEq, Repr

namespace Family

def className : Family → String
  | general => "SCEPAdapterError"
  | invalidServerUrl => "InvalidServerURLError"
  | unsupportedMethod => "UnsupportedMethodError"
  | requestConstruction => "RequestConstructionError"
  | transportRead => "TransportReadError"
  | httpStatus => "HTTPStatusError"
  | requestCancelled => "RequestCancelledError"
  | transport => "TransportError"
  | malformedRequest => "MalformedRequestError"
  | notSupported => "PKIOperationNotSupportedError"
  | caStore => "CAStoreError"
  | configuration => "ConfigurationError"

def status : Family → Nat
  | unsupportedMethod => 405
  | transportRead => 413
  | httpStatus | transport => 502
  | requestCancelled => 504
  | malformedRequest => 400
  | _ => 500

end Family

inductive Failure where
  | invalidServerUrl (address reason : String)
  | unsupportedMethod (method : String)
  | requestConstruction (operation reason : String)
  | payloadTooLarge (limit : Int)
  | readFailed (reason : String)
  | httpStatus (status : Int) (reason body : String)
  | deadlineExceeded (operation deadline : String)
  | transport (operation faultName reason : String)
  | invalidMessage (reason : String)
  | unknownOperation (operation : String)
  | noHandler (operation : String)
  | certificateLoad (path reason : String)
  | missingSetting (field : String)
  | reported (family : Family) (message : String) (details : List (String × Detail))
  deriving DecidableEq, Repr

namespace Failure

def family : Failure → Family
  | invalidServerUrl .. => .invalidServerUrl
  | unsupportedMethod .. => .unsupportedMethod
  | requestConstruction .. => .requestConstruction
  | payloadTooLarge .. | readFailed .. => .transportRead
  | httpStatus .. => .httpStatus
  | deadlineExceeded .. => .requestCancelled
  | transport .. => .transport
  | invalidMessage .. | unknownOperation .. => .malformedRequest
  | noHandler .. => .notSupported
  | certificateLoad .. => .caStore
  | missingSetting .. => .configuration
  | reported family .. => family

def message : Failure → String
  | invalidServerUrl address reason =>
    "Invalid SCEP server URL \x27" ++ address ++ "\x27: " ++ reason
  | unsupportedMethod method => "scep: " ++ method ++ " method not supported"
  | requestConstruction operation reason =>
    "Creating new POST request for " ++ operation ++ " failed: " ++ reason
  | payloadTooLarge limit =>
    "Body exceeds maximum payload size of " ++ toString limit ++ " bytes"
  | readFailed reason => "Reading response body failed: " ++ reason
  | httpStatus status reason body =>
    "http request failed with status " ++ toString status ++ " " ++ reason ++ ", msg: " ++ body
  | deadlineExceeded operation _ => operation ++ " request cancelled: deadline exceeded"
  | transport operation _ reason => operation ++ " transport error: " ++ reason
  | invalidMessage reason => "Invalid message parameter: " ++ reason
  | unknownOperation operation => "Unknown SCEP operation: " ++ Text.quoted operation
  | noHandler operation => "No handler configured for " ++ operation
  | certificateLoad path reason =>
    "Failed to load CA certificate from " ++ path ++ ": " ++ reason
  | missingSetting field => "Missing required configuration: " ++ field
  | reported _ message _ => message

def details : Failure → List (String × Detail)
  | invalidServerUrl address reason => [("instance", .text address), ("reason", .text reason)]
  | unsupportedMethod method => [("method", .text method)]
  | requestConstruction operation reason =>
    [("operation", .text operation), ("reason", .text reason)]
  | payloadTooLarge limit => [("limit", .whole limit)]
  | readFailed reason => [("reason", .text reason)]
  | httpStatus status reason _ => [("status_code", .whole status), ("reason", .text reason)]
  | deadlineExceeded operation deadline =>
    [("operation", .text operation), ("timeout", .text deadline)]
  | transport operation faultName _ =>
    [("operation", .text operation), ("error_type", .text faultName)]
  | invalidMessage reason => [("reason", .text reason)]
  | unknownOperation operation => [("operation", .text operation)]
  | noHandler operation => [("operation", .text operation)]
  | certificateLoad path reason =>
    [("phase", .text "initialization"), ("cert_path", .text path), ("reason", .text reason)]
  | missingSetting field => [("field", .text field)]
  | reported _ _ details => details

def body? : Failure → Option String
  | httpStatus _ _ body => some body
  | _ => none

def status (failure : Failure) : Nat := failure.family.status

def setField (fields : List (String × Detail)) (field : String × Detail) :
    List (String × Detail) :=
  if fields.any fun present => present.1 == field.1 then
    fields.map fun present => if present.1 == field.1 then field else present
  else fields ++ [field]

/-- The fields under which a failure is recorded: its family, its message, and
its details, which overwrite fields of the same name. -/
def auditFields (failure : Failure) : List (String × Detail) :=
  failure.details.foldl setField
    [("exception_type", .text failure.family.className), ("message", .text failure.message)]

end Failure

/-! ### Faults from below -/

/-- What can go wrong between the two ends of a connection.  The first four are the
kinds of which others are, for transports that tell them no further apart. -/
inductive NetworkFault where
  | transportError
  | timeoutException
  | networkError
  | protocolError
  | connectTimeout
  | readTimeout
  | writeTimeout
  | poolTimeout
  | readError
  | writeError
  | connectError
  | closeError
  | localProtocolError
  | remoteProtocolError
  | proxyError
  | unsupportedProtocol
  | decodingError
  | tooManyRedirects
  | invalidUrl
  deriving DecidableEq, Repr

namespace NetworkFault

def className : NetworkFault → String
  | transportError => "TransportError"
  | timeoutException => "TimeoutException"
  | networkError => "NetworkError"
  | protocolError => "ProtocolError"
  | connectTimeout => "ConnectTimeout"
  | readTimeout => "ReadTimeout"
  | writeTimeout => "WriteTimeout"
  | poolTimeout => "PoolTimeout"
  | readError => "ReadError"
  | writeError => "WriteError"
  | connectError => "ConnectError"
  | closeError => "CloseError"
  | localProtocolError => "LocalProtocolError"
  | remoteProtocolError => "RemoteProtocolError"
  | proxyError => "ProxyError"
  | unsupportedProtocol => "UnsupportedProtocol"
  | decodingError => "DecodingError"
  | tooManyRedirects => "TooManyRedirects"
  | invalidUrl => "InvalidURL"

def isTimeout : NetworkFault → Bool
  | timeoutException | connectTimeout | readTimeout | writeTimeout | poolTimeout => true
  | _ => false

def isTransport : NetworkFault → Bool
  | decodingError | tooManyRedirects | invalidUrl => false
  | _ => true

def breaksBody : NetworkFault → Bool
  | readError | remoteProtocolError | decodingError => true
  | _ => false

end NetworkFault

inductive PlainError where
  | runtime
  | value
  | type
  | key
  | os
  | timeout
  | connection
  | index
  | member
  deriving DecidableEq, Repr

def PlainError.className : PlainError → String
  | runtime => "RuntimeError"
  | value => "ValueError"
  | type => "TypeError"
  | key => "KeyError"
  | os => "OSError"
  | timeout => "TimeoutError"
  | connection => "ConnectionError"
  | index => "IndexError"
  | member => "AttributeError"

inductive Fault where
  | failure (cause : Failure)
  | network (kind : NetworkFault) (message : String)
  | plain (kind : PlainError) (message : String)
  | base64 (flaw : Base64.Flaw)
  | hostName (flaw : Idn.Flaw)
  | notAscii (flaw : Text.NotAscii)
  | fileNotFound (path : String)
  | isDirectory (path : String)
  | notDirectory (path : String)
  | notUtf8 (flaw : Text.Utf8.Flaw)
  | invalidVersion (number : Nat)
  deriving DecidableEq, Repr

namespace Fault

def className : Fault → String
  | failure cause => cause.family.className
  | network kind _ => kind.className
  | plain kind _ => kind.className
  | base64 _ => "Error"
  | hostName flaw => flaw.className
  | notAscii _ => "UnicodeEncodeError"
  | fileNotFound _ => "FileNotFoundError"
  | isDirectory _ => "IsADirectoryError"
  | notDirectory _ => "NotADirectoryError"
  | notUtf8 _ => "UnicodeDecodeError"
  | invalidVersion _ => "InvalidVersion"

/-- A fault in words.  A missing key is shown in quotation marks. -/
def message : Fault → String
  | failure cause => cause.message
  | network _ message => message
  | plain .key message => Text.quoted message
  | plain _ message => message
  | base64 flaw => flaw.message
  | hostName flaw => flaw.message
  | notAscii flaw => flaw.message
  | fileNotFound path => "No such file or directory: " ++ path
  | isDirectory path => "Is a directory: " ++ path
  | notDirectory path => "[Errno 20] Not a directory: " ++ Text.quoted path
  | notUtf8 flaw => flaw.message
  | invalidVersion number => toString number ++ " is not a valid X509 version"

end Fault

/-- A fault and, where it stands in for another, that other one. -/
structure Raised where
  fault : Fault
  origin : Option Fault := none
  deriving DecidableEq, Repr

end Scep

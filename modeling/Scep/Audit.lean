import Scep.Fault
import Scep.Number.Real
import Scep.Operation
import Scep.Settings.Basic
import Scep.Text.Blank

/-!
Records of what clients and responders do.

An event knows its level, its name, its fields and a message for people.  A
record is an event with the mark of the request that it belongs to, and is
written as one line of which only the message is not quoted.
-/

namespace Scep.Audit

inductive Event where
  | requestSent (operation method url : String) (size : Int)
  | responseReceived (operation : String) (status size certificates : Int)
  | capabilitiesUpdated (capabilities : Octets) (isImplicit : Bool)
  | transportSelected (operation method : String)
  | requestServed (operation method : String) (status size : Int)
  | caLoaded (subject : String) (count : Int)
  | error (fault : Fault) (context : String)
  | startup (version host : String) (port : Int)
  | shutdown
  deriving DecidableEq, Repr

def tokens (capabilities : Octets) : List String :=
  (Text.words (Text.Utf8.decodeLossy capabilities)).map String.ofList

namespace Event

def name : Event → String
  | requestSent .. => "request_sent"
  | responseReceived .. => "response_received"
  | capabilitiesUpdated .. => "capabilities_updated"
  | transportSelected .. => "transport_selected"
  | requestServed .. => "request_served"
  | caLoaded .. => "ca_loaded"
  | error .. => "error"
  | startup .. => "startup"
  | shutdown => "shutdown"

def level : Event → Settings.Level
  | requestSent .. | responseReceived .. | transportSelected .. => .debug
  | capabilitiesUpdated .. | caLoaded .. | startup .. | shutdown => .info
  | requestServed _ _ status _ => if status < 400 then .info else .warning
  | error .. => .error

def fields : Event → List (String × Detail)
  | requestSent operation method url size =>
    [("operation", .text operation), ("method", .text method), ("url", .text url),
      ("message_size", .whole size)]
  | responseReceived operation status size certificates =>
    [("operation", .text operation), ("status_code", .whole status),
      ("payload_size", .whole size), ("ca_cert_num", .whole certificates)]
  | capabilitiesUpdated capabilities isImplicit =>
    [("capabilities", .text (",".intercalate (tokens capabilities))),
      ("implicit", .flag isImplicit)]
  | transportSelected operation method =>
    [("operation", .text operation), ("method", .text method)]
  | requestServed operation method status size =>
    [("operation", .text operation), ("method", .text method), ("status_code", .whole status),
      ("payload_size", .whole size)]
  | caLoaded subject count => [("ca_subject", .text subject), ("chain_length", .whole count)]
  | error fault context =>
    [("error_type", .text fault.className), ("error_message", .text fault.message),
      ("context", .text context)]
  | startup version host port =>
    [("version", .text version), ("host", .text host), ("port", .whole port)]
  | shutdown => []

def message : Event → String
  | requestSent operation method url _ => method ++ " " ++ operation ++ " sent to " ++ url
  | responseReceived operation status _ _ =>
    operation ++ " answered with status " ++ toString status
  | capabilitiesUpdated capabilities _ =>
    "Server capabilities updated (" ++ toString (tokens capabilities).length ++ " tokens)"
  | transportSelected operation method => operation ++ " routed via " ++ method
  | requestServed operation method status _ =>
    if status < 400 then method ++ " " ++ operation ++ " served"
    else method ++ " " ++ operation ++ " failed with status " ++ toString status
  | caLoaded subject _ => "CA certificates loaded for " ++ subject
  | error fault context => "Error during " ++ context ++ ": " ++ fault.message
  | startup version _ _ => "SCEP Adapter v" ++ version ++ " starting"
  | shutdown => "SCEP Adapter shutting down"

end Event

def uncorrelated : String := "-"

structure Record where
  correlation : String := uncorrelated
  event : Event
  deriving DecidableEq, Repr

namespace Record

def during (mark : String) (event : Event) : Record :=
  ⟨if mark.isEmpty then uncorrelated else mark, event⟩

def isCorrelated (record : Record) : Bool := record.correlation != uncorrelated

def shown : Detail → String
  | .text value => Text.quoted value
  | .whole value => Number.wholeText value
  | .flag value => if value then "True" else "False"
  | .missing => "None"

def allFields (record : Record) : List (String × Detail) :=
  [("audit", .flag true), ("correlation_id", .text record.correlation),
    ("event", .text record.event.name)] ++ record.event.fields

/-- The first line that is written of a record, after the time.  The traceback that follows
a record of an error is left out. -/
def line (record : Record) : String :=
  let fields := record.allFields.map fun field => Text.quoted field.1 ++ ": " ++ shown field.2
  "[" ++ record.event.level.name ++ "] [" ++ record.correlation ++ "] <" ++ record.event.name ++
    "> " ++ record.event.message ++ " | \x7b" ++ ", ".intercalate fields ++ "\x7d"

def passes (record : Record) (least : Settings.Level) : Bool :=
  least.weight ≤ record.event.level.weight

end Record

end Scep.Audit

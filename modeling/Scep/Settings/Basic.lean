import Scep.Files

/-!
The settings of clients and responders, and their defaults.
-/

namespace Scep.Settings

structure Tls where
  certFile : String
  keyFile : String
  deriving DecidableEq, Repr

structure Server where
  host : String := "0.0.0.0"
  port : Int := 8080
  /-- The route of the protocol; it starts with a slash and does not end with
  one. -/
  path : String := "/scep"
  tls : Option Tls := none
  deriving DecidableEq, Repr

inductive Trust where
  | common (verify : Bool)
  | file (path : String)
  deriving DecidableEq, Repr

structure Client where
  serverUrl : String := "http://localhost:8080/scep"
  timeout : Option Float := some 30.0
  verifyTls : Trust := .common true

structure Ca where
  certFile : Option String := none
  chainFiles : List String := []
  deriving DecidableEq, Repr

inductive Level where
  | debug
  | info
  | warning
  | error
  deriving DecidableEq, Repr

namespace Level

def name : Level → String
  | debug => "DEBUG"
  | info => "INFO"
  | warning => "WARNING"
  | error => "ERROR"

def all : List Level := [debug, info, warning, error]

def weight : Level → Nat
  | debug => 10
  | info => 20
  | warning => 30
  | error => 40

def ofName? (text : String) : Option Level := all.find? fun level => level.name == text

end Level

structure Audit where
  logFile : String := "logs/audit.log"
  logLevel : Level := .info
  deriving DecidableEq, Repr

def commonCapabilities : List String :=
  ["POSTPKIOperation", "SHA-256", "AES", "SCEPStandard"]

end Scep.Settings

namespace Scep

structure Settings where
  server : Settings.Server := {}
  client : Settings.Client := {}
  ca : Settings.Ca := {}
  capabilities : List String := Settings.commonCapabilities
  audit : Settings.Audit := {}

end Scep

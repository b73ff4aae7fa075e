import Scep.Settings.Field

/-!
Settings from the values of a document.

A setting that is absent takes its default, names that stand for nothing are
passed over, and everything that is wrong is reported, in the order of the
settings.
-/

namespace Scep.Settings

def record {α : Type} (model : String) (read : List (Value × Value) → Checked α) : Check α
  | .table entries => read entries
  | _ => .refuse (.noRecord model)

def field {α : Type} (entries : List (Value × Value)) (name : String) (default : α)
    (check : Check α) : Checked α :=
  match Value.lookup entries name with
  | none => .fine default
  | some value => (check value).under (.name name)

def required {α : Type} (entries : List (Value × Value)) (name : String) (check : Check α) :
    Checked α :=
  match Value.lookup entries name with
  | none => .faulty [⟨[.name name], .missing⟩]
  | some value => (check value).under (.name name)

def Tls.ofValue : Check Tls :=
  record "TLSConfig" fun entries =>
    Tls.mk <$> required entries "cert_file" Check.path
      <*> required entries "key_file" Check.path

def Server.ofValue : Check Server :=
  record "ServerConfig" fun entries =>
    let usual : Server := {}
    Server.mk <$> field entries "host" usual.host Check.text
      <*> field entries "port" usual.port (Check.wholeWithin 1 65535)
      <*> field entries "path" usual.path Check.route
      <*> field entries "tls" usual.tls (Check.optional Tls.ofValue)

def Client.ofValue : Check Client :=
  record "ClientConfig" fun entries =>
    let usual : Client := {}
    Client.mk <$> field entries "server_url" usual.serverUrl Check.text
      <*> field entries "timeout" usual.timeout (Check.optional Check.positive)
      <*> field entries "verify_tls" usual.verifyTls Check.trust

def Ca.ofValue : Check Ca :=
  record "CAConfig" fun entries =>
    let usual : Ca := {}
    Ca.mk <$> field entries "cert_file" usual.certFile (Check.optional Check.path)
      <*> field entries "chain_files" usual.chainFiles (Check.list Check.path)

def Audit.ofValue : Check Audit :=
  record "AuditConfig" fun entries =>
    let usual : Audit := {}
    Audit.mk <$> field entries "log_file" usual.logFile Check.path
      <*> field entries "log_level" usual.logLevel Check.level

def ofValue : Check Settings :=
  record "Settings" fun entries =>
    let usual : Settings := {}
    Settings.mk <$> field entries "server" usual.server Server.ofValue
      <*> field entries "client" usual.client Client.ofValue
      <*> field entries "ca" usual.ca Ca.ofValue
      <*> field entries "capabilities" usual.capabilities Check.capabilities
      <*> field entries "audit" usual.audit Audit.ofValue

def assign (name : String) : Finding := ⟨[.name name], .frozen⟩

end Scep.Settings

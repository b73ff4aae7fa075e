import Scep.Settings.Basic

/-!
What the server that hosts a responder is told when it is started.
-/

namespace Scep

structure Launch where
  application : String := "scep_adapter.main:create_app"
  isFactory : Bool := true
  host : String
  port : Int
  reloads : Bool := false
  tls : Option Settings.Tls
  deriving DecidableEq, Repr

def Launch.ofSettings (settings : Settings) : Launch :=
  { host := settings.server.host, port := settings.server.port, tls := settings.server.tls }

def Launch.lines (launch : Launch) : List String :=
  let flag := fun value : Bool => if value then "yes" else "no"
  let tls := match launch.tls with
    | some tls => ["certificate: " ++ tls.certFile, "key: " ++ tls.keyFile]
    | none => []
  ["application: " ++ launch.application, "factory: " ++ flag launch.isFactory,
    "host: " ++ launch.host, "port: " ++ toString launch.port,
    "reload: " ++ flag launch.reloads] ++ tls

end Scep

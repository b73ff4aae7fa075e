import Scep.Fault
import Scep.Url.Parse

/-!
Server addresses, which may leave out the scheme.
-/

namespace Scep.Url

def schemeMark : List Char := [':', '/', '/']

/-- An address with its scheme: plain `http` unless the text has a mark that
ends a scheme. -/
def withScheme (text : List Char) : List Char :=
  if Text.contains schemeMark text then text else "http://".toList ++ text

def Flaw.fault (flaw : Flaw) : Fault := .network .invalidUrl flaw.message

def ofServer (text : List Char) : Except Raised Url :=
  let address := withScheme text
  match parse address with
  | .error flaw =>
    .error ⟨.failure (.invalidServerUrl (String.ofList address) flaw.message), some flaw.fault⟩
  | .ok url =>
    match url.shownHost with
    | .error flaw => .error ⟨.hostName flaw, none⟩
    | .ok [] => .error ⟨.failure (.invalidServerUrl (String.ofList address) "missing host"), none⟩
    | .ok _ => .ok url

end Scep.Url

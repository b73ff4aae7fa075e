import Scep.Audit
import Scep.Certificate.Basic
import Scep.Certificate.Chain
import Scep.Certificate.Pem
import Scep.Files

/-!
The certificates that a responder gives out.
-/

namespace Scep.Certificate

structure Store where
  authority : Certificate
  chain : List Certificate
  deriving DecidableEq, Repr

namespace Store

def certificates (store : Store) : List Certificate := store.authority :: store.chain

/-- What is sent for the certificates, and their number: one stands for itself,
and several go into one message. -/
def payload (store : Store) : Octets × Nat :=
  let encodings := store.certificates.map Certificate.der
  match encodings with
  | [encoding] => (encoding, 1)
  | _ => (Chain.encode encodings, encodings.length)

/-! ### Loading -/

def labels : List (List Char) := ["CERTIFICATE".toList, "X509 CERTIFICATE".toList]

inductive Flaw where
  | blocks (flaw : Pem.Flaw)
  | notACertificate
  | version (number : Nat)
  deriving DecidableEq, Repr

def Flaw.fault : Flaw → Fault
  | blocks flaw => .plain .value flaw.message
  | notACertificate => .plain .value "error parsing asn1 value"
  | version number => .invalidVersion number

/-- The certificate in a block, which is of the first version or of the third. -/
def ofBlock (block : Pem.Block) : Except Flaw Certificate :=
  match ofDer? block.content with
  | some certificate =>
    if certificate.version = 0 ∨ certificate.version = 2 then .ok certificate
    else .error (.version certificate.version)
  | none => .error .notACertificate

def ofPem (content : Octets) : Except Flaw (Certificate × List Certificate) := do
  let blocks ← (Pem.blocks content).mapError .blocks
  let held := blocks.filter fun block => labels.contains block.label
  let certificates ← held.mapM ofBlock
  match certificates with
  | [] => throw (.blocks .noBlock)
  | first :: rest => return (first, rest)

/-- What is told of a fault in the way of loading a file: that the file is absent and
what is wrong with its content are failures to load it, anything else is left. -/
def refusal (path : String) (fault : Fault) : Raised :=
  match fault with
  | .fileNotFound _ => ⟨.failure (.certificateLoad path "file not found"), some fault⟩
  | .plain .value message => ⟨.failure (.certificateLoad path message), some fault⟩
  | _ => ⟨fault, none⟩

def loadFileBy (read : String → Except Fault Octets) (path : String) :
    Except Raised (Certificate × List Certificate) :=
  let loaded := do
    let content ← read path
    (ofPem content).mapError Flaw.fault
  loaded.mapError (refusal path)

def loadFile (files : Files) (path : String) : Except Raised (Certificate × List Certificate) :=
  loadFileBy files.read path

def subjectText (certificate : Certificate) : Except Raised String :=
  match Name.ofParts? certificate.subject with
  | some name => .ok (String.ofList name.render)
  | none =>
    .error ⟨.plain .value
      "error parsing asn1 value: ParseError \x7b kind: InvalidValue \x7d", none⟩

/-- The store that the settings name, and the record of it: the first
certificate of the first file is the authority's. -/
def loadBy (read : String → Except Fault Octets) (settings : Settings.Ca) :
    Except Raised (Store × Audit.Event) := do
  match settings.certFile with
  | none => throw ⟨.failure (.missingSetting "ca.cert_file"), none⟩
  | some path =>
    let (authority, others) ← loadFileBy read path
    let chains ← settings.chainFiles.mapM (loadFileBy read)
    let chain := others ++ chains.flatMap fun (first, rest) => first :: rest
    let subject ← subjectText authority
    return (⟨authority, chain⟩, .caLoaded subject (chain.length + 1))

def load (files : Files) (settings : Settings.Ca) : Except Raised (Store × Audit.Event) :=
  loadBy files.read settings

end Store

end Scep.Certificate

import Scep.Settings.Model
import Scep.Yaml.Document

/-!
Settings from files.
-/

namespace Scep.Settings

inductive Trouble where
  | fault (fault : Fault)
  | malformed
  | invalid (findings : List Finding)
  deriving DecidableEq, Repr

def Trouble.lines : Trouble → List String
  | fault cause => [cause.message]
  | malformed => ["The settings are no well-formed document."]
  | invalid findings => findings.map fun finding =>
    let steps := finding.location.map fun
      | .name name => name
      | .index index => toString index
    ".".intercalate steps ++ ": " ++ finding.issue.message

def Checked.settle {α : Type} : Checked α → Except Trouble α
  | fine value => .ok value
  | faulty findings => .error (.invalid findings)

def startsSurrogate : Octets → Bool
  | [0xED, octet] => 0xA0 ≤ octet && octet ≤ 0xBF
  | _ => false

/-- The text of a file.  Its last octets are read on their own, so that what is
unfinished there is counted from its own start. -/
def fileText (content : Octets) : Except Fault (List Char) :=
  match Text.Utf8.decode content with
  | .ok text => .ok text
  | .error (.unexpectedEnd _ count octet) => .error (.notUtf8 (.unexpectedEnd 0 count octet))
  | .error (.invalidContinuation position count octet) =>
    let start := if startsSurrogate (content.drop position) then 0 else position
    .error (.notUtf8 (.invalidContinuation start count octet))
  | .error flaw => .error (.notUtf8 flaw)

/-- The settings in the text of a file.  An empty document leaves all of them at
their defaults. -/
def ofText (text : List Char) : Except Trouble Settings :=
  match Yaml.read text with
  | .error .malformed => .error .malformed
  | .error (.unreadable kind message) => .error (.fault (.plain kind message))
  | .ok value => (ofValue (if value.isBlank then .table [] else value)).settle

def ofContent (content : Octets) : Except Trouble Settings :=
  match fileText content with
  | .error fault => .error (.fault fault)
  | .ok text => ofText text

def load (files : Files) (path : String) : Except Trouble Settings :=
  match files.read (Path.normal path) with
  | .error fault => .error (.fault fault)
  | .ok content => ofContent content

def usualVariable : String := "SCEP_ADAPTER_CONFIG"

def usualPaths : List String := ["config.yaml", "config.yml", "/etc/scep-adapter/config.yaml"]

/-- The file to read: the one that a variable of the environment names, or the
first of some files that is there. -/
def choosePath (isThere : String → Bool) (named : Option String) (paths : List String) :
    Option String :=
  match named.filter fun path => !path.isEmpty with
  | some path => some path
  | none => (paths.map Path.normal).find? isThere

def loadFrom (files : Files) (named : Option String) (paths : List String) :
    Except Trouble Settings :=
  match choosePath files.has named paths with
  | some path => load files path
  | none => .ok {}

end Scep.Settings

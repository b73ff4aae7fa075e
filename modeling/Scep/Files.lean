import Scep.Fault
import Scep.Operation
import Scep.Text.Blank

/-!
Files by their paths.

The files are those below one directory, in which every relative path starts;
around it nothing is known but that the root is a directory.
-/

namespace Scep

namespace Path

def steps (path : List Char) : List (List Char) :=
  (Text.splitOn '/' path).filter fun step => !step.isEmpty && step != ['.']

/-- The slashes at the start of a path that are kept: two if there are exactly
two, and else at most one. -/
def root : List Char → List Char
  | '/' :: '/' :: rest => if rest.head? == some '/' then ['/'] else ['/', '/']
  | '/' :: _ => ['/']
  | _ => []

def normal (path : String) : String :=
  let text := root path.toList ++ ['/'].intercalate (steps path.toList)
  if text.isEmpty then "." else String.ofList text

end Path

/-- The files below a directory, each by the names that lead to it. -/
abbrev Files := List (List (List Char) × Octets)

inductive Place where
  | directory (steps : List (List Char))
  | file (content : Octets)
  /-- A directory outside the known one. -/
  | outside
  deriving DecidableEq, Repr

inductive Stray where
  | missing
  | throughFile
  deriving DecidableEq, Repr

namespace Files

def ofPaths (files : List (String × Octets)) : Files :=
  files.map fun file => (Path.steps file.1.toList, file.2)

def enter (files : Files) (place : Place) (step : List Char) : Except Stray Place :=
  match place with
  | .file _ => .error .throughFile
  | .outside => if step = ['.', '.'] then .ok .outside else .error .missing
  | .directory above =>
    if step = ['.', '.'] then
      match above with
      | [] => .ok .outside
      | _ :: above => .ok (.directory above)
    else
      let steps := (step :: above).reverse
      match files.find? fun file => file.1 == steps with
      | some (_, content) => .ok (.file content)
      | none =>
        if files.any fun file => steps.isPrefixOf file.1 then .ok (.directory (step :: above))
        else .error .missing

def find (files : Files) (path : String) : Except Stray Place :=
  let start := if path.startsWith "/" then Place.outside else .directory []
  (Path.steps path.toList).foldlM files.enter start

def has (files : Files) (path : String) : Bool :=
  !path.toList.contains '\x00' && (files.find path).toOption.isSome

def read (files : Files) (path : String) : Except Fault Octets :=
  if path.toList.contains '\x00' then .error (.plain .value "embedded null byte")
  else
    match files.find path with
    | .ok (.file content) => .ok content
    | .ok _ => .error (.isDirectory path)
    | .error .missing => .error (.fileNotFound path)
    | .error .throughFile => .error (.notDirectory path)

end Files

end Scep

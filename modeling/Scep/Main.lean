import Scep.Responder.Launch
import Scep.Settings.Load

/-!
The command line: reads the settings and writes what the server that hosts the
responder is to be told.
-/

namespace Scep

def contentOf (path : String) : IO (Option Octets) := do
  try
    return some (← IO.FS.readBinFile path).data.toList
  catch _ =>
    return none

def findSettings : IO (Except Settings.Trouble Settings) := do
  let named ← IO.getEnv Settings.usualVariable
  let present ← Settings.usualPaths.filterM fun path => return (← contentOf path).isSome
  match Settings.choosePath present.contains named Settings.usualPaths with
  | none => return .ok {}
  | some path =>
    match ← contentOf path with
    | some content => return Settings.ofContent content
    | none => return .error (.fault (.fileNotFound path))

end Scep

def main : IO UInt32 := do
  match ← Scep.findSettings with
  | .ok settings =>
    (Scep.Launch.ofSettings settings).lines.forM IO.println
    return 0
  | .error trouble =>
    trouble.lines.forM IO.eprintln
    return 1

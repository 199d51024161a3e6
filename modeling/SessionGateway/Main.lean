import SessionGateway.Cli

/-!
# The program

Reads the arguments and the settings file, runs the command line on them and
prints its report.
-/

namespace SessionGateway.Main

/-- What is found at a path. -/
def readFile (path : String) : IO Settings.File := do
  match ← (IO.FS.readBinFile path).toBaseIO with
  | .ok content => return .content content.toList
  | .error (.noFileOrDirectory ..) => return .missing
  | .error _ => return .directory

end SessionGateway.Main

open SessionGateway in
/-- Runs the command line. -/
def main (arguments : List String) : IO UInt32 := do
  let file ← match Cli.Request.ofArguments arguments with
    | .start { config := some path, .. } => Main.readFile path
    | _ => pure .missing
  let number ← IO.rand 0 4294967295
  let report := Cli.run
    { file := fun _ => file
      serviceName := ServiceSettings.generatedName (UInt32.ofNat number) }
    arguments
  report.output.forM fun line => IO.println line
  unless report.error.isEmpty do
    IO.eprintln report.error
  return UInt32.ofNat report.exitCode

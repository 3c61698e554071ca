import Flowgraph.CommandLine.Execution
/-!
# The program

Reads the files and variables that the command line asks for, and writes its report.
-/

namespace Flowgraph

/-- Reads a file as a text. -/
def readFile (path : String) : IO FileContent := do
  try
    let octets ← IO.FS.readBinFile path
    match Text.ofOctets? octets.toList with
    | some s => return .text s
    | none => return .unreadable "stream did not contain valid UTF-8"
  catch
    | .noFileOrDirectory .. => return .missing
    | error => return .unreadable (toString error)

/-- The directory of configurations: the one that a variable names, else one in the home
directory. -/
def configDirectory (named home : Option String) : Option String :=
  (named.filter fun path => Text.startsWith path "/").or
    (home.map fun home => Path.join home ".config")

/-- What is around the program. -/
def surroundings : IO (Surroundings IO) := do
  let home ← IO.getEnv "HOME"
  return {
    read := readFile
    home
    configDirectory := configDirectory (← IO.getEnv "XDG_CONFIG_HOME") home
    configPath := ← IO.getEnv "NODEFLOW_CONFIG_PATH"
    transport := fun _ => .error "request failed: no transport is available" }

end Flowgraph

/-- Carries out the command line. -/
def main (args : List String) : IO UInt32 := do
  let report ← Flowgraph.CommandLine.execute (← Flowgraph.surroundings) args
  IO.print report.output
  match report.error with
  | some message => IO.eprintln message
  | none => pure ()
  return report.code.toUInt32

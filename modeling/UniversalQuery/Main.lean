import UniversalQuery.CommandLine.Run

set_option autoImplicit false

/-! The program: it reads the files that the command line names and writes what the command leaves
behind. -/

namespace UniversalQuery.CommandLine

def fileErrorOf : IO.Error → FileError
  | .inappropriateType _ code _ => if code = 21 then .isADirectory else .notADirectory
  | _ => .notFound

def readPath (path : String) : IO (String × Except FileError String) := do
  try
    let text ← IO.FS.readFile path
    return (path, .ok text)
  catch error => return (path, .error (fileErrorOf error))

end UniversalQuery.CommandLine

open UniversalQuery CommandLine in
/-- Runs the command line. A command line that is not understood ends with the code 2. -/
def main (arguments : List String) : IO UInt32 := do
  match Command.ofArguments? arguments with
  | none =>
    IO.eprintln "error: the command line is not understood"
    return 2
  | some command =>
    let files ← command.paths.mapM readPath
    let input ← if command.readsInput then (← IO.getStdin).readToEnd else pure ""
    let outcome := command.run (fun path => (files.lookup path).getD (.error .notFound)) input
    IO.print outcome.output
    IO.eprint outcome.errors
    return outcome.exitCode.toUInt32

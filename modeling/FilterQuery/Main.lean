import FilterQuery.CommandLine.Run

/-!
# The program

Gathers what a run can read, runs, and writes what the run leaves behind.  Standard input is read
only by an invocation that takes its description from there, and is taken as empty at a terminal.
-/

namespace FilterQuery.CommandLine

/-- The number of an error of the operating system, which is reported with either sign. -/
def errorNumber (code : UInt32) : UInt32 := min code (0 - code)

/-- The fault that an error of the operating system is. -/
def FileFault.ofError (error : IO.Error) : FileFault :=
  match error with
  | .noFileOrDirectory .. => notFound
  | .permissionDenied .. => other "Permission denied (os error 13)"
  | .inappropriateType _ code _ =>
    if errorNumber code = 21 then isDirectory
    else if errorNumber code = 20 then notDirectory
    else other (toString error)
  | .invalidArgument _ code _ =>
    if errorNumber code = 36 then nameTooLong else other (toString error)
  | _ => other (toString error)

/-- The lines that are left on a stream. -/
partial def restOf (stream : IO.FS.Stream) (text : String) : IO String := do
  let line ← stream.getLine
  if line.isEmpty then return text else restOf stream (text ++ line)

/-- All of standard input, and nothing at a terminal. -/
def readStandardInput : IO String := do
  let stream ← IO.getStdin
  if ← stream.isTty then return "" else restOf stream ""

/-- The content of the file at a path. -/
def readFileAt (path : String) : IO (Except FileFault String) := do
  try
    let bytes ← IO.FS.readBinFile path
    match String.fromUTF8? bytes with
    | some text => return .ok text
    | none => return .error (.other "stream did not contain valid UTF-8")
  catch error =>
    return .error (FileFault.ofError error)

/-- What an invocation will read. -/
def Invocation.gather (invocation : Invocation) : IO Surroundings :=
  match invocation.command with
  | .select .standard | .clause .standard => do
    let text ← readStandardInput
    return ⟨text, fun _ => .error .notFound⟩
  | .select (.file path) | .clause (.file path) => do
    let content ← readFileAt path
    return ⟨"", fun _ => content⟩
  | _ => return ⟨"", fun _ => .error .notFound⟩

end FilterQuery.CommandLine

open FilterQuery.CommandLine in
/-- Runs the program with the arguments of the command line. -/
def main (arguments : List String) : IO UInt32 := do
  let environment : Environment :=
    { table := ← IO.getEnv "OXIDE_QUERY_TABLE"
      format := ← IO.getEnv "OXIDE_QUERY_FORMAT" }
  match Invocation.parse environment arguments with
  | .error .version =>
    IO.print versionText
    return 0
  | .error .usage =>
    IO.eprintln "Usage: oxide-query [OPTIONS] <select|where|find>"
    return 2
  | .ok invocation =>
    let outcome := invocation.run (← invocation.gather)
    IO.eprint outcome.errors
    IO.print outcome.output
    return UInt32.ofNat outcome.code

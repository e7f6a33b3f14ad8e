import RecordQuery.CommandLine.Run

/-!
# The program

Reads the files that the command names, runs the command and prints its answer.
-/

namespace RecordQuery.CommandLine

/-- The files that a command names. -/
def Command.paths : Command → List String
  | .query records request config _ => records :: request :: config.toList
  | .fields => []

/-- Why a file cannot be read. -/
def reasonOf : IO.Error → String
  | .noFileOrDirectory .. => "No such file or directory (os error 2)"
  | error => toString error

/-- Reads a file. -/
def readText (path : String) : IO (Except String String) := do
  try
    return .ok (← IO.FS.readFile path)
  catch error =>
    return .error (reasonOf error)

/-- Reads files, each of which is then known by its path. -/
def loadFiles (paths : List String) : IO Files := do
  let texts ← paths.mapM fun path => return (path, ← readText path)
  return fun path => (texts.lookup path).getD (.error "not read")

/-- What is said where no command is carried out. -/
def Usage.message : Usage → String
  | .help | .helpWithoutArguments =>
    "Usage: record-query [-v] fields\n" ++
      "       record-query [-v] query --records FILE --query FILE [--config FILE] [--pretty]"
  | .version => "record-query 1.0"
  | .unknownCommand => "error: unknown command"
  | .missingCommand => "error: a command is needed"
  | .missingOption => "error: --records and --query are needed"
  | .unknownArgument => "error: unexpected argument"
  | .repeatedOption => "error: an option is given twice"
  | .invalidValue => "error: an option needs a value"
  | .unexpectedValue => "error: a switch has a value"

end RecordQuery.CommandLine

open RecordQuery.CommandLine in
/-- Runs the command that the arguments name. -/
def main (args : List String) : IO UInt32 := do
  match Invocation.ofArguments args with
  | .error usage =>
    if usage = .help ∨ usage = .version then
      IO.println usage.message
      return 0
    else
      IO.eprintln usage.message
      return 2
  | .ok invocation =>
    match invocation.command.run (← loadFiles invocation.command.paths) with
    | .ok output =>
      IO.println output
      return 0
    | .error error =>
      IO.eprintln s!"error: {error.message}"
      return 1

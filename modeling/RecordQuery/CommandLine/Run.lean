import RecordQuery.CommandLine.Arguments
import RecordQuery.Inbox.Wire
import RecordQuery.Yaml.Settings

/-!
# Running commands

* `Files`, the texts of the files that a command may name;
* `extension`, the part of a file name that tells its format;
* `RunError`, why a command fails, with its wording;
* `Command.run`, what a command prints.

Of the files of a request the limits are read first, then the notifications, then the request.
-/

namespace RecordQuery.CommandLine

/-- The text of each file, or why it cannot be read. -/
abbrev Files := String → Except String String

/-- The last part of a path that names a file. -/
def fileName (path : List Char) : List Char :=
  let parts := (path.splitOn '/').filter fun part => part ≠ [] ∧ part ≠ ['.']
  match parts.getLast? with
  | some ['.', '.'] => []
  | some name => name
  | none => []

/-- What follows the last point of a file name, unless the name starts there. -/
def extension (path : String) : String :=
  let name := fileName path.toList
  let reversed := name.reverse
  let after := reversed.takeWhile (· != '.')
  let before := (reversed.dropWhile (· != '.')).drop 1
  if before.isEmpty then "" else String.ofList after.reverse

/-- Why a command fails. -/
inductive RunError
  | unreadableConfig (path reason : String)
  | unreadable (path reason : String)
  | invalidYaml (path : String)
  | invalidConfig (path : String) (fault : Fault)
  | unsupportedFormat (extension path : String)
  | invalidJson (path : String) (fault : Fault)
  | badRequest (path : String) (error : CompileError)

/-- What is said of a fault after a colon, if it has a wording. -/
def detail (fault : Fault) : String :=
  match fault.message? with
  | some message => ": " ++ message
  | none => ""

/-- The wording of a failure. -/
def RunError.message : RunError → String
  | .unreadableConfig path reason => s!"failed to read config {path}: {reason}"
  | .unreadable path reason => s!"failed to read {path}: {reason}"
  | .invalidYaml path => s!"invalid YAML config {path}"
  | .invalidConfig path fault => s!"invalid JSON config {path}{detail fault}"
  | .unsupportedFormat extension path =>
    s!"unsupported config format '{extension}' for {path}, expected .yaml, .yml or .json"
  | .invalidJson path fault => s!"invalid JSON in {path}{detail fault}"
  | .badRequest path error => s!"bad request in {path}: {error.message}"

/-- The limits that settings in YAML give. -/
def limitsOfYaml? (text : String) : Option Limits := do
  let settings ← Yaml.settings? text
  (Limits.reader.decodeJson (.object (settings.map fun (k, n) => (k, .nat n)))).toOption

/-- The limits in a file, whose extension tells its format. -/
def readLimits (files : Files) (path : String) : Except RunError Limits := do
  let text ← (files path).mapError (.unreadableConfig path)
  match extension path with
  | "yaml" | "yml" =>
    match limitsOfYaml? text with
    | some limits => return limits
    | none => throw (.invalidYaml path)
  | "json" => (Limits.reader.decodeText text).mapError (.invalidConfig path)
  | other => throw (.unsupportedFormat other path)

/-- The value in a file of JSON. -/
def readJson {α : Type} (r : Reader α) (files : Files) (path : String) : Except RunError α := do
  let text ← (files path).mapError (.unreadable path)
  (r.decodeText text).mapError (.invalidJson path)

/-- The answer to the request in a file. -/
def runQuery (files : Files) (records request : String) (config : Option String) :
    Except RunError InboxResult := do
  let limits ← match config with
    | some path => readLimits files path
    | none => pure {}
  let notifications ← readJson Notification.listReader files records
  let r ← readJson InboxRequest.reader files request
  (Inbox.query ⟨notifications, limits⟩ r).mapError (.badRequest request)

/-- The fields that requests may name, each on a line with its type after a tab. -/
def listFields : String :=
  "\n".intercalate (Notification.fields.fields.map fun (id, type) => s!"{id}\t{type.name}")

/-- What a command prints. -/
def Command.run (files : Files) : Command → Except RunError String
  | .query records request config pretty => do
    let answer := (← runQuery files records request config).toJson
    return String.ofList (if pretty then answer.renderIndented else answer.render)
  | .fields => return listFields

end RecordQuery.CommandLine

/-!
# Command line arguments

The command line names one of two commands: `query`, which runs a request against a file of
notifications, and `fields`, which lists what requests may name.

* `Command` and `Invocation`, what is to be done and how much is logged;
* `Usage`, what is shown in place of doing it;
* `Invocation.ofArguments`, which reads arguments from left to right.

An option takes its value from the same argument or from the next one. Whether a value suits is
decided when the next known option, or the end, is reached.
-/

namespace RecordQuery.CommandLine

/-- What the program is asked to do. -/
inductive Command
  | query (records request : String) (config : Option String) (pretty : Bool)
  | fields
  deriving DecidableEq

/-- A command, and how often more logging was asked for. -/
structure Invocation where
  command : Command
  verbosity : Nat
  deriving DecidableEq

/-- The name of the least severe messages that are logged. -/
def Invocation.logLevel (i : Invocation) : String :=
  match i.verbosity with
  | 0 => "warn"
  | 1 => "debug"
  | _ => "trace"

/-- What is shown when no command is carried out. -/
inductive Usage
  | help
  | version
  /-- Help, because there are no arguments. -/
  | helpWithoutArguments
  | unknownCommand
  | missingCommand
  | missingOption
  | unknownArgument
  | repeatedOption
  | invalidValue
  | unexpectedValue
  deriving DecidableEq

/-- An option without a value. -/
inductive Switch
  | help
  | version
  | verbose
  | pretty
  deriving DecidableEq

/-- An option with a value. -/
inductive Setting
  | records
  | query
  | config
  deriving DecidableEq

/-- What an option does. -/
inductive Effect
  | switch (s : Switch)
  | setting (s : Setting)

/-- An option with its name and its letter. -/
structure Flag where
  name : String
  letter : Option Char
  effect : Effect

/-- Where options stand: before the command, or after one of the commands. -/
inductive Scope
  | root
  | query
  | fields
  deriving DecidableEq

namespace Scope

/-- The options that every scope has. -/
def sharedFlags : List Flag :=
  [⟨"verbose", some 'v', .switch .verbose⟩, ⟨"help", some 'h', .switch .help⟩]

/-- The options. -/
def flags : Scope → List Flag
  | .root => ⟨"version", some 'V', .switch .version⟩ :: sharedFlags
  | .query =>
    ⟨"records", some 'r', .setting .records⟩ :: ⟨"query", some 'q', .setting .query⟩ ::
      ⟨"config", some 'c', .setting .config⟩ :: ⟨"pretty", none, .switch .pretty⟩ :: sharedFlags
  | .fields => sharedFlags

/-- The effect of the option with the given name. -/
def named? (scope : Scope) (name : List Char) : Option Effect :=
  (scope.flags.find? fun f => f.name.toList == name).map Flag.effect

/-- The effect of the option with the given letter. -/
def lettered? (scope : Scope) (letter : Char) : Option Effect :=
  (scope.flags.find? fun f => f.letter == some letter).map Flag.effect

end Scope

/-- What an argument looks like. -/
inductive Argument
  /-- Two hyphens, after which nothing is an option. -/
  | separator
  | long (name : List Char) (value : Option (List Char))
  | short (letters : List Char)
  | word (text : List Char)

/-- The text after the first equals sign. -/
def afterEquals? (cs : List Char) : Option (List Char) :=
  match cs.dropWhile (· != '=') with
  | _ :: value => some value
  | [] => none

/-- The look of an argument. A hyphen alone is a word. -/
def Argument.ofText (text : String) : Argument :=
  match text.toList with
  | ['-', '-'] => .separator
  | '-' :: '-' :: cs => .long (cs.takeWhile (· != '=')) (afterEquals? cs)
  | '-' :: c :: cs => .short (c :: cs)
  | cs => .word cs

/-- An option that waits for its value or for its value to be checked. -/
structure Pending where
  setting : Setting
  value : Option (List Char)

/-- What the arguments up to some point say. -/
structure Collected where
  verbosity : Nat := 0
  pretty : Bool := false
  settings : List (Setting × String) := []
  pending : Option Pending := none

namespace Collected

/-- The value of an option. -/
def value? (c : Collected) (s : Setting) : Option String :=
  c.settings.lookup s

/-- Gives an option its value, which it may not have yet and which may not be empty. -/
def assign (c : Collected) (s : Setting) (value : List Char) : Except Usage Collected :=
  if (c.value? s).isSome then .error .repeatedOption
  else if value.isEmpty then .error .invalidValue
  else .ok { c with settings := (s, String.ofList value) :: c.settings }

/-- Checks the option that is pending. -/
def settle (c : Collected) : Except Usage Collected :=
  match c.pending with
  | none => .ok c
  | some ⟨_, none⟩ => .error .invalidValue
  | some ⟨s, some value⟩ => { c with pending := none }.assign s value

/-- Takes an option without a value. -/
def turnOn (c : Collected) (s : Switch) : Except Usage Collected := do
  let c ← c.settle
  match s with
  | .help => throw .help
  | .version => throw .version
  | .verbose => return { c with verbosity := c.verbosity + 1 }
  | .pretty => if c.pretty then throw .repeatedOption else return { c with pretty := true }

/-- Takes an option with the value that is attached to it, or waits for the value. -/
def set (c : Collected) (s : Setting) (value : Option (List Char)) : Except Usage Collected := do
  let c ← c.settle
  match value with
  | some value => c.assign s value
  | none => return { c with pending := some ⟨s, none⟩ }

/-- Takes an option with a name. -/
def addLong (c : Collected) (scope : Scope) (name : List Char) (value : Option (List Char)) :
    Except Usage Collected :=
  match scope.named? name, value with
  | none, _ => .error .unknownArgument
  | some (.setting s), value => c.set s value
  | some (.switch s), none => c.turnOn s
  | some (.switch _), some _ => .error .unexpectedValue

/-- The value attached to a letter, with or without an equals sign. -/
def attached : List Char → Option (List Char)
  | [] => none
  | '=' :: cs => some cs
  | cs => some cs

/-- Takes options with letters; what follows the first that has a value is the value. -/
def addShort (scope : Scope) : List Char → Collected → Except Usage Collected
  | [], c => .ok c
  | letter :: cs, c =>
    match scope.lettered? letter with
    | none => .error .unknownArgument
    | some (.setting s) => c.set s (attached cs)
    | some (.switch s) => do addShort scope cs (← c.turnOn s)

/-- Takes the arguments of a command, which are all options and values. -/
def addAll (scope : Scope) : List String → Collected → Except Usage Collected
  | [], c => c.settle
  | arg :: args, c =>
    match Argument.ofText arg, c.pending with
    | .separator, _ => if args.isEmpty then c.settle else .error .unknownArgument
    | .long name value, _ => do addAll scope args (← c.addLong scope name value)
    | .short letters, _ => do addAll scope args (← addShort scope letters c)
    | .word text, some ⟨s, none⟩ =>
      addAll scope args { c with pending := some ⟨s, some text⟩ }
    | .word _, _ => .error .unknownArgument

end Collected

/-- The command with the given name. -/
def Scope.ofCommand? (name : List Char) : Option Scope :=
  if name = "query".toList then some .query
  else if name = "fields".toList then some .fields
  else none

/-- The word that asks for help on a command. -/
def isHelpWord (word : List Char) : Bool :=
  word == "help".toList

/-- What is shown when help is asked for on the command that the words name. -/
def helpOn : List String → Usage
  | [] => .help
  | [name] =>
    if (Scope.ofCommand? name.toList).isSome || isHelpWord name.toList then .help
    else .unknownCommand
  | _ => .unknownCommand

namespace Invocation

/-- What the arguments of a command ask for. -/
def ofCollected (scope : Scope) (verbosity : Nat) (c : Collected) : Except Usage Invocation := do
  let verbosity := if c.verbosity = 0 then verbosity else c.verbosity
  match scope with
  | .root => throw .missingCommand
  | .fields => return ⟨.fields, verbosity⟩
  | .query =>
    match c.value? .records, c.value? .query with
    | some records, some request =>
      return ⟨.query records request (c.value? .config) c.pretty, verbosity⟩
    | _, _ => throw .missingOption

/-- What is shown for a word after two hyphens that stand before the command. -/
def afterSeparator : List String → Collected → Usage
  | [], c => if c.verbosity = 0 then .helpWithoutArguments else .missingCommand
  | word :: _, _ =>
    if (Scope.ofCommand? word.toList).isSome || isHelpWord word.toList then .unknownArgument
    else .unknownCommand

/-- Reads arguments up to the command, then those of the command. -/
def ofRoot : List String → Collected → Except Usage Invocation
  | [], c => .error (afterSeparator [] c)
  | arg :: args, c =>
    match Argument.ofText arg with
    | .separator => .error (afterSeparator args c)
    | .long name value => do ofRoot args (← c.addLong .root name value)
    | .short letters => do ofRoot args (← Collected.addShort .root letters c)
    | .word word =>
      match Scope.ofCommand? word with
      | some scope => do ofCollected scope c.verbosity (← Collected.addAll scope args {})
      | none => .error (if isHelpWord word then helpOn args else .unknownCommand)

/-- What the arguments after the program's name ask for. -/
def ofArguments (args : List String) : Except Usage Invocation :=
  ofRoot args {}

end Invocation

end RecordQuery.CommandLine

import RecordQuery.CompileError
import RecordQuery.Json.Tree
import RecordQuery.Text.Quoted

/-!
# Decoding faults

* `Fault`, the first thing wrong with a JSON text from which a value of the library is read;
* `Found`, what stood where something else was expected;
* `Fault.message?`, the wording; a text that is no JSON has none.
-/

namespace RecordQuery

/-- A JSON value as far as it is told apart in a fault. -/
inductive Found
  | null
  | bool (b : Bool)
  | number (n : Numeral)
  | string (s : String)
  | sequence
  | map

/-- The wording of what was found. -/
def Found.describe : Found → String
  | .null => "null"
  | .bool b => s!"boolean `{b}`"
  | .number (.integer n) => s!"integer `{n}`"
  | .number (.float x) => s!"floating point `{String.ofList x.render}`"
  | .string s => s!"string {Text.quoted s}"
  | .sequence => "sequence"
  | .map => "map"

/-- What is wrong with a text. -/
inductive Fault
  /-- The text is no JSON, or is nested too deep. -/
  | malformed
  | invalidType (found : Found) (expected : String)
  | invalidValue (found : Int) (expected : String)
  | invalidLength (length : Nat) (expected : String) (size : Nat)
  | missingField (key : String)
  | duplicateField (key : String)
  | unknownField (key : String) (known : List String)
  | unknownVariant (name : String) (known : List String)
  | unsupportedOperator (symbol : String)
  | missingPart (op : Operator) (key : String)
  | uuid (fault : UuidFault)
  | instant (fault : InstantFault)

namespace Fault

/-- Names in a message: one, two joined by `or`, or a list. -/
def oneOf (names : List String) : String :=
  match names.map fun name => s!"`{name}`" with
  | [a] => a
  | [a, b] => s!"{a} or {b}"
  | quoted => "one of " ++ ", ".intercalate quoted

/-- The wording of a fault. -/
def message? : Fault → Option String
  | .malformed => none
  | .invalidType found expected => s!"invalid type: {found.describe}, expected {expected}"
  | .invalidValue found expected => s!"invalid value: integer `{found}`, expected {expected}"
  | .invalidLength length expected size =>
    s!"invalid length {length}, expected {expected} with {size} elements"
  | .missingField key => s!"missing field `{key}`"
  | .duplicateField key => s!"duplicate field `{key}`"
  | .unknownField key known => s!"unknown field `{key}`, expected {oneOf known}"
  | .unknownVariant name known => s!"unknown variant `{name}`, expected {oneOf known}"
  | .unsupportedOperator symbol => CompileError.unsupportedText symbol
  | .missingPart op key => s!"'{op.symbol}' node is missing '{key}'"
  | .uuid fault => s!"UUID parsing failed: {fault.message}"
  | .instant fault => fault.message

end Fault

/-- What a tree starts with, unless that is a fault. -/
def Tree.found? : Tree → Option Found
  | .null => some .null
  | .bool b => some (.bool b)
  | .number n => some (.number n)
  | .string s => some (.string s)
  | .array _ _ => some .sequence
  | .object _ _ => some .map
  | .hugeNumber | .halfString | .fault => none

/-- The fault of a tree that does not start as expected. -/
def Tree.mismatch (expected : String) (t : Tree) : Fault :=
  match t.found? with
  | some found => .invalidType found expected
  | none => .malformed

end RecordQuery

import RecordQuery.CompileError
import RecordQuery.Operand

/-!
# Coercion

An operand is brought to the declared type of the field that it is compared with.

* `coerceValue`, for an operand with a type: it has to be the declared one, but integers up to
  `2 ^ 53` in size pass for floats;
* `coerceJson`, for a JSON literal: timestamps are RFC 3339 texts or epoch milliseconds, integers,
  floats and truth values may also be written in strings;
* `coerce` and `coerceMany`, for an operand and for a list of operands.

Null is accepted for every type.
-/

namespace RecordQuery

/-- Up to this size every integer is a binary64 number. -/
def exactIntegerLimit : Nat := 0x20000000000000

/-- The operand with a type that the field may be compared with. -/
def coerceValue (declared : FieldType) (v : Value) : Except Mismatch Value :=
  match declared, v with
  | _, .null => .ok .null
  | .float, .integer n =>
    if n.toInt.natAbs ≤ exactIntegerLimit then .ok (.float (.ofInt n.toInt))
    else .error .inexactInteger
  | .float, .float x => if x.isFinite then .ok v else .error .notFinite
  | .text, .text _ => .ok v
  | .integer, .integer _ => .ok v
  | .bool, .bool _ => .ok v
  | .timestamp, .timestamp _ => .ok v
  | .uuid, .uuid _ => .ok v
  | _, .text _ => .error (.otherType declared .text)
  | _, .integer _ => .error (.otherType declared .integer)
  | _, .float _ => .error (.otherType declared .float)
  | _, .bool _ => .error (.otherType declared .bool)
  | _, .timestamp _ => .error (.otherType declared .timestamp)
  | _, .uuid _ => .error (.otherType declared .uuid)

/-- A text is a JSON string. -/
def coerceText : Json → Except Mismatch Value
  | .string s => .ok (.text s)
  | _ => .error .notString

/-- The integer of 64 bits that a JSON number is. -/
def int64? : Numeral → Option Int64
  | .integer n => if (Int64.ofInt n).toInt = n then some (Int64.ofInt n) else none
  | .float _ => none

/-- An integer is a JSON integer of 64 bits or a string of its digits. -/
def coerceInteger : Json → Except Mismatch Value
  | .number n =>
    match int64? n with
    | some n => .ok (.integer n)
    | none => .error .integerRange
  | .string s => ((Text.readInt64 s.toList).map .integer).mapError .integerText
  | _ => .error .notInteger

/-- A finite float. -/
def finite (x : Binary64) : Except Mismatch Value :=
  if x.isFinite then .ok (.float x) else .error .notFinite

/-- A float is a JSON number, of which integers may not be larger than `2 ^ 53`, or a string that
writes a finite number. -/
def coerceFloat : Json → Except Mismatch Value
  | .number (.integer n) =>
    if n.natAbs ≤ exactIntegerLimit then .ok (.float (.ofInt n)) else .error .inexactInteger
  | .number (.float x) => finite x
  | .string s =>
    match Binary64.read? s.toList with
    | some x => finite x
    | none => .error .notFinite
  | _ => .error .notFinite

/-- A truth value is a JSON one or its name in a string. -/
def coerceBool : Json → Except Mismatch Value
  | .bool b => .ok (.bool b)
  | .string s =>
    if s = "true" then .ok (.bool true)
    else if s = "false" then .ok (.bool false)
    else .error .notBool
  | _ => .error .notBool

/-- A timestamp is an RFC 3339 text or a count of epoch milliseconds. -/
def coerceTimestamp : Json → Except Mismatch Value
  | .string s => ((Instant.readStrict s.toList).map .timestamp).mapError .timestampText
  | .number n =>
    match (int64? n).bind fun ms => Instant.ofEpochMillis? ms.toInt with
    | some t => .ok (.timestamp t)
    | none => .error .epochRange
  | _ => .error .notTimestamp

/-- An identifier is a string in one of its forms. -/
def coerceUuid : Json → Except Mismatch Value
  | .string s => ((Uuid.read s.toList).map .uuid).mapError .uuidText
  | _ => .error .notUuid

/-- The value that a JSON literal is for a field of the declared type. -/
def coerceJson (declared : FieldType) (json : Json) : Except Mismatch Value :=
  match json with
  | .null => .ok .null
  | _ =>
    match declared with
    | .text => coerceText json
    | .integer => coerceInteger json
    | .float => coerceFloat json
    | .bool => coerceBool json
    | .timestamp => coerceTimestamp json
    | .uuid => coerceUuid json

/-- The wording of an operand that is refused: its JSON text, but the number itself where a float
is refused for not being finite. -/
def Operand.describeRefused (declared : FieldType) : Operand → String
  | .typed (.float x) =>
    if declared = .float then String.ofList x.describe else (Operand.typed (.float x)).describe
  | o => o.describe

/-- The value that an operand is for a field of the declared type. -/
def coerce (field : String) (declared : FieldType) (operand : Operand) :
    Except CompileError Value :=
  let result := match operand with
    | .typed v => coerceValue declared v
    | .literal l => coerceJson declared l.json
  result.mapError fun reason =>
    .coercion field declared (operand.describeRefused declared) reason

/-- The values of a list of operands, from left to right. -/
def coerceMany (field : String) (declared : FieldType) (operands : List Operand) :
    Except CompileError ValueSet :=
  (operands.mapM (coerce field declared)).map ValueSet.ofList

end RecordQuery

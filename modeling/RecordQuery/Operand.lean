import RecordQuery.Json.Render
import RecordQuery.Time.Rfc3339
import RecordQuery.Value

/-!
# Operands

* `Value.toJson`, the JSON value that stands for a value in requests and messages;
* `Operand`, a value with a type, or a JSON literal whose type the field decides.
-/

namespace RecordQuery

namespace Value

/-- The JSON value that stands for a value. Timestamps and identifiers are strings, and a float that
is not finite has no JSON value but null. -/
def toJson : Value → Json
  | .text s => .string s
  | .integer n => .integer n.toInt
  | .float x => if x.isFinite then .number (.float x) else .null
  | .bool b => .bool b
  | .timestamp t => .string (String.ofList t.render)
  | .uuid u => .string (String.ofList u.render)
  | .null => .null

theorem toJson_canonical (v : Value) : v.toJson.Canonical := by
  cases v with
  | integer n =>
    have := n.minValue_le_toInt
    have := n.toInt_lt
    simp only [toJson, Json.integer, Json.Canonical, Numeral.isCanonical, Numeral.fitsInteger,
      Bool.and_eq_true, decide_eq_true_eq, UInt64.size]
    omega
  | float x =>
    simp only [toJson]
    split
    · simpa [Json.Canonical, Numeral.isCanonical]
    · trivial
  | _ => trivial

/-- The JSON value as a literal. -/
def literal (v : Value) : Literal :=
  ⟨v.toJson, v.toJson_canonical⟩

/-- The JSON text. -/
def describe (v : Value) : String :=
  v.toJson.toText

end Value

/-- What a filter compares a field with. -/
inductive Operand
  | typed (v : Value)
  | literal (l : Literal)

namespace Operand

/-- The null operand. -/
def null : Operand :=
  .typed .null

/-- The JSON literal that stands for an operand in requests. -/
def toLiteral : Operand → Literal
  | .typed v => v.literal
  | .literal l => l

/-- The JSON value that stands for an operand in requests. -/
def toJson (o : Operand) : Json :=
  o.toLiteral.json

/-- The JSON text. -/
def describe (o : Operand) : String :=
  o.toJson.toText

end Operand

end RecordQuery

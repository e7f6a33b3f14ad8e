import RecordQuery.Operator
import RecordQuery.Text.Integer
import RecordQuery.Time.Rfc3339
import RecordQuery.Value

/-!
# Compile errors

* `CompileError`, why a filter or a list of sort rules cannot be compiled;
* `Mismatch`, why an operand does not suit a field;
* `CompileError.message` and `CompileError.field?`, the wording and the field concerned;
* `ensure`, a condition with the error of its failure.
-/

namespace RecordQuery

/-- Why an operand does not suit a field or an operator. -/
inductive Mismatch
  | otherType (declared actual : FieldType)
  | inexactInteger
  | notFinite
  | notString
  | notInteger
  | integerRange
  | integerText (fault : IntegerFault)
  | notBool
  | notTimestamp
  | epochRange
  | timestampText (fault : InstantFault)
  | notUuid
  | uuidText (fault : UuidFault)
  | operandType (actual : FieldType)
  | nullOrdering
  | nullContainment
  deriving DecidableEq

/-- The wording of a mismatch. -/
def Mismatch.message : Mismatch → String
  | .otherType declared actual => s!"expected a {declared.name} value, got {actual.name}"
  | .inexactInteger => "integer is too large to be represented exactly as a float"
  | .notFinite => "expected a finite number"
  | .notString => "expected a string"
  | .notInteger => "expected an integer"
  | .integerRange => "expected an integer in the i64 range"
  | .integerText fault => fault.message
  | .notBool => "expected true or false"
  | .notTimestamp => "expected an RFC 3339 string or epoch milliseconds"
  | .epochRange => "expected epoch milliseconds in range"
  | .timestampText fault => s!"expected an RFC 3339 timestamp ({fault.message})"
  | .notUuid => "expected a UUID string"
  | .uuidText fault => fault.message
  | .operandType actual => s!"operand is a {actual.name} value"
  | .nullOrdering => "ordering comparisons need a value"
  | .nullContainment => "containment needs a value"

/-- Why a filter or a list of sort rules cannot be compiled. -/
inductive CompileError
  | unknownField (field : String)
  | coercion (field : String) (expected : FieldType) (operand : String) (reason : Mismatch)
  | unsupportedOperator (symbol : String)
  | notApplicable (op : Operator) (field : String) (type : FieldType)
  | tooFewChildren (op : Operator) (children : Nat)
  | noSortRules
  | tooDeep (maxDepth : Nat)
  | tooManyValues (field : String) (count max : Nat)
  deriving DecidableEq

namespace CompileError

/-- The wording of an operator that cannot be used. -/
def unsupportedText (symbol : String) : String :=
  s!"unsupported operator '{symbol}'"

/-- The wording of an error. -/
def message : CompileError → String
  | .unknownField field => s!"unknown field '{field}'"
  | .coercion field expected operand reason =>
    s!"cannot use {operand} as a {expected.name} value for field '{field}': {reason.message}"
  | .unsupportedOperator symbol => unsupportedText symbol
  | .notApplicable op field type =>
    s!"operator '{op.symbol}' is not applicable to {type.name} field '{field}'"
  | .tooFewChildren op children => s!"'{op.symbol}' needs at least 2 children, got {children}"
  | .noSortRules => "sort request must contain at least one rule"
  | .tooDeep maxDepth => s!"filter is nested deeper than {maxDepth} logical levels"
  | .tooManyValues field count max =>
    s!"membership filter on '{field}' has {count} values, at most {max} are allowed"

/-- The field concerned, if the error names one. -/
def field? : CompileError → Option String
  | .unknownField field => some field
  | .coercion field _ _ _ => some field
  | .notApplicable _ field _ => some field
  | .tooManyValues field _ _ => some field
  | _ => none

end CompileError

/-- Refuses with the error unless the condition holds. -/
def ensure (condition : Prop) [Decidable condition] (e : CompileError) :
    Except CompileError Unit :=
  if condition then .ok () else .error e

end RecordQuery

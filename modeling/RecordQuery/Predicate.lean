import RecordQuery.Field.Map
import RecordQuery.Operand

/-!
# Predicates

* `Predicate`, a test of records, with `always`, `negate`, `all` and `any`;
* `checkApplicable`, the types of fields that an operator may be used on;
* `checkValue` and `checkMembers`, what a field, an operator and its values have to satisfy;
* `valuePredicate` and `membershipPredicate`, the tests of one field against a value and against a
  list of values.
-/

namespace RecordQuery

variable {R : Type}

/-- A test of records. -/
structure Predicate (R : Type) where
  holds : R → Bool

namespace Predicate

/-- Holds for every record. -/
def always : Predicate R :=
  ⟨fun _ => true⟩

/-- Holds where the predicate does not. -/
def negate (p : Predicate R) : Predicate R :=
  ⟨fun r => !p.holds r⟩

/-- Negates the predicate if asked to. -/
def negateIf (p : Predicate R) (negated : Bool) : Predicate R :=
  if negated then p.negate else p

/-- Holds where all of at least two predicates do. -/
def all (ps : List (Predicate R)) : Except CompileError (Predicate R) := do
  ensure (2 ≤ ps.length) (.tooFewChildren .and ps.length)
  return ⟨fun r => ps.all fun p => p.holds r⟩

/-- Holds where one of at least two predicates does. -/
def any (ps : List (Predicate R)) : Except CompileError (Predicate R) := do
  ensure (2 ≤ ps.length) (.tooFewChildren .or ps.length)
  return ⟨fun r => ps.any fun p => p.holds r⟩

/-- The records for which the predicate holds, in their order. -/
def filter (p : Predicate R) (records : List R) : List R :=
  records.filter p.holds

/-- The number of records for which the predicate holds. -/
def count (p : Predicate R) (records : List R) : Nat :=
  records.countP p.holds

/-- The first record for which the predicate holds. -/
def find? (p : Predicate R) (records : List R) : Option R :=
  records.find? p.holds

end Predicate

/-- Ordering operators need a field of an ordered type and containment operators a text field. Only
operators that take one value can be applicable. -/
def checkApplicable (field : String) (type : FieldType) (op : Operator) :
    Except CompileError Unit := do
  ensure (op.kind = .value) (.unsupportedOperator op.symbol)
  ensure ((op.isOrdering → type.isOrdered) ∧ (op.isContainment → type = .text))
    (.notApplicable op field type)

/-- A value has the type of the field, or is null. -/
def checkOperand (field : String) (type : FieldType) (v : Value) : Except CompileError Unit :=
  match v.type? with
  | some actual => ensure (actual = type) (.coercion field type v.describe (.operandType actual))
  | none => .ok ()

/-- Refuses null for the given reason. -/
def requireValue (field : String) (type : FieldType) (v : Value) (reason : Mismatch) :
    Except CompileError Unit :=
  ensure (v ≠ .null) (.coercion field type v.describe reason)

/-- Whether a text occurs within another one, character by character. -/
def occursIn (needle : List Char) : List Char → Bool
  | [] => needle.isEmpty
  | c :: cs => needle.isPrefixOf (c :: cs) || occursIn needle cs

/-- Holds for a text that contains the given text. -/
def containsText (v : Value) (needle : Value) : Bool :=
  match v, needle with
  | .text s, .text t => occursIn t.toList s.toList
  | _, _ => false

/-- The checks of an operator and a value against a field. Operators that compare by order or look
for a text need a value. -/
def checkValue (field : String) (type : FieldType) (op : Operator) (v : Value) :
    Except CompileError Unit := do
  checkApplicable field type op
  checkOperand field type v
  if op.isOrdering then requireValue field type v .nullOrdering
  if op.isContainment then requireValue field type v .nullContainment

/-- The test of a field against a value. -/
def valueTest (a : Accessor R) (op : Operator) (v : Value) : Predicate R :=
  if op.isOrdering then ⟨fun r => ((a.value r).compare? v).any op.accepts⟩
  else if op.isContainment then
    Predicate.negateIf ⟨fun r => containsText (a.value r) v⟩ op.isNegated
  else Predicate.negateIf ⟨fun r => (a.value r).equal v⟩ op.isNegated

/-- Compares a field with a value. A negated operator holds where its positive one does not, so it
holds for a field without a value. -/
def valuePredicate (field : String) (a : Accessor R) (op : Operator) (v : Value) :
    Except CompileError (Predicate R) := do
  checkValue field a.type op v
  return valueTest a op v

/-- The checks of an operator and a list of values against a field. -/
def checkMembers (field : String) (type : FieldType) (op : Operator) (vs : ValueSet) :
    Except CompileError Unit := do
  ensure (op.kind = .membership) (.unsupportedOperator op.symbol)
  vs.members.forM (checkOperand field type)

/-- The test of a field against a list of values. -/
def membershipTest (a : Accessor R) (op : Operator) (vs : ValueSet) : Predicate R :=
  Predicate.negateIf ⟨fun r => vs.contains (a.value r)⟩ op.isNegated

/-- Looks a field up among values. -/
def membershipPredicate (field : String) (a : Accessor R) (op : Operator) (vs : ValueSet) :
    Except CompileError (Predicate R) := do
  checkMembers field a.type op vs
  return membershipTest a op vs

end RecordQuery

import RecordQuery.Binary64.Basic
import RecordQuery.Time.Instant
import RecordQuery.Uuid

/-!
# Values

* `FieldType`, the six types of fields, and `Value`, a value of one of them or null;
* `Value.equal`, equality as a filter sees it, and `Value.compare?`, the order within a type;
* `Value.compareTotal`, the order of all values that sorting uses;
* `ValueSet`, values of which no two are equal.
-/

namespace RecordQuery

/-- The declared type of a field. -/
inductive FieldType
  | text
  | integer
  | float
  | bool
  | timestamp
  | uuid
  deriving DecidableEq

namespace FieldType

/-- The types in the order of their declaration. -/
def all : List FieldType :=
  [.text, .integer, .float, .bool, .timestamp, .uuid]

/-- The name of a type in requests and messages. -/
def name : FieldType → String
  | .text => "text"
  | .integer => "integer"
  | .float => "float"
  | .bool => "bool"
  | .timestamp => "timestamp"
  | .uuid => "uuid"

/-- The name of a type in the description of a field map. -/
def title : FieldType → String
  | .text => "Text"
  | .integer => "Integer"
  | .float => "Float"
  | .bool => "Bool"
  | .timestamp => "Timestamp"
  | .uuid => "Uuid"

/-- The type with the given name. -/
def ofName? (name : String) : Option FieldType :=
  all.find? fun t => t.name == name

/-- Holds for the types whose values an ordering operator may compare. -/
def isOrdered : FieldType → Bool
  | .integer | .float | .timestamp => true
  | _ => false

end FieldType

/-- A value of a field or of an operand. -/
inductive Value
  | text (s : String)
  | integer (n : Int64)
  | float (x : Binary64)
  | bool (b : Bool)
  | timestamp (t : Instant)
  | uuid (u : Uuid)
  | null
  deriving DecidableEq

namespace Value

/-- Holds for null alone. -/
def isNull : Value → Bool
  | .null => true
  | _ => false

/-- The type of a value; null has none. -/
def type? : Value → Option FieldType
  | .text _ => some .text
  | .integer _ => some .integer
  | .float _ => some .float
  | .bool _ => some .bool
  | .timestamp _ => some .timestamp
  | .uuid _ => some .uuid
  | .null => none

/-- Equality of values. Floats are equal by numeric value, so the two zeros are equal and a NaN
differs from itself; null equals null. -/
def equal : Value → Value → Bool
  | .text a, .text b => a == b
  | .integer a, .integer b => a == b
  | .float a, .float b => a.equal b
  | .bool a, .bool b => a == b
  | .timestamp a, .timestamp b => a == b
  | .uuid a, .uuid b => a == b
  | .null, .null => true
  | _, _ => false

/-- The order of two values of one type; a NaN, null and values of different types are not
comparable. -/
def compare? : Value → Value → Option Ordering
  | .text a, .text b => some (compare a b)
  | .integer a, .integer b => some (compare a.toInt b.toInt)
  | .float a, .float b => a.compare? b
  | .bool a, .bool b => some (compare a b)
  | .timestamp a, .timestamp b => some (a.compare b)
  | .uuid a, .uuid b => some (a.compare b)
  | _, _ => none

/-- The place of a value's type among all values. -/
def typeRank : Value → Nat
  | .null => 0
  | .bool _ => 1
  | .integer _ => 2
  | .float _ => 3
  | .timestamp _ => 4
  | .text _ => 5
  | .uuid _ => 6

/-- The order of all values: null first, then type by type, floats by the order of all bit
patterns. -/
def compareTotal : Value → Value → Ordering
  | .float a, .float b => a.compareTotal b
  | a, b => (a.compare? b).getD (compare a.typeRank b.typeRank)

end Value

/-- Values in the order of their first appearance. -/
structure ValueSet where
  members : List Value

namespace ValueSet

/-- No values. -/
def empty : ValueSet := ⟨[]⟩

/-- Whether a value equals a member. -/
def contains (s : ValueSet) (v : Value) : Bool :=
  s.members.any fun m => m.equal v

/-- Appends a value unless a member equals it. -/
def insert (s : ValueSet) (v : Value) : ValueSet :=
  if s.contains v then s else ⟨s.members ++ [v]⟩

/-- The values of a list, each without its repetitions. -/
def ofList (vs : List Value) : ValueSet :=
  vs.foldl insert empty

/-- The number of members. -/
def size (s : ValueSet) : Nat :=
  s.members.length

end ValueSet

end RecordQuery

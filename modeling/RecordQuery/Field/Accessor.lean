import RecordQuery.Value

/-!
# Accessors

An accessor reads one field of a record. Its type is the field's, and a field without a value reads
as null.

* `Accessor`, its `type` and its `value`;
* `Accessor.ofValue`, the accessor of a value of any type, which reads null where the type differs;
* `value_type`, the types that a reading can have.
-/

namespace RecordQuery

/-- The reading of a field, by its type. -/
inductive Accessor (R : Type)
  | text (get : R → Option String)
  | integer (get : R → Option Int64)
  | float (get : R → Option Binary64)
  | bool (get : R → Option Bool)
  | timestamp (get : R → Option Instant)
  | uuid (get : R → Option Uuid)

namespace Accessor

variable {R S : Type}

/-- The type of the field. -/
def type : Accessor R → FieldType
  | .text _ => .text
  | .integer _ => .integer
  | .float _ => .float
  | .bool _ => .bool
  | .timestamp _ => .timestamp
  | .uuid _ => .uuid

/-- The value of the field in a record. -/
def value (a : Accessor R) (r : R) : Value :=
  match a with
  | .text get => (get r).elim .null .text
  | .integer get => (get r).elim .null .integer
  | .float get => (get r).elim .null .float
  | .bool get => (get r).elim .null .bool
  | .timestamp get => (get r).elim .null .timestamp
  | .uuid get => (get r).elim .null .uuid

/-- The accessor with the given type of a value of any type. -/
def ofValue (type : FieldType) (get : R → Value) : Accessor R :=
  match type with
  | .text => .text fun r => match get r with | .text s => some s | _ => none
  | .integer => .integer fun r => match get r with | .integer n => some n | _ => none
  | .float => .float fun r => match get r with | .float x => some x | _ => none
  | .bool => .bool fun r => match get r with | .bool b => some b | _ => none
  | .timestamp => .timestamp fun r => match get r with | .timestamp t => some t | _ => none
  | .uuid => .uuid fun r => match get r with | .uuid u => some u | _ => none

@[simp] theorem type_ofValue (type : FieldType) (get : R → Value) :
    (ofValue type get).type = type := by
  cases type <;> rfl

/-- The description of an accessor, which tells its type alone. -/
def describe (a : Accessor R) : String :=
  s!"FieldAccessor<{a.type.name}>"

/-- A reading is null or has the type of the field. -/
theorem value_type (a : Accessor R) (r : R) :
    a.value r = .null ∨ (a.value r).type? = some a.type := by
  cases a with
  | _ get => cases h : get r <;> simp [value, h, Value.type?, type]

/-- A value of the right type is read as it is, any other as null. -/
theorem value_ofValue (type : FieldType) (get : R → Value) (r : R) :
    (ofValue type get).value r = if (get r).type? = some type then get r else .null := by
  cases type <;> cases h : get r <;> simp [ofValue, value, h, Value.type?]

end Accessor

end RecordQuery

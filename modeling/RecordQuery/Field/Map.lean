import RecordQuery.CompileError
import RecordQuery.Dictionary
import RecordQuery.Field.Accessor
import RecordQuery.Text.Quoted

/-!
# Field maps

* `FieldMap`, the accessors of the fields that requests may name;
* `FieldMap.ofList`, which registers accessors one after the other, the last of an identifier
  replacing those before it;
* `FieldMap.lookup`, the accessor of a field or the error that there is none;
* `Row` and `FieldMap.ofColumns`, records that are rows of a table.
-/

namespace RecordQuery

variable {R : Type}

/-- The accessors of the fields of a record, by their identifiers. -/
structure FieldMap (R : Type) where
  accessors : Dictionary (Accessor R)

namespace FieldMap

/-- No fields. -/
def empty : FieldMap R :=
  ⟨.empty⟩

/-- The map in which a field has the given accessor. -/
def register (m : FieldMap R) (field : String) (a : Accessor R) : FieldMap R :=
  ⟨m.accessors.insert field a⟩

/-- The map of registrations made one after the other. -/
def ofList (registrations : List (String × Accessor R)) : FieldMap R :=
  registrations.foldl (fun m r => m.register r.1 r.2) empty

/-- The accessor of a field, if it is registered. -/
def find? (m : FieldMap R) (field : String) : Option (Accessor R) :=
  m.accessors.find? field

/-- The accessor of a field. -/
def lookup (m : FieldMap R) (field : String) : Except CompileError (Accessor R) :=
  match m.find? field with
  | some a => .ok a
  | none => .error (.unknownField field)

/-- Whether a field is registered. -/
def contains (m : FieldMap R) (field : String) : Bool :=
  (m.find? field).isSome

/-- The type of a field, if it is registered. -/
def type? (m : FieldMap R) (field : String) : Option FieldType :=
  (m.find? field).map Accessor.type

/-- The identifiers in the order of their bytes. -/
def ids (m : FieldMap R) : List String :=
  m.accessors.keys

/-- The identifiers with the types of their fields. -/
def fields (m : FieldMap R) : List (String × FieldType) :=
  m.accessors.entries.map fun e => (e.1, e.2.type)

/-- The number of fields. -/
def size (m : FieldMap R) : Nat :=
  m.accessors.size

/-- The description of a map: its identifiers between quotes, each with its type. -/
def describe (m : FieldMap R) : String :=
  let entries := m.fields.map fun (id, type) => s!"{Text.quoted id}: {type.title}"
  "\x7b" ++ ", ".intercalate entries ++ "\x7d"

theorem find?_register (m : FieldMap R) (field field' : String) (a : Accessor R) :
    (m.register field a).find? field' = if field == field' then some a else m.find? field' :=
  m.accessors.find?_insert field field' a

end FieldMap

/-- A record that is a row of a table: its position and its values from left to right. -/
structure Row where
  position : Nat
  values : List Value

namespace Row

/-- The value in a column; a row may be too short. -/
def value (r : Row) (column : Nat) : Value :=
  r.values.getD column .null

end Row

/-- The field map of a table whose columns have the given identifiers and types. -/
def FieldMap.ofColumns (columns : List (String × FieldType)) : FieldMap Row :=
  .ofList <| columns.zipIdx.map fun ((field, type), i) => (field, .ofValue type (·.value i))

end RecordQuery

import RecordQuery.Binary64.Round
import RecordQuery.Value

/-!
# Native values

Records hold numbers in several formats. `Source` is a value as a record holds it, and
`Source.value` the value that requests see.
-/

namespace RecordQuery

/-- A value in the format of a record. -/
inductive Source
  | int8 (n : Int8)
  | int16 (n : Int16)
  | int32 (n : Int32)
  | int64 (n : Int64)
  | uint8 (n : UInt8)
  | uint16 (n : UInt16)
  | uint32 (n : UInt32)
  | binary32 (bits : UInt32)
  | binary64 (x : Binary64)
  | bool (b : Bool)
  | text (s : String)
  | timestamp (t : Instant)
  | uuid (u : Uuid)
  deriving DecidableEq

namespace Source

/-- The value that requests see. Every number is kept exactly. -/
def value : Source → Value
  | .int8 n => .integer n.toInt64
  | .int16 n => .integer n.toInt64
  | .int32 n => .integer n.toInt64
  | .int64 n => .integer n
  | .uint8 n => .integer (Int64.ofNat n.toNat)
  | .uint16 n => .integer (Int64.ofNat n.toNat)
  | .uint32 n => .integer (Int64.ofNat n.toNat)
  | .binary32 bits => .float (.ofBinary32 bits)
  | .binary64 x => .float x
  | .bool b => .bool b
  | .text s => .text s
  | .timestamp t => .timestamp t
  | .uuid u => .uuid u

/-- The value of an optional field, null where it is absent. -/
def optionalValue (s : Option Source) : Value :=
  s.elim .null value

end Source

end RecordQuery

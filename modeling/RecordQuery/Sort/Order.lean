import RecordQuery.Field.Accessor

/-!
# Sort orders

* `Direction`, ascending or descending, and `SortRule`, a field with a direction;
* `SortKey`, the accessor of a field with a direction, and `SortOrder`, keys of which each decides
  where those before it leave records equal;
* `SortOrder.sort`, which keeps the order of equal records.
-/

namespace RecordQuery

variable {R : Type}

/-- The direction of a sort key. -/
inductive Direction
  | asc
  | desc
  deriving DecidableEq

namespace Direction

/-- The name of a direction in requests. -/
def name : Direction → String
  | .asc => "asc"
  | .desc => "desc"

/-- The direction with the given name. -/
def ofName? (name : String) : Option Direction :=
  [asc, desc].find? fun d => d.name == name

/-- Holds for the ascending direction. -/
def isAsc : Direction → Bool
  | .asc => true
  | .desc => false

/-- The ordering in the direction. -/
def apply : Direction → Ordering → Ordering
  | .asc, o => o
  | .desc, o => o.swap

end Direction

/-- A field to sort by. -/
structure SortRule where
  field : String
  direction : Direction := .asc
  deriving DecidableEq

/-- A field to sort by, with its accessor. -/
structure SortKey (R : Type) where
  field : String
  accessor : Accessor R
  direction : Direction

/-- The order of two records by one key. -/
def SortKey.compare (k : SortKey R) (a b : R) : Ordering :=
  k.direction.apply ((k.accessor.value a).compareTotal (k.accessor.value b))

/-- The description of a key: its field and its direction. -/
def SortKey.describe (k : SortKey R) : String :=
  s!"{k.field} {k.direction.name}"

/-- Keys in the order of their weight. -/
structure SortOrder (R : Type) where
  keys : List (SortKey R)

namespace SortOrder

/-- The order by the first key that tells two records apart. -/
def compare (o : SortOrder R) (a b : R) : Ordering :=
  o.keys.foldr (fun k rest => (k.compare a b).then rest) .eq

/-- The records in the order, equal ones as they were. -/
def sort (o : SortOrder R) (records : List R) : List R :=
  records.mergeSort fun a b => (o.compare a b).isLE

/-- The description of an order: its fields with their directions. -/
def describe (o : SortOrder R) : String :=
  "[" ++ ", ".intercalate (o.keys.map SortKey.describe) ++ "]"

end SortOrder

end RecordQuery

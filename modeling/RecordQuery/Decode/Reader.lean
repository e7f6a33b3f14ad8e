import RecordQuery.Decode.Fault

/-!
# Readers

A reader takes a value of the library from the tree of a JSON text. It goes through the tree from
left to right and stops at the first thing that is wrong, so a fault of the text counts only where
nothing before it is refused.

* `Reader`, which is given the number of arrays and objects that may still be opened;
* `text`, `flag`, `count`, `free`, `nullable`, `list` and `variant`, the readers of common values;
* `Reader.decodeText`, which reads a whole text with at most 127 arrays and objects inside each
  other;
* `Reader.decodeJson`, which reads a value that is at hand.
-/

namespace RecordQuery

variable {α : Type}

/-- Takes a value from a tree in which so many arrays and objects may be opened. -/
def Reader (α : Type) : Type :=
  Nat → Tree → Except Fault α

namespace Reader

/-- A string. -/
def text : Reader String := fun _ t =>
  match t with
  | .string s => .ok s
  | t => .error (t.mismatch "a string")

/-- A truth value. -/
def flag : Reader Bool := fun _ t =>
  match t with
  | .bool b => .ok b
  | t => .error (t.mismatch "a boolean")

/-- A natural number of 64 bits. -/
def count : Reader UInt64 := fun _ t =>
  match t with
  | .number (.integer n) =>
    if n < 0 then .error (.invalidValue n "usize")
    else if n < UInt64.size then .ok (UInt64.ofNat n.toNat)
    else .error (t.mismatch "usize")
  | t => .error (t.mismatch "usize")

/-- Any value. -/
def free : Reader Literal := fun room t =>
  match t.literal? room with
  | some l => .ok l
  | none => .error .malformed

/-- A string with a further reading of its own; what is not a string is refused in the given
words. -/
def parsed (expected : String) (read : String → Except Fault α) : Reader α := fun _ t =>
  match t with
  | .string s => read s
  | t => .error (t.mismatch expected)

/-- Null, or a value of the reader. -/
def nullable (r : Reader α) : Reader (Option α) := fun room t =>
  match t with
  | .null => .ok none
  | t => (r room t).map some

/-- The array is closed. -/
def requireClosed : Close → Except Fault Unit
  | .closed => .ok ()
  | .broken => .error .malformed

/-- An array of values of the reader. -/
def list (r : Reader α) : Reader (List α) := fun room t =>
  match t, room with
  | .array items close, room + 1 => do
    let values ← items.mapM (r room)
    requireClosed close
    return values
  | .array _ _, 0 => .error .malformed
  | t, _ => .error (t.mismatch "a sequence")

/-- One of several names: a string, or an object with the name as its only key and null as its
value. -/
def variant (names : List String) (ofName? : String → Option α) : Reader α := fun room t =>
  let named (name : String) : Except Fault α :=
    match ofName? name with
    | some a => .ok a
    | none => .error (.unknownVariant name names)
  match t, room with
  | .string name, _ => named name
  | .object members close, _ + 1 =>
    match members with
    | (some name, value) :: rest => do
      let a ← named name
      match value with
      | .null =>
        requireClosed close
        if rest.isEmpty then return a else throw .malformed
      | value => throw (value.mismatch "unit")
    | _ => .error .malformed
  | _, _ => .error .malformed

/-- Reads a document, which nothing may follow. -/
def run (r : Reader α) (room : Nat) (d : Document) : Except Fault α := do
  let a ← r room d.tree
  if d.trailing then throw .malformed
  return a

/-- How many arrays and objects of a text may be inside each other. -/
def nestingLimit : Nat := 127

/-- Reads a text. -/
def decodeText (r : Reader α) (text : String) : Except Fault α :=
  r.run nestingLimit (.ofText text)

/-- Reads a value, which may be nested to any depth. -/
def decodeJson (r : Reader α) (v : Json) : Except Fault α :=
  r.run v.depth (.ofJson v)

end Reader

end RecordQuery

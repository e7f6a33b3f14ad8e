import RecordQuery.Decode.Reader

/-!
# Records in JSON

A record is an object with known keys, or an array of the members in their order.

* `Member`, a key with a reader that puts what it reads into the record;
* `RecordShape`, the members of a record, with its name for messages;
* `RecordShape.reader`, which reads a record, starting from its defaults.
-/

namespace RecordQuery

variable {σ α : Type}

/-- A member of a record of type `σ`. -/
structure Member (σ : Type) where
  key : String
  required : Bool
  read : Reader (σ → σ)

namespace Member

/-- A member that has to be there. -/
def mandatory (key : String) (r : Reader α) (set : σ → α → σ) : Member σ :=
  ⟨key, true, fun room t => (r room t).map fun a s => set s a⟩

/-- A member that keeps its default where it is absent. -/
def optional (key : String) (r : Reader α) (set : σ → α → σ) : Member σ :=
  ⟨key, false, fun room t => (r room t).map fun a s => set s a⟩

end Member

/-- The JSON form of a record of type `σ`. -/
structure RecordShape (σ : Type) where
  /-- The name in messages. -/
  name : String
  /-- Unknown keys are refused; otherwise they are skipped. -/
  strict : Bool
  members : List (Member σ)
  /-- The record in which no member has been read. -/
  start : σ

namespace RecordShape

/-- The keys in their order. -/
def keys (shape : RecordShape σ) : List String :=
  shape.members.map Member.key

/-- What is expected where the record stands. -/
def expected (shape : RecordShape σ) : String :=
  s!"struct {shape.name}"

/-- The first required member that has not been read. -/
def missing? (shape : RecordShape σ) (seen : List String) : Option String :=
  (shape.members.find? fun m => m.required && !seen.contains m.key).map Member.key

/-- Reads the members of an object. An unknown or repeated key is refused before its value is
looked at, a missing one at the end. -/
def readMembers (shape : RecordShape σ) (room : Nat) (close : Close) :
    List (Option String × Tree) → List String → σ → Except Fault σ
  | [], seen, s => do
    Reader.requireClosed close
    match shape.missing? seen with
    | some key => throw (.missingField key)
    | none => return s
  | (none, _) :: _, _, _ => .error .malformed
  | (some key, t) :: rest, seen, s =>
    match shape.members.find? fun m => m.key == key with
    | none =>
      if shape.strict then .error (.unknownField key shape.keys)
      else if t.isIntact then shape.readMembers room close rest seen s
      else .error .malformed
    | some m =>
      if seen.contains key then .error (.duplicateField key)
      else do
        let set ← m.read room t
        shape.readMembers room close rest (key :: seen) (set s)

/-- Reads members by their position; those that are absent at the end keep their defaults. -/
def readItems (shape : RecordShape σ) (room : Nat) (close : Close) :
    List (Member σ) → List Tree → σ → Except Fault σ
  | [], [], s => do
    Reader.requireClosed close
    return s
  | [], _ :: _, _ => .error .malformed
  | m :: ms, [], s => do
    Reader.requireClosed close
    if m.required then
      throw (.invalidLength (shape.members.length - ms.length - 1) shape.expected
        shape.members.length)
    shape.readItems room close ms [] s
  | m :: ms, t :: ts, s => do
    let set ← m.read room t
    shape.readItems room close ms ts (set s)

/-- The reader of a record. -/
def reader (shape : RecordShape σ) : Reader σ := fun room t =>
  match t, room with
  | .object members close, room + 1 => shape.readMembers room close members [] shape.start
  | .array items close, room + 1 => shape.readItems room close shape.members items shape.start
  | .object _ _, 0 => .error .malformed
  | .array _ _, 0 => .error .malformed
  | t, _ => .error (t.mismatch shape.expected)

end RecordShape

end RecordQuery

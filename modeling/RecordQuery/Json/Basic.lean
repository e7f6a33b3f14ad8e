import RecordQuery.Dictionary
import RecordQuery.Json.Numeral

/-!
# JSON values

* `Json`, whose objects keep their members in the order in which they are written;
* `Json.depth`, the nesting of arrays and objects;
* `Json.Canonical`, the values that reading gives for free data: numbers that can be read, and
  object keys sorted and distinct;
* `Literal`, a canonical value.
-/

namespace RecordQuery

/-- A JSON value. -/
inductive Json
  | null
  | bool (b : Bool)
  | number (n : Numeral)
  | string (s : String)
  | array (items : List Json)
  | object (members : List (String × Json))
  deriving Inhabited

namespace Json

/-- An integer of JSON. -/
def integer (n : Int) : Json :=
  .number (.integer n)

/-- A natural number of JSON. -/
def nat (n : Nat) : Json :=
  .integer n

mutual

/-- The greatest number of arrays and objects around a part of the value. -/
def depth : Json → Nat
  | .array items => itemsDepth items + 1
  | .object members => membersDepth members + 1
  | _ => 0

/-- The greatest depth of an item. -/
def itemsDepth : List Json → Nat
  | [] => 0
  | v :: vs => max v.depth (itemsDepth vs)

/-- The greatest depth of a member. -/
def membersDepth : List (String × Json) → Nat
  | [] => 0
  | (_, v) :: ms => max v.depth (membersDepth ms)

end

mutual

/-- Every number can be read and every object has sorted and distinct keys. -/
def Canonical : Json → Prop
  | .number n => n.isCanonical = true
  | .array items => ItemsCanonical items
  | .object members => SortedEntries members ∧ MembersCanonical members
  | _ => True

/-- Every item is canonical. -/
def ItemsCanonical : List Json → Prop
  | [] => True
  | v :: vs => v.Canonical ∧ ItemsCanonical vs

/-- Every member is canonical. -/
def MembersCanonical : List (String × Json) → Prop
  | [] => True
  | (_, v) :: ms => v.Canonical ∧ MembersCanonical ms

end

theorem membersCanonical_iff {members : List (String × Json)} :
    MembersCanonical members ↔ ∀ m ∈ members, m.2.Canonical := by
  induction members with
  | nil => simp [MembersCanonical]
  | cons m ms ih => simp [MembersCanonical, ih]

theorem MembersCanonical.insertEntry {members : List (String × Json)}
    (h : MembersCanonical members) {key : String} {v : Json} (hv : v.Canonical) :
    MembersCanonical (insertEntry key v members) := by
  rw [membersCanonical_iff] at h ⊢
  intro m hm
  rcases mem_insertEntry hm with rfl | hm
  · exact hv
  · exact h m hm

end Json

/-- A JSON value as free data: what is left of a text once the order of keys, repeated keys and the
spelling of numbers are forgotten. -/
structure Literal where
  json : Json
  canonical : json.Canonical

end RecordQuery

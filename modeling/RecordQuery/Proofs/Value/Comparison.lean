import RecordQuery.Proofs.Value.Equality
import RecordQuery.Operator

/-!
# Comparison of values

Integers, floats and timestamps are compared by order.

* `Value.Before` and `Value.AtMost`, what it means that a value stands before another one, and that
  it stands before it or at the same place;
* `compare?_eq_some_eq_iff`, which shows that values of any type compare as equal if they are the
  same;
* `compare?_eq_lt_iff`, `compare?_eq_gt_iff` and `compare?_eq_eq_iff`, which show that
  `Value.compare?` decides these relations where the second value is ordered.
-/

namespace RecordQuery

namespace Value

/-- A value stands before another one. Integers and floats go by their numeric value, of which a NaN
has none, and timestamps by time. No other value stands before any. -/
def Before : Value → Value → Prop
  | .integer m, .integer n => m.toInt < n.toInt
  | .float x, .float y => x.isNaN = false ∧ y.isNaN = false ∧ x.numeric < y.numeric
  | .timestamp s, .timestamp t => s.seconds < t.seconds ∨ s.seconds = t.seconds ∧ s.nanos < t.nanos
  | _, _ => False

/-- A value other than null stands before another one or at its place. -/
def AtMost (v w : Value) : Prop :=
  v.Before w ∨ v ≠ .null ∧ v.Same w

/-- The value has a type that ordering operators are for. -/
def isOrdered (v : Value) : Bool :=
  v.type?.any FieldType.isOrdered

theorem ne_null_of_isOrdered {w : Value} (hw : w.isOrdered = true) : w ≠ .null := by
  rintro rfl
  exact absurd hw (by decide)

/-- Two values of any type compare as equal if a filter does not tell them apart, null aside. -/
theorem compare?_eq_some_eq_iff {v w : Value} :
    v.compare? w = some .eq ↔ v.Same w ∧ w ≠ .null := by
  cases v <;> cases w
  case float.float x y => simp [compare?, Binary64.compare?_eq_some_iff]
  case timestamp.timestamp s t =>
    cases s
    cases t
    simp [compare?, Same, Instant.compare]
  case uuid.uuid a b =>
    cases a
    cases b
    simp [compare?, Same, Uuid.compare, BitVec.toNat_inj]
  all_goals simp [compare?, Same, Int64.toInt_inj]

section Order

variable {v w : Value} (hw : w.isOrdered = true)
include hw

theorem compare?_eq_lt_iff : v.compare? w = some .lt ↔ v.Before w := by
  cases w with
  | integer n => cases v <;> simp [compare?, Before, Int.compare_eq_lt]
  | float y => cases v <;> simp [compare?, Before, Binary64.compare?_eq_some_iff, Int.compare_eq_lt]
  | timestamp t =>
    cases v <;>
      simp [compare?, Before, Instant.compare, Ordering.then_eq_lt, Int.compare_eq_lt,
        Nat.compare_eq_lt]
  | _ => simp [isOrdered, type?, FieldType.isOrdered] at hw

theorem compare?_eq_gt_iff : v.compare? w = some .gt ↔ w.Before v := by
  cases w with
  | integer n => cases v <;> simp [compare?, Before, Int.compare_eq_gt]
  | float y =>
    cases v <;>
      simp [compare?, Before, Binary64.compare?_eq_some_iff, Int.compare_eq_gt, and_left_comm]
  | timestamp t =>
    cases v with
    | timestamp s =>
      simp [compare?, Before, Instant.compare, Ordering.then_eq_gt, Int.compare_eq_gt,
        Nat.compare_eq_gt, @eq_comm _ s.seconds]
    | _ => simp [compare?, Before]
  | _ => simp [isOrdered, type?, FieldType.isOrdered] at hw

theorem compare?_eq_eq_iff : v.compare? w = some .eq ↔ v.Same w := by
  rw [compare?_eq_some_eq_iff, and_iff_left (ne_null_of_isOrdered hw)]

end Order

end Value

end RecordQuery

import RecordQuery.Value

/-!
# The order of all values

The order that sorting uses is transitive and total, and only equal values tie in it. It is the order
of parts taken one after the other: the place of the type, two numbers and a text.

* `Value.number`, `Value.count` and `Value.letters`, the parts of a value within its type;
* `compareTotal_eq`, which shows that the parts are what is compared, and `eq_of_compareParts`, that
  they tell a value;
* the instances of `Std.TransCmp` and `Std.LawfulEqCmp` for `Value.compareTotal`.
-/

namespace RecordQuery

/-- Every bit pattern has a place of its own. -/
theorem Binary64.totalRank_inj {x y : Binary64} : x.totalRank = y.totalRank ↔ x = y := by
  refine ⟨fun h => ?_, congrArg _⟩
  have hx := x.bits.toNat_lt
  have hy := y.bits.toNat_lt
  have hbits : x.bits.toNat = y.bits.toNat := by
    revert h
    unfold totalRank negative magnitude signWeight
    split <;> split <;> simp only [decide_eq_true_eq] at * <;> omega
  cases x
  cases y
  exact congrArg mk (UInt64.toNat_inj.1 hbits)

namespace Value

/-- The number by which integers, floats and timestamps are ordered, timestamps by their second. -/
def number : Value → Int
  | .integer n => n.toInt
  | .float x => x.totalRank
  | .timestamp t => t.seconds
  | _ => 0

/-- The number by which truth values, identifiers and the timestamps of one second are ordered. -/
def count : Value → Nat
  | .bool b => b.toNat
  | .timestamp t => t.nanos
  | .uuid u => u.value.toNat
  | _ => 0

/-- The text by which texts are ordered. -/
def letters : Value → String
  | .text s => s
  | _ => ""

/-- The order of the parts of a value, the first that differ deciding. -/
def compareParts : Value → Value → Ordering :=
  compareLex (compareOn typeRank)
    (compareLex (compareOn number) (compareLex (compareOn count) (compareOn letters)))

theorem compareTotal_eq (v w : Value) : v.compareTotal w = compareParts v w := by
  have hbool : ∀ a b : Bool, compare a.toNat b.toNat = compare a b := by decide
  -- The first part tells values of different types apart, where both sides compute to the same.
  cases v <;> cases w <;> first
    | rfl
    | simp [compareTotal, compareParts, compareLex, compareOn, compare?, typeRank, number, count,
        letters, Binary64.compareTotal, Instant.compare, Uuid.compare, hbool]

instance : Std.TransCmp compareTotal := by
  have h : compareTotal = compareParts := funext fun v => funext (compareTotal_eq v)
  rw [h]
  unfold compareParts
  infer_instance

/-- No two values have the same parts. -/
theorem eq_of_compareParts {v w : Value} (h : compareParts v w = .eq) : v = w := by
  simp only [compareParts, compareLex_eq_eq, compareOn, Std.compare_eq_iff_eq] at h
  obtain ⟨htype, hnumber, hcount, hletters⟩ := h
  cases v <;> cases w
  case integer.integer => exact congrArg integer (Int64.toInt_inj.1 hnumber)
  case float.float => exact congrArg float (Binary64.totalRank_inj.1 hnumber)
  case bool.bool a b => cases a <;> cases b <;> first | rfl | cases hcount
  case text.text => exact congrArg text hletters
  case uuid.uuid a b =>
    cases a
    cases b
    exact congrArg (fun n => uuid ⟨n⟩) (BitVec.toNat_inj.1 hcount)
  case timestamp.timestamp s t =>
    cases s
    cases t
    simp only [number, count] at hnumber hcount
    subst hnumber hcount
    rfl
  case null.null => rfl
  all_goals cases htype

instance : Std.LawfulEqCmp compareTotal where
  eq_of_compare h := eq_of_compareParts (by rwa [← compareTotal_eq])

theorem compareTotal_swap (v w : Value) : v.compareTotal w = (w.compareTotal v).swap :=
  Std.OrientedCmp.eq_swap

theorem compareTotal_isLE_trans {u v w : Value} (huv : (u.compareTotal v).isLE)
    (hvw : (v.compareTotal w).isLE) : (u.compareTotal w).isLE :=
  Std.TransCmp.isLE_trans huv hvw

theorem compareTotal_isGE_trans {u v w : Value} (huv : (u.compareTotal v).isGE)
    (hvw : (v.compareTotal w).isGE) : (u.compareTotal w).isGE :=
  Std.TransCmp.isGE_trans huv hvw

end Value

end RecordQuery

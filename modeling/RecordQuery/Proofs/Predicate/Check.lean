import RecordQuery.Proofs.Outcome
import RecordQuery.Predicate

/-!
# What passes the checks of a predicate

* `Operator.AppliesTo`, the types of fields that an operator is for, and `Operator.NeedsValue`, the
  operators for which null is no operand, with `appliesTo_iff` and `needsValue_iff`, which bring both
  to the classes of operators that are checked;
* `Value.Fits`, the values of a field;
* `checkValue_eq_ok_iff` and `checkMembers_eq_ok_iff`, the exact conditions of the checks that come
  before a test is built;
* `checkApplicable_eq_error_iff` and `checkValue_eq_error_iff`, the errors of those that fail.
-/

namespace RecordQuery

open Outcome

/-- An ordering operator is for integers, floats and timestamps, and a containment operator for
texts. Any other operator is for every type. -/
def Operator.AppliesTo (op : Operator) (type : FieldType) : Prop :=
  match op with
  | .gt | .gte | .lt | .lte => type = .integer ∨ type = .float ∨ type = .timestamp
  | .contains | .notContains => type = .text
  | _ => True

/-- The operator has no meaning for the null operand. -/
def Operator.NeedsValue : Operator → Prop
  | .gt | .gte | .lt | .lte | .contains | .notContains => True
  | _ => False

theorem Operator.appliesTo_iff {op : Operator} {type : FieldType} :
    op.AppliesTo type ↔
      (op.isOrdering = true → type = .integer ∨ type = .float ∨ type = .timestamp) ∧
        (op.isContainment = true → type = .text) := by
  cases op <;> simp [AppliesTo, isOrdering, isContainment]

theorem Operator.needsValue_iff {op : Operator} :
    op.NeedsValue ↔ op.isOrdering = true ∨ op.isContainment = true := by
  cases op <;> simp [NeedsValue, isOrdering, isContainment]

theorem Operator.needsValue_of_isOrdering {op : Operator} (h : op.isOrdering = true) :
    op.NeedsValue :=
  needsValue_iff.2 (.inl h)

theorem Operator.eq_appliesTo (type : FieldType) : Operator.eq.AppliesTo type :=
  trivial

theorem Operator.not_needsValue_eq : ¬Operator.eq.NeedsValue :=
  id

/-- A value that a field of the type may have: null or a value of the type. -/
def Value.Fits (v : Value) (type : FieldType) : Prop :=
  v = .null ∨ v.type? = some type

theorem FieldType.isOrdered_iff {type : FieldType} :
    type.isOrdered = true ↔ type = .integer ∨ type = .float ∨ type = .timestamp := by
  cases type <;> simp [isOrdered]

theorem Value.type?_eq_none_iff {v : Value} : v.type? = none ↔ v = .null := by
  cases v <;> simp [type?]

section Checks

variable {field : String} {type : FieldType} {op : Operator} {v : Value} {u : Unit}

theorem ensure_eq_ok_iff {condition : Prop} [Decidable condition] {e : CompileError} :
    ensure condition e = .ok u ↔ condition := by
  unfold ensure
  by_cases h : condition <;> simp [h]

theorem ensure_eq_error_iff {condition : Prop} [Decidable condition] {e e' : CompileError} :
    ensure condition e = .error e' ↔ ¬condition ∧ e = e' := by
  unfold ensure
  by_cases h : condition <;> simp [h]

theorem checkApplicable_eq_ok_iff :
    checkApplicable field type op = .ok u ↔ op.kind = .value ∧ op.AppliesTo type := by
  unfold checkApplicable
  simp only [bind_eq_ok_iff, ensure_eq_ok_iff, exists_const, FieldType.isOrdered_iff,
    Operator.appliesTo_iff]

theorem checkOperand_eq_ok_iff : checkOperand field type v = .ok u ↔ v.Fits type := by
  unfold checkOperand Value.Fits
  cases h : v.type? with
  | none => exact iff_of_true rfl (.inl (Value.type?_eq_none_iff.1 h))
  | some actual =>
    have hv : v ≠ .null := fun hv => by simp [hv, Value.type?] at h
    simp only [ensure_eq_ok_iff, hv, false_or, Option.some.injEq]

theorem requireValue_eq_ok_iff {reason : Mismatch} :
    requireValue field type v reason = .ok u ↔ v ≠ .null :=
  ensure_eq_ok_iff

theorem checkValue_eq_ok_iff :
    checkValue field type op v = .ok u ↔
      op.kind = .value ∧ op.AppliesTo type ∧ v.Fits type ∧ (op.NeedsValue → v ≠ .null) := by
  unfold checkValue
  simp only [bind_eq_ok_iff, checkApplicable_eq_ok_iff, checkOperand_eq_ok_iff, exists_const,
    and_assoc, Operator.needsValue_iff]
  cases op.isOrdering <;> cases op.isContainment <;>
    simp [bind_eq_ok_iff, requireValue_eq_ok_iff, pure, Except.pure]

theorem checkMembers_eq_ok_iff {vs : ValueSet} :
    checkMembers field type op vs = .ok u ↔
      op.kind = .membership ∧ ∀ v ∈ vs.members, v.Fits type := by
  unfold checkMembers
  simp only [bind_eq_ok_iff, ensure_eq_ok_iff, forM_eq_ok_iff, checkOperand_eq_ok_iff,
    exists_const]

/-! ### The errors -/

variable {e : CompileError}

theorem checkApplicable_eq_error_iff (hkind : op.kind = .value) :
    checkApplicable field type op = .error e ↔
      ¬op.AppliesTo type ∧ .notApplicable op field type = e := by
  unfold checkApplicable
  simp only [bind_eq_error_iff, ensure_eq_error_iff, ensure_eq_ok_iff, hkind, not_true,
    false_and, false_or, true_and, exists_const, FieldType.isOrdered_iff, Operator.appliesTo_iff]

theorem requireValue_eq_error_iff {reason : Mismatch} :
    requireValue field type v reason = .error e ↔
      v = .null ∧ .coercion field type "null" reason = e := by
  unfold requireValue
  rw [ensure_eq_error_iff, not_not]
  refine and_congr_right ?_
  rintro rfl
  rfl

/-- An operator and a value that suit the field fail for null alone, where a value is needed. -/
theorem checkValue_eq_error_iff (hkind : op.kind = .value) (happ : op.AppliesTo type)
    (hfits : v.Fits type) :
    checkValue field type op v = .error e ↔ v = .null ∧
      (op.isOrdering = true ∧ .coercion field type "null" .nullOrdering = e ∨
        op.isContainment = true ∧ .coercion field type "null" .nullContainment = e) := by
  have happlicable : checkApplicable field type op = .ok () :=
    checkApplicable_eq_ok_iff.2 ⟨hkind, happ⟩
  have hoperand : checkOperand field type v = .ok () := checkOperand_eq_ok_iff.2 hfits
  unfold checkValue
  rw [happlicable, hoperand]
  -- No operator is for both an order and a text, so at most one of the two requirements is made.
  cases op <;>
    simp [bind_eq_error_iff, requireValue_eq_error_iff, Operator.isOrdering,
      Operator.isContainment, pure, Except.pure]

end Checks

end RecordQuery

import RecordQuery.Proofs.Filter.Meaning
import RecordQuery.Proofs.Predicate.Check
import RecordQuery.Proofs.Text.Occurrence

/-!
# What the tests of one field say

A test of a field against a value, or against a list of values, holds for a record if the operator
relates the value of the field to them.

* `valueTest_holds_iff`, for the tests that have passed `checkValue`;
* `membershipTest_holds_iff`, for lists of values.
-/

namespace RecordQuery

variable {R : Type}

theorem containsText_iff {v w : Value} : containsText v w = true ↔ v.Contains w := by
  unfold containsText Value.Contains
  split
  case h_1 s t =>
    rw [occursIn_iff]
    constructor
    · intro h
      exact ⟨s, t, rfl, rfl, h⟩
    · rintro ⟨_, _, ⟨⟩, ⟨⟩, h⟩
      exact h
  case h_2 hne =>
    refine iff_of_false Bool.false_ne_true ?_
    rintro ⟨s, t, rfl, rfl, -⟩
    exact hne s t rfl rfl

namespace Value

/-- An ordering operator accepts the comparison of two values if it relates them. -/
theorem any_accepts_iff {op : Operator} {v w : Value} (hop : op.isOrdering = true)
    (hw : w.isOrdered = true) : (v.compare? w).any op.accepts = true ↔ op.Relates v w := by
  have hlt := compare?_eq_lt_iff (v := v) hw
  have heq := compare?_eq_eq_iff (v := v) hw
  have hgt := compare?_eq_gt_iff (v := v) hw
  have hw' := ne_null_of_isOrdered hw
  have hv : v.Same w → v ≠ .null := fun h hv => hw' (same_null_iff.1 (hv ▸ h.symm))
  cases op with
  | gt | gte | lt | lte =>
    simp only [Operator.Relates, AtMost, same_comm (v := w), ← hlt, ← heq, ← hgt] at hv ⊢
    cases h : v.compare? w with
    | none => simp
    | some o => cases o <;> simp_all [Operator.accepts]
  | _ => exact absurd hop Bool.false_ne_true

/-- The values of a field that an ordering operator is for are ordered, null apart. -/
theorem isOrdered_of_fits {op : Operator} {type : FieldType} {v : Value}
    (hop : op.isOrdering = true) (happ : op.AppliesTo type) (hfits : v.Fits type)
    (hv : v ≠ .null) : v.isOrdered = true := by
  rw [isOrdered, hfits.resolve_left hv]
  exact FieldType.isOrdered_iff.2 ((Operator.appliesTo_iff.1 happ).1 hop)

end Value

/-- A test against a value that has passed its checks says what the operator says of the field and
the value. -/
theorem valueTest_holds_iff {a : Accessor R} {op : Operator} {v : Value} {r : R}
    (hkind : op.kind = .value) (happ : op.AppliesTo a.type) (hfits : v.Fits a.type)
    (hneeds : op.NeedsValue → v ≠ .null) :
    (valueTest a op v).holds r = true ↔ op.Relates (a.value r) v := by
  -- The ordering operators go by `Value.compare?`, the others by `Value.equal` or by texts.
  by_cases hop : op.isOrdering = true
  · rw [valueTest, if_pos hop]
    exact Value.any_accepts_iff hop
      (Value.isOrdered_of_fits hop happ hfits (hneeds (Operator.needsValue_of_isOrdering hop)))
  rw [valueTest, if_neg hop]
  cases op with
  | eq => exact Value.equal_iff
  | contains => exact containsText_iff
  | notEq =>
    show (!(a.value r).equal v) = true ↔ ¬(a.value r).Same v
    rw [Bool.not_eq_true', ← Value.equal_iff, Bool.not_eq_true]
  | notContains =>
    show (!containsText (a.value r) v) = true ↔ ¬(a.value r).Contains v
    rw [Bool.not_eq_true', ← containsText_iff, Bool.not_eq_true]
  | gt | gte | lt | lte => exact absurd rfl hop
  | isIn | notIn | and | or => cases hkind

/-- A test against a list of values says whether the field has one of them, or that it has none. -/
theorem membershipTest_holds_iff {a : Accessor R} {op : Operator} {vs : List Value} {r : R} :
    (membershipTest a op (.ofList vs)).holds r = true ↔
      if op.isNegated then ¬∃ v ∈ vs, (a.value r).Same v else ∃ v ∈ vs, (a.value r).Same v := by
  have h : (ValueSet.ofList vs).contains (a.value r) = true ↔ ∃ v ∈ vs, (a.value r).Same v := by
    rw [ValueSet.contains_ofList]
    simp only [Value.same_comm (w := a.value r)]
  rw [membershipTest, Predicate.negateIf]
  split
  · rw [← h]
    show (!(ValueSet.ofList vs).contains (a.value r)) = true ↔ _
    rw [Bool.not_eq_true', Bool.not_eq_true]
  · exact h

end RecordQuery

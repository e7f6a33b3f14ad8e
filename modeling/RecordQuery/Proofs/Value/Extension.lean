import RecordQuery.Proofs.Value.Agreement

/-!
# A linear order that extends the comparison

The order of all values is linear. Where a filter finds one value less or greater than another one,
so does the order, and where a filter finds them equal they are the same value or the two zeros.

* `Value.OppositeZeros`, the only two values that filters take for one and sorting does not;
* `Binary64.eq_or_oppositeZeros` and `Binary64.compareTotal_of_compare?`, for the two orders of
  floats;
* `compareTotal_of_compare?_of_ne` and `compareTotal_eq_iff_of_compare?`, for values of every type;
* `Value.compareTotal_linear`, which sums up the order of all values.
-/

namespace RecordQuery

namespace Binary64

variable {x y : Binary64}

/-- Two zeros, one of each sign. -/
def OppositeZeros (x y : Binary64) : Prop :=
  x.magnitude = 0 ∧ y.magnitude = 0 ∧ x.negative ≠ y.negative

/-- Two bit patterns at one place between the infinities are the same, or the two zeros. -/
theorem eq_or_oppositeZeros (h : x.rank = y.rank) : x = y ∨ x.OppositeZeros y := by
  rw [← totalRank_inj]
  revert h
  unfold rank totalRank OppositeZeros
  cases x.negative <;> cases y.negative <;>
    simp only [if_true, if_false, Bool.false_eq_true, reduceCtorEq, ne_eq, not_true_eq_false,
      not_false_eq_true, and_true, and_false, or_false] <;>
    omega

theorem OppositeZeros.ne (h : x.OppositeZeros y) : x ≠ y := by
  rintro rfl
  exact h.2.2 rfl

/-- A number that is less than another one has its bit pattern before the other's. -/
theorem compareTotal_of_compare? {o : Ordering} (h : x.compare? y = some o) (ho : o ≠ .eq) :
    x.compareTotal y = o := by
  obtain ⟨-, -, hrank⟩ := compare?_eq_some_iff_rank.1 h
  cases o with
  | lt =>
    have hlt := Int.compare_eq_lt.1 hrank
    exact Int.compare_eq_lt.2 (Int.lt_of_not_ge fun hle => absurd (rank_le_rank hle) (by omega))
  | gt =>
    have hgt := Int.compare_eq_gt.1 hrank
    exact Int.compare_eq_gt.2 (Int.lt_of_not_ge fun hle => absurd (rank_le_rank hle) (by omega))
  | eq => exact absurd rfl ho

end Binary64

namespace Value

variable {v w : Value} {o : Ordering}

/-- The two zeros of the floats. -/
def OppositeZeros : Value → Value → Prop
  | .float x, .float y => x.OppositeZeros y
  | _, _ => False

/-- Null stands before every other value. -/
theorem compareTotal_null (h : w ≠ .null) : Value.null.compareTotal w = .lt := by
  cases w with
  | null => exact absurd rfl h
  | _ => rfl

/-- A value that a filter finds less or greater than another one is so in the order of all values. -/
theorem compareTotal_of_compare?_of_ne (h : v.compare? w = some o) (ho : o ≠ .eq) :
    v.compareTotal w = o := by
  by_cases hw : ∃ y, w = .float y
  · obtain ⟨y, rfl⟩ := hw
    cases v with
    | float x => exact Binary64.compareTotal_of_compare? h ho
    | _ => cases h
  · exact compareTotal_of_compare? h fun y hy => hw ⟨y, hy⟩

/-- Values that a filter finds equal tie in the order of all values, but for the two zeros. -/
theorem compareTotal_eq_iff_of_compare? (h : v.compare? w = some .eq) :
    v.compareTotal w = .eq ↔ ¬v.OppositeZeros w := by
  rw [Std.LawfulEqCmp.compare_eq_iff_eq]
  rcases same_cases (compare?_eq_some_eq_iff.1 h).1 with rfl | ⟨x, y, rfl, rfl⟩
  · refine iff_of_true rfl ?_
    cases v with
    | float x => exact fun hzeros => hzeros.ne rfl
    | _ => exact id
  · obtain ⟨-, -, hrank⟩ := Binary64.compare?_eq_some_iff_rank.1 h
    constructor
    · intro heq hzeros
      exact hzeros.ne (Value.float.inj heq)
    · intro hzeros
      have hplace := Std.compare_eq_iff_eq.1 hrank
      exact congrArg Value.float ((Binary64.eq_or_oppositeZeros hplace).resolve_right hzeros)

/-- The order of all values is linear, with null first, and goes by the comparison of filters as far
as that reaches, except that it tells the two zeros apart. -/
theorem compareTotal_linear (u v w : Value) :
    u.compareTotal u = .eq ∧
    v.compareTotal u = (u.compareTotal v).swap ∧
    ((u.compareTotal v).isLE → (v.compareTotal w).isLE → (u.compareTotal w).isLE) ∧
    (u.compareTotal v = .eq ↔ u = v) ∧
    (v ≠ .null → Value.null.compareTotal v = .lt) ∧
    (∀ o, u.compare? v = some o → o ≠ .eq → u.compareTotal v = o) ∧
    (u.compare? v = some .eq → (u.compareTotal v = .eq ↔ ¬u.OppositeZeros v)) :=
  ⟨Std.ReflCmp.compare_self, compareTotal_swap v u, compareTotal_isLE_trans,
    Std.LawfulEqCmp.compare_eq_iff_eq, compareTotal_null,
    fun _ h ho => compareTotal_of_compare?_of_ne h ho, compareTotal_eq_iff_of_compare?⟩

/-- The negative zero equals the positive one for a filter and stands before it for sorting, like
every number before a NaN with a payload and like null before them all. -/
theorem compareTotal_linear_of_zeros :
    let negative : Value := .float ⟨0x8000000000000000⟩
    let positive : Value := .float ⟨0⟩
    let nan : Value := .float ⟨0x7FF8000000000001⟩
    negative.compare? positive = some .eq ∧ negative.compareTotal positive ≠ .eq ∧
      (negative.compareTotal nan).isLE ∧ Value.null.compareTotal positive = .lt ∧
      positive.compareTotal (.float ⟨0xBFF0000000000000⟩) = .gt := by
  intro negative positive nan
  obtain ⟨-, -, htrans, -, hnull, -, hzeros⟩ := compareTotal_linear negative positive nan
  obtain ⟨-, -, -, -, -, hgreater, -⟩ :=
    compareTotal_linear positive (.float ⟨0xBFF0000000000000⟩) nan
  have hequal : negative.compare? positive = some .eq := by decide
  have hopposite : negative.OppositeZeros positive := ⟨by decide, by decide, by decide⟩
  refine ⟨hequal, fun htie => (hzeros hequal).1 htie hopposite, htrans (by decide) (by decide),
    hnull (by decide), hgreater .gt (by decide) (by decide)⟩

end Value

end RecordQuery

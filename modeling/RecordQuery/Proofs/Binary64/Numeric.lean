import RecordQuery.Binary64.Basic

/-!
# Numeric values

The comparison of binary64 numbers goes by their magnitudes. Here it is shown to be the comparison
of the numbers themselves.

* `units_lt_units`, since a greater magnitude is a greater number;
* `Binary64.numeric`, the number as a multiple of the least positive one, `2 ^ -1074`;
* `equal_iff` and `compare?_eq_some_iff`, equality and order without a NaN.
-/

namespace RecordQuery.Binary64

@[simp] theorem units_zero : units 0 = 0 := rfl

/-- The next magnitude is a greater number, also where a binade ends. -/
theorem units_lt_units_succ (m : Nat) : units m < units (m + 1) := by
  unfold units binade
  by_cases h : m + 1 < 0x10000000000000
  · rw [if_pos h, if_pos (by omega)]
    omega
  rw [if_neg h]
  by_cases h' : m < 0x10000000000000
  · rw [if_pos h', show (m + 1) / 0x10000000000000 - 1 = 0 by omega]
    omega
  rw [if_neg h', Nat.shiftLeft_eq, Nat.shiftLeft_eq]
  -- `m + 1` either stays in the binade of `m` or is the least of the next one
  by_cases hr : m % 0x10000000000000 + 1 < 0x10000000000000
  · rw [show (m + 1) / 0x10000000000000 = m / 0x10000000000000 by omega]
    exact Nat.mul_lt_mul_of_pos_right (by omega) (Nat.two_pow_pos _)
  · rw [show (m + 1) / 0x10000000000000 - 1 = m / 0x10000000000000 - 1 + 1 by omega,
      Nat.pow_succ]
    have hpos := Nat.two_pow_pos (m / 0x10000000000000 - 1)
    calc (0x10000000000000 + m % 0x10000000000000) * 2 ^ (m / 0x10000000000000 - 1)
        < (0x10000000000000 * 2) * 2 ^ (m / 0x10000000000000 - 1) :=
          Nat.mul_lt_mul_of_pos_right (by omega) hpos
      _ = 0x10000000000000 * (2 ^ (m / 0x10000000000000 - 1) * 2) := by
          rw [Nat.mul_assoc, Nat.mul_comm 2]
      _ ≤ _ := Nat.mul_le_mul_right _ (by omega)

theorem units_lt_units {m n : Nat} (h : m < n) : units m < units n := by
  induction h with
  | refl => exact units_lt_units_succ m
  | step _ ih => exact Nat.lt_trans ih (units_lt_units_succ _)

theorem units_lt_units_iff {m n : Nat} : units m < units n ↔ m < n := by
  constructor
  · intro h
    rcases Nat.lt_trichotomy m n with hlt | rfl | hgt
    · exact hlt
    · exact absurd h (Nat.lt_irrefl _)
    · exact absurd (units_lt_units hgt) (Nat.lt_asymm h)
  · exact units_lt_units

/-- The number as a multiple of the least positive one. An infinity counts as the number that would
follow the greatest, and what a NaN counts as is never used. -/
def numeric (x : Binary64) : Int :=
  if x.negative then -(units x.magnitude : Int) else units x.magnitude

theorem numeric_lt_numeric_iff {x y : Binary64} : x.numeric < y.numeric ↔ x.rank < y.rank := by
  have hxy := units_lt_units_iff (m := x.magnitude) (n := y.magnitude)
  have hyx := units_lt_units_iff (m := y.magnitude) (n := x.magnitude)
  have hx := units_lt_units_iff (m := 0) (n := x.magnitude)
  have hy := units_lt_units_iff (m := 0) (n := y.magnitude)
  rw [units_zero] at hx hy
  unfold numeric rank
  -- A negative number is ordered against its magnitude, and any number against both zeros.
  cases x.negative <;> cases y.negative <;> simp only [if_true, if_false, Bool.false_eq_true] <;>
    omega

theorem compare_rank (x y : Binary64) : compare x.rank y.rank = compare x.numeric y.numeric := by
  have hlt := numeric_lt_numeric_iff (x := x) (y := y)
  have hgt := numeric_lt_numeric_iff (x := y) (y := x)
  simp only [compare, compareOfLessAndEq]
  grind

/-- Two numbers compare as their numeric values do, if neither is a NaN. -/
theorem compare?_eq_some_iff {x y : Binary64} {o : Ordering} :
    x.compare? y = some o ↔
      x.isNaN = false ∧ y.isNaN = false ∧ compare x.numeric y.numeric = o := by
  unfold compare?
  cases x.isNaN <;> cases y.isNaN <;> simp [compare_rank]

/-- Two numbers are equal if their numeric values are and neither is a NaN. -/
theorem equal_iff {x y : Binary64} :
    x.equal y = true ↔ x.isNaN = false ∧ y.isNaN = false ∧ x.numeric = y.numeric := by
  rw [equal, beq_iff_eq, compare?_eq_some_iff, Std.LawfulEqCmp.compare_eq_iff_eq]

end RecordQuery.Binary64

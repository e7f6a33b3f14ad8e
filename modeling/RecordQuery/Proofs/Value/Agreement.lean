import RecordQuery.Proofs.Value.Comparison
import RecordQuery.Proofs.Value.Order

/-!
# Filters and sorting agree

A filter compares values by `Value.compare?`, in which null and the NaNs take no part and the zeros
are equal. Sorting goes by `Value.compareTotal`, which has a place for every value. The two are
written apart, but the second never contradicts the first.

* `Binary64.rank_le_rank` and `Binary64.isNaN_of_between`, for the two orders of floats;
* `compare?_mono`, which shows that a value further on in the order of all values compares no lower;
* `exists_compare?_of_between`, which shows that what stands between two values of which a filter
  can compare both can be compared as well.
-/

namespace RecordQuery

namespace Binary64

variable {x y z : Binary64}

theorem compareTotal_isLE_iff : (x.compareTotal y).isLE ↔ x.totalRank ≤ y.totalRank := by
  rw [compareTotal, Std.isLE_compare]

theorem compare?_eq_some_iff_rank {o : Ordering} :
    x.compare? y = some o ↔ x.isNaN = false ∧ y.isNaN = false ∧ compare x.rank y.rank = o := by
  rw [compare?_eq_some_iff, compare_rank]

/-- The order of all bit patterns tells the zeros apart, but never puts a greater number first. -/
theorem rank_le_rank (h : x.totalRank ≤ y.totalRank) : x.rank ≤ y.rank := by
  revert h
  unfold totalRank rank
  cases x.negative <;> cases y.negative <;> simp only [if_true, if_false, Bool.false_eq_true] <;>
    omega

/-- The NaNs stand at both ends of the order of all bit patterns. -/
theorem isNaN_of_between (hxy : x.totalRank ≤ y.totalRank) (hyz : y.totalRank ≤ z.totalRank)
    (hx : x.isNaN = false) (hz : z.isNaN = false) : y.isNaN = false := by
  simp only [isNaN, decide_eq_false_iff_not, Nat.not_lt] at hx hz ⊢
  revert hxy hyz
  unfold totalRank
  cases x.negative <;> cases y.negative <;> cases z.negative <;>
    simp only [if_true, if_false, Bool.false_eq_true] <;> omega

end Binary64

/-- What stands further on in an order compares no lower with any item. -/
theorem isLE_compare_compare {α : Type} {cmp : α → α → Ordering} [Std.TransCmp cmp] {a b : α}
    (h : (cmp a b).isLE) (c : α) : (compare (cmp a c) (cmp b c)).isLE := by
  cases hb : cmp b c with
  | lt =>
    rw [Std.TransCmp.lt_of_isLE_of_lt h hb]
    rfl
  | eq =>
    have ha : (cmp a c).isLE := Std.TransCmp.isLE_trans h (Ordering.isLE_of_eq_eq hb)
    cases hac : cmp a c with
    | lt | eq => rfl
    | gt => simp [hac] at ha
  | gt => cases cmp a c <;> rfl

namespace Value

variable {u v w x : Value} {o o' : Ordering}

theorem typeRank_le_of_isLE (h : (v.compareTotal w).isLE) : v.typeRank ≤ w.typeRank := by
  rw [compareTotal_eq] at h
  have hrank : (compare v.typeRank w.typeRank).isLE := Ordering.isLE_left_of_isLE_then h
  exact Std.isLE_compare.1 hrank

/-- Nothing but null stands before null. -/
theorem eq_null_of_isLE (h : (v.compareTotal .null).isLE) : v = .null := by
  have hrank := typeRank_le_of_isLE h
  cases v with
  | null => rfl
  | _ => simp [typeRank] at hrank

theorem typeRank_eq_of_compare? (h : v.compare? w = some o) : v.typeRank = w.typeRank := by
  cases v <;> cases w <;> first | rfl | cases h

/-- Floats aside, there is one order. -/
theorem compareTotal_of_compare? (h : v.compare? w = some o) (hw : ∀ y, w ≠ .float y) :
    v.compareTotal w = o := by
  unfold compareTotal
  split
  case h_1 x y => exact absurd rfl (hw y)
  case h_2 =>
    rw [h]
    rfl

/-- A value further on in the order of all values compares no lower with any value. -/
theorem compare?_mono (h : (u.compareTotal w).isLE) (hu : u.compare? v = some o)
    (hw : w.compare? v = some o') : (compare o o').isLE := by
  by_cases hv : ∃ z, v = .float z
  · obtain ⟨z, rfl⟩ := hv
    cases u with
    | float x =>
      cases w with
      | float y =>
        obtain ⟨-, -, rfl⟩ := Binary64.compare?_eq_some_iff_rank.1 hu
        obtain ⟨-, -, rfl⟩ := Binary64.compare?_eq_some_iff_rank.1 hw
        have hrank := Binary64.rank_le_rank (Binary64.compareTotal_isLE_iff.1 h)
        exact isLE_compare_compare (Std.isLE_compare.2 hrank) z.rank
      | _ => cases hw
    | _ => cases hu
  · have hfloat : ∀ z, v ≠ .float z := fun z hz => hv ⟨z, hz⟩
    rw [← compareTotal_of_compare? hu hfloat, ← compareTotal_of_compare? hw hfloat]
    exact isLE_compare_compare h v

/-- What stands between two values that can be compared with a third can be compared with it. -/
theorem exists_compare?_of_between (huw : (u.compareTotal w).isLE) (hwx : (w.compareTotal x).isLE)
    (hu : u.compare? v = some o) (hx : x.compare? v = some o') :
    ∃ o'', w.compare? v = some o'' := by
  have hrank : w.typeRank = v.typeRank := by
    have huv := typeRank_eq_of_compare? hu
    have hxv := typeRank_eq_of_compare? hx
    have hle := typeRank_le_of_isLE huw
    have hle' := typeRank_le_of_isLE hwx
    omega
  -- So `w` has the type of `v`, and only a float may still be a NaN.
  cases v with
  | null => cases u <;> cases hu
  | float z =>
    cases w with
    | float y =>
      cases u with
      | float a =>
        cases x with
        | float b =>
          obtain ⟨ha, hz, -⟩ := Binary64.compare?_eq_some_iff_rank.1 hu
          obtain ⟨hb, -, -⟩ := Binary64.compare?_eq_some_iff_rank.1 hx
          have hy := Binary64.isNaN_of_between (Binary64.compareTotal_isLE_iff.1 huw)
            (Binary64.compareTotal_isLE_iff.1 hwx) ha hb
          exact ⟨_, Binary64.compare?_eq_some_iff_rank.2 ⟨hy, hz, rfl⟩⟩
        | _ => cases hx
      | _ => cases hu
    | _ => cases hrank
  | _ => cases w <;> first | exact ⟨_, rfl⟩ | cases hrank

end Value

end RecordQuery

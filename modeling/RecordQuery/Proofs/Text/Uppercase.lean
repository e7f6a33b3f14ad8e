import RecordQuery.Text.Uppercase

/-!
# Letters that are raised

Raising changes the letters from `a` to `z` alone, and none of these is a capital.

* `toUpper_cases`, what raising does, and `isCapital_eq_isUpper`, the capitals among the first
  characters, from which `not_isCapital_of_lower` shows that capitals are left alone;
* `toUpper_of_isCapital` and `toUpper_inj`, which characters are told apart after raising.
-/

namespace RecordQuery.Text

variable {c d : Char}

theorem le_of_mem_capitalRanges : ∀ r ∈ capitalRanges, 0xC0 ≤ r.1 := by
  decide +kernel

/-- Only the letters from `a` to `z` are raised. -/
theorem toUpper_cases (c : Char) :
    c.toUpper = c ∧ ¬(97 ≤ c.toNat ∧ c.toNat ≤ 122) ∨
      c.toUpper.toNat = c.toNat - 32 ∧ 97 ≤ c.toNat ∧ c.toNat ≤ 122 := by
  unfold Char.toUpper
  split
  case isTrue h =>
    have hlow : 97 ≤ c.toNat := h.1
    have hhigh : c.toNat ≤ 122 := h.2
    refine .inr ⟨?_, hlow, hhigh⟩
    show (c.val + ('A'.val - 'a'.val)).toNat = c.val.toNat - 32
    have hval : c.val.toNat = c.toNat := rfl
    rw [UInt32.toNat_add, show ('A'.val - 'a'.val).toNat = 2 ^ 32 - 32 by decide]
    omega
  case isFalse h => exact .inl ⟨rfl, h⟩

theorem isUpper_iff : c.isUpper = true ↔ 65 ≤ c.toNat ∧ c.toNat ≤ 90 :=
  decide_eq_true_iff

/-- Below the first of the ranges the capitals are those from `A` to `Z`. -/
theorem isCapital_eq_isUpper (h : c.toNat < 0xC0) : isCapital c = c.isUpper := by
  refine Bool.or_eq_left_iff_imp.2 fun hrange => ?_
  obtain ⟨r, hr, hmem⟩ := List.any_eq_true.1 hrange
  have hle := le_of_mem_capitalRanges r hr
  simp only [Bool.and_eq_true, decide_eq_true_eq] at hmem
  omega

/-- A letter from `a` to `z` is no capital. -/
theorem not_isCapital_of_lower (h : 97 ≤ c.toNat ∧ c.toNat ≤ 122) : isCapital c = false := by
  rw [isCapital_eq_isUpper (by omega), Bool.eq_false_iff]
  intro hupper
  have := isUpper_iff.1 hupper
  omega

/-- A capital is not raised any more. -/
theorem toUpper_of_isCapital (h : isCapital c = true) : c.toUpper = c := by
  rcases toUpper_cases c with ⟨heq, -⟩ | ⟨-, hlower⟩
  · exact heq
  · rw [not_isCapital_of_lower hlower] at h
    cases h

theorem toUpper_eq_underscore_iff : c.toUpper = '_' ↔ c = '_' := by
  constructor
  · intro h
    rcases toUpper_cases c with ⟨heq, -⟩ | ⟨hnat, hlow, hhigh⟩
    · exact heq.symm.trans h
    · rw [h] at hnat
      have : '_'.toNat = 95 := rfl
      omega
  · rintro rfl
    rfl

/-- Characters that are no capitals are told apart after raising. -/
theorem toUpper_inj (hc : isCapital c = false) (hd : isCapital d = false)
    (h : c.toUpper = d.toUpper) : c = d := by
  have hupper : ∀ {c : Char}, isCapital c = false → ¬(65 ≤ c.toNat ∧ c.toNat ≤ 90) :=
    fun hc h => Bool.eq_false_iff.1 hc (isCapital_of_isUpper (isUpper_iff.2 h))
  have hc := hupper hc
  have hd := hupper hd
  have hnat := congrArg Char.toNat h
  rcases toUpper_cases c with ⟨hceq, hclow⟩ | ⟨hceq, hclow⟩ <;>
    rcases toUpper_cases d with ⟨hdeq, hdlow⟩ | ⟨hdeq, hdlow⟩
  · rwa [hceq, hdeq] at h
  · rw [hceq] at hnat
    omega
  · rw [hdeq] at hnat
    omega
  · exact Char.toNat_inj.1 (by omega)

end RecordQuery.Text

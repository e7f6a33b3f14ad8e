import Mathlib.Algebra.GroupWithZero.Nat
import RecordQuery.Binary64.Round
import RecordQuery.Proofs.Binary64.Numeric

/-!
# Integers as binary64 numbers

* `units_of_significand` and `nearest_of_significand`, which show that a number of 53 binary digits
  followed by zeros has a magnitude, and that rounding finds it;
* `ofNat_exact`, which shows that no natural number up to `2 ^ 53` is rounded or becomes infinite.
-/

namespace RecordQuery

/-- A quotient without a remainder is not rounded. -/
theorem roundHalfEven_mul (s : Nat) {d : Nat} (hd : 0 < d) : roundHalfEven (s * d) d = s := by
  rw [roundHalfEven, Nat.mul_mod_left, if_pos (by omega), Nat.mul_div_cancel s hd]

namespace Binary64

section Significand

variable {s : Nat} (hs : binade ≤ s) (hs' : s < 2 * binade) (k : Nat)
include hs hs'

theorem units_of_significand : units (k * binade + s) = s * 2 ^ k := by
  have hdiv : (k * binade + s) / binade - 1 = k := by
    unfold binade at *
    omega
  have hmod : binade + (k * binade + s) % binade = s := by
    unfold binade at *
    omega
  rw [units, if_neg (by omega), hdiv, hmod, Nat.shiftLeft_eq]

theorem nearest_of_significand : nearest (s * 2 ^ k) 1 = min infinity (k * binade + s) := by
  have hlog : (s * 2 ^ k / 1).log2 - 52 = k := by
    have hne : s * 2 ^ k ≠ 0 := Nat.mul_ne_zero (by unfold binade at hs; omega) (by simp)
    have hlog2 : (s * 2 ^ k).log2 = 52 + k := by
      rw [Nat.log2_eq_iff hne, Nat.pow_add, show 52 + k + 1 = 53 + k by omega, Nat.pow_add]
      exact ⟨Nat.mul_le_mul_right _ hs, Nat.mul_lt_mul_of_pos_right hs' (Nat.two_pow_pos k)⟩
    rw [Nat.div_one, hlog2]
    omega
  simp only [nearest]
  rw [hlog, Nat.shiftLeft_eq, Nat.one_mul, roundHalfEven_mul s (Nat.two_pow_pos k)]

end Significand

/-- A positive natural number up to `2 ^ 53` has 53 binary digits once zeros are put behind it. -/
theorem exists_significand {n : Nat} (hn : n ≠ 0) (h : n ≤ 2 * binade) (e : Nat) :
    ∃ s k, binade ≤ s ∧ s < 2 * binade ∧ k ≤ e + 53 ∧ n * 1 <<< (e + 52) = s * 2 ^ k := by
  rw [Nat.one_shiftLeft]
  rcases Nat.lt_or_eq_of_le h with hlt | rfl
  · have hlog : n.log2 ≤ 52 := by
      have := (Nat.log2_lt hn).2 (show n < 2 ^ 53 from hlt)
      omega
    have hpow : 2 ^ n.log2 * 2 ^ (52 - n.log2) = binade := by
      rw [← Nat.pow_add, show n.log2 + (52 - n.log2) = 52 by omega]
      rfl
    refine ⟨n * 2 ^ (52 - n.log2), n.log2 + e, ?_, ?_, by omega, ?_⟩
    · rw [← hpow]
      exact Nat.mul_le_mul_right _ (Nat.log2_self_le hn)
    · rw [← hpow, ← Nat.mul_assoc, ← Nat.pow_add_one']
      exact Nat.mul_lt_mul_of_pos_right Nat.lt_log2_self (Nat.two_pow_pos _)
    · rw [Nat.mul_assoc, ← Nat.pow_add, show 52 - n.log2 + (n.log2 + e) = e + 52 by omega]
  · refine ⟨binade, e + 53, Nat.le_refl _, by decide, Nat.le_refl _, ?_⟩
    rw [Nat.mul_comm 2, Nat.mul_assoc, ← Nat.pow_add_one']

/-- No natural number up to `2 ^ 53` is rounded, and none becomes infinite. -/
theorem ofNat_exact {n : Nat} (h : n ≤ 2 * binade) :
    units (ofNat n) = n * one ∧ ofNat n < infinity := by
  by_cases hn : n = 0
  · subst hn
    decide
  obtain ⟨s, k, hs, hs', hk, heq⟩ := exists_significand hn h 1022
  change n * one = s * 2 ^ k at heq
  have hlt : k * binade + s < infinity := by
    unfold binade infinity at *
    omega
  rw [ofNat, heq, nearest_of_significand hs hs', Nat.min_eq_right (Nat.le_of_lt hlt)]
  exact ⟨units_of_significand hs hs' k, hlt⟩

theorem magnitude_ofMagnitude {m : Nat} (h : m ≤ infinity) (negative : Bool) :
    (ofMagnitude negative m).magnitude = m := by
  unfold magnitude ofMagnitude
  unfold infinity at h
  unfold signWeight
  rw [UInt64.toNat_ofNat']
  cases negative <;> simp <;> omega

end Binary64

end RecordQuery

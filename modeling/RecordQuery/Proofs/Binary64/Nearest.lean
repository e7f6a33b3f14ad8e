import RecordQuery.Proofs.Binary64.Integer
import RecordQuery.Proofs.Text.Digits

/-!
# Rounding to the nearest number

Rounding cuts a quotient down to 53 binary digits. No number with more room in its exponent is
nearer, since the numbers of a binade stand closest to each other in its lowest part.

* `roundHalfEven_nearest`, which shows that no natural number is nearer to a quotient than the one
  that it is rounded to;
* `Binary64.units_nearest` and `Binary64.nearest_nearest`, the number that a quotient is rounded to,
  and that none is nearer;
* `Binary64.IsInteger` and `Binary64.IsNearest`, a number that is an integer or the nearest to it;
* `Binary64.ofMagnitude_isNearest`, which shows that integers are rounded to the nearest number;
* `Binary64.ofDecimal_zero`, which shows that digits without an exponent are rounded like the
  integer that they write.
-/

namespace RecordQuery

/-- The distance of two natural numbers. -/
def distance (a b : Nat) : Nat :=
  (a - b) + (b - a)

/-- The integer with a sign and a size. -/
def signed (negative : Bool) (n : Nat) : Int :=
  if negative then -(n : Int) else n

theorem signed_natAbs (n : Int) : signed (n < 0) n.natAbs = n := by
  by_cases hn : n < 0
  · rw [decide_eq_true hn, signed, if_pos rfl]
    omega
  · rw [decide_eq_false hn, signed, if_neg Bool.false_ne_true]
    omega

theorem signed_mul (negative : Bool) (m n : Nat) :
    signed negative (m * n) = signed negative m * n := by
  cases negative
  · exact Int.natCast_mul m n
  · exact (congrArg Neg.neg (Int.natCast_mul m n)).trans (Int.neg_mul m n).symm

theorem roundHalfEven_cases (n d : Nat) :
    roundHalfEven n d = n / d ∧ 2 * (n % d) ≤ d ∨
      roundHalfEven n d = n / d + 1 ∧ d ≤ 2 * (n % d) := by
  unfold roundHalfEven
  split
  · exact .inl ⟨rfl, by omega⟩
  · split
    · exact .inr ⟨rfl, by omega⟩
    · rcases Nat.mod_two_eq_zero_or_one (n / d) with heven | hodd
      · exact .inl ⟨by omega, by omega⟩
      · exact .inr ⟨by omega, by omega⟩

theorem roundHalfEven_nearest (n : Nat) {d : Nat} (hd : 0 < d) (j : Nat) :
    distance (roundHalfEven n d * d) n ≤ distance (j * d) n := by
  have hsplit : n / d * d + n % d = n := Nat.div_add_mod' n d
  have hmod := Nat.mod_lt n hd
  -- A multiple is at most the one below the quotient, or at least the one above it.
  have hj : j * d ≤ n / d * d ∨ n / d * d + d ≤ j * d := by
    rcases Nat.lt_or_ge (n / d) j with h | h
    · exact .inr (Nat.succ_mul _ d ▸ Nat.mul_le_mul_right d h)
    · exact .inl (Nat.mul_le_mul_right d h)
  unfold distance
  rcases roundHalfEven_cases n d with ⟨hq, hr⟩ | ⟨hq, hr⟩
  · rw [hq]
    omega
  · rw [hq, Nat.succ_mul]
    omega

namespace Binary64

/-! ### Quotients -/

section Quotients

variable {n d : Nat}

/-- The number of binary digits of a quotient beyond 53. -/
def excess (n d : Nat) : Nat :=
  (n / d).log2 - 52

theorem nearest_eq (n d : Nat) :
    nearest n d =
      min infinity (excess n d * binade + roundHalfEven n (d * 2 ^ excess n d)) := by
  rw [← Nat.shiftLeft_eq]
  rfl

theorem nearest_le_infinity (n d : Nat) : nearest n d ≤ infinity :=
  Nat.min_le_left _ _

theorem div_lt_two_binade (n d : Nat) : n / (d * 2 ^ excess n d) < 2 * binade := by
  rw [← Nat.div_div_eq_div_mul]
  refine Nat.div_lt_of_lt_mul ?_
  calc n / d < 2 ^ ((n / d).log2 + 1) := Nat.lt_log2_self
    _ ≤ 2 ^ (excess n d + 53) := Nat.pow_le_pow_right (by omega) (by unfold excess; omega)
    _ = 2 ^ excess n d * (2 * binade) := Nat.pow_add 2 _ 53

theorem binade_le_div (h : 0 < excess n d) : binade ≤ n / (d * 2 ^ excess n d) := by
  have hlog : (n / d).log2 = 52 + excess n d := by
    unfold excess at *
    omega
  have hne : n / d ≠ 0 := by
    intro hzero
    rw [hzero, Nat.log2_zero] at hlog
    omega
  rw [← Nat.div_div_eq_div_mul, Nat.le_div_iff_mul_le (Nat.two_pow_pos _)]
  calc binade * 2 ^ excess n d = 2 ^ (52 + excess n d) := (Nat.pow_add 2 52 _).symm
    _ = 2 ^ (n / d).log2 := by rw [hlog]
    _ ≤ n / d := Nat.log2_self_le hne

/-- A significand of 53 digits may be rounded up to the least number of the next binade. -/
theorem units_of_rounded {s k : Nat} (hs : s ≤ 2 * binade) (hk : 0 < k → binade ≤ s) :
    units (k * binade + s) = s * 2 ^ k := by
  by_cases hlt : s < binade
  · obtain rfl : k = 0 := by omega
    simp [units, hlt]
  · rcases Nat.lt_or_eq_of_le hs with hs | rfl
    · exact units_of_significand (by omega) hs k
    · have hnext := units_of_significand (Nat.le_refl binade) (by decide) (k + 1)
      rw [Nat.succ_mul, Nat.pow_succ] at hnext
      rw [Nat.two_mul, ← Nat.add_assoc, hnext, ← Nat.two_mul, Nat.mul_comm 2, Nat.mul_assoc,
        Nat.mul_comm 2]

theorem units_nearest (h : nearest n d < infinity) :
    units (nearest n d) = roundHalfEven n (d * 2 ^ excess n d) * 2 ^ excess n d := by
  have hlt := div_lt_two_binade n d
  have hle := binade_le_div (n := n) (d := d)
  rw [nearest_eq] at h ⊢
  rw [Nat.min_eq_right (by omega)]
  rcases roundHalfEven_cases n (d * 2 ^ excess n d) with ⟨hq, -⟩ | ⟨hq, -⟩
  · exact units_of_rounded (by omega) fun hk => by have := hle hk; omega
  · exact units_of_rounded (by omega) fun hk => by have := hle hk; omega

/-- A number is a multiple of the step of a binade, or below it. -/
theorem units_eq_mul_or_lt (m k : Nat) :
    (∃ j, units m = j * 2 ^ k) ∨ 0 < k ∧ units m < binade * 2 ^ k := by
  rcases Nat.eq_zero_or_pos k with rfl | hk
  · exact .inl ⟨units m, by rw [Nat.pow_zero, Nat.mul_one]⟩
  · by_cases hm : m < k * binade + binade
    · refine .inr ⟨hk, ?_⟩
      rw [← units_of_significand (Nat.le_refl binade) (by decide) k]
      exact units_lt_units hm
    · have hdiv : k + 1 ≤ m / binade := by
        rw [Nat.le_div_iff_mul_le (by decide), Nat.succ_mul]
        omega
      refine .inl ⟨(binade + m % binade) * 2 ^ (m / binade - 1 - k), ?_⟩
      rw [units, if_neg (by omega), Nat.shiftLeft_eq, Nat.mul_assoc, ← Nat.pow_add,
        show m / binade - 1 - k + k = m / binade - 1 by omega]

/-- No finite number is nearer to a quotient than the one that it is rounded to. -/
theorem nearest_nearest (hd : 0 < d) (h : nearest n d < infinity) (m : Nat) :
    distance (units (nearest n d) * d) n ≤ distance (units m * d) n := by
  have hpos : 0 < d * 2 ^ excess n d := Nat.mul_pos hd (Nat.two_pow_pos _)
  have hround := roundHalfEven_nearest n hpos
  have hcomm : ∀ j, j * 2 ^ excess n d * d = j * (d * 2 ^ excess n d) := by
    intro j
    rw [Nat.mul_assoc, Nat.mul_comm d]
  rw [units_nearest h, hcomm]
  rcases units_eq_mul_or_lt m (excess n d) with ⟨j, hj⟩ | ⟨hk, hlt⟩
  · rw [hj, hcomm]
    exact hround j
  · -- A number below the binade is further away than the least number of the binade.
    have hleast := hround binade
    have hn : binade * (d * 2 ^ excess n d) ≤ n :=
      Nat.mul_le_of_le_div _ _ _ (binade_le_div hk)
    have hm : units m * d ≤ binade * (d * 2 ^ excess n d) := by
      rw [← hcomm]
      exact Nat.mul_le_mul_right d (Nat.le_of_lt hlt)
    unfold distance at *
    omega

end Quotients

/-! ### Integers -/

/-- The number is finite and equals the integer. -/
def IsInteger (x : Binary64) (n : Int) : Prop :=
  x.isFinite = true ∧ x.numeric = n * one

/-- The number is finite, and no finite number is nearer to the integer. -/
def IsNearest (x : Binary64) (n : Int) : Prop :=
  x.isFinite = true ∧
    ∀ y : Binary64, y.isFinite = true →
      (x.numeric - n * one).natAbs ≤ (y.numeric - n * one).natAbs

/-- What is nearest to an integer equals it if any number does. -/
theorem IsNearest.isInteger_iff {x : Binary64} {n : Int} (h : x.IsNearest n) :
    x.IsInteger n ↔ ∃ y : Binary64, y.IsInteger n := by
  constructor
  · exact fun hx => ⟨x, hx⟩
  · rintro ⟨y, hfinite, hy⟩
    have hle := h.2 y hfinite
    exact ⟨h.1, by omega⟩

section Magnitudes

variable {m : Nat} (h : m ≤ infinity) (negative : Bool)
include h

theorem negative_ofMagnitude : (ofMagnitude negative m).negative = negative := by
  have hlt : m < signWeight := Nat.lt_of_le_of_lt h (by decide)
  unfold Binary64.negative ofMagnitude
  unfold signWeight at hlt ⊢
  rw [UInt64.toNat_ofNat']
  cases negative <;> simp <;> omega

theorem numeric_ofMagnitude : (ofMagnitude negative m).numeric = signed negative (units m) := by
  rw [numeric, negative_ofMagnitude h, magnitude_ofMagnitude h, signed]

theorem isFinite_ofMagnitude_iff : (ofMagnitude negative m).isFinite = true ↔ m < infinity := by
  rw [isFinite, magnitude_ofMagnitude h, decide_eq_true_iff]

end Magnitudes

section Rounding

variable (negative : Bool) {n : Nat}

/-- An integer of any size is rounded to the nearest number, unless it becomes infinite. -/
theorem ofMagnitude_isNearest (h : ofNat n < infinity) :
    (ofMagnitude negative (ofNat n)).IsNearest (signed negative n) := by
  have hle := Nat.le_of_lt h
  refine ⟨(isFinite_ofMagnitude_iff hle negative).2 h, fun y _ => ?_⟩
  have hnearest := nearest_nearest (by decide) h y.magnitude
  rw [← ofNat, Nat.mul_one, Nat.mul_one] at hnearest
  rw [numeric_ofMagnitude hle, ← signed_mul, numeric]
  unfold distance at hnearest
  unfold signed
  -- A candidate of the other sign is further away than the one of the same size.
  cases negative <;> cases y.negative <;> simp only [if_true, if_false, Bool.false_eq_true] <;>
    omega

/-- An integer up to `2 ^ 53` in size is a number. -/
theorem ofMagnitude_isInteger (h : n ≤ 2 * binade) :
    (ofMagnitude negative (ofNat n)).IsInteger (signed negative n) := by
  obtain ⟨hunits, hlt⟩ := ofNat_exact h
  have hle := Nat.le_of_lt hlt
  exact ⟨(isFinite_ofMagnitude_iff hle negative).2 hlt,
    by rw [numeric_ofMagnitude hle, hunits, signed_mul]⟩

theorem ofMagnitude_zero_isInteger : (ofMagnitude negative 0).IsInteger 0 := by
  have hzero : ofNat 0 = 0 := by decide
  have hsigned : signed negative 0 = 0 := by cases negative <;> rfl
  have hinteger := ofMagnitude_isInteger negative (Nat.zero_le (2 * binade))
  rwa [hzero, hsigned] at hinteger

theorem ofInt_isInteger {n : Int} (h : n.natAbs ≤ 2 * binade) : (ofInt n).IsInteger n := by
  have hinteger := ofMagnitude_isInteger (n < 0) h
  rwa [signed_natAbs] at hinteger

end Rounding

/-! ### Many digits -/

/-- A quotient of so many binary digits has at most 53 that are not in excess. -/
theorem excess_of_pow_le {n d e : Nat} (h : Nat.pow 2 e ≤ n / d) : e ≤ excess n d + 52 := by
  have hne : n / d ≠ 0 := Nat.ne_of_gt (Nat.lt_of_lt_of_le (Nat.two_pow_pos e) h)
  have hlog : e ≤ (n / d).log2 := (Nat.le_log2 hne).2 h
  unfold excess
  omega

/-- From a power of two on every quotient becomes infinite. -/
theorem nearest_of_pow_le {n d : Nat} (h : Nat.pow 2 2099 ≤ n / d) : nearest n d = infinity := by
  have hexcess := excess_of_pow_le h
  rw [nearest_eq, Nat.min_eq_left]
  refine Nat.le_trans ?_ (Nat.le_add_right _ _)
  unfold infinity binade
  omega

/-- An integer with many digits becomes infinite. -/
theorem ofNat_of_lt_digitCount {k n : Nat} (hk : 0 < k)
    (hbound : Nat.pow 2 2099 ≤ Nat.pow 10 k * one) (h : k < digitCount n) :
    ofNat n = infinity := by
  have hlarge : Nat.pow 10 k ≤ n :=
    Nat.le_of_not_lt fun hlt => Nat.not_le.2 h (Text.length_decimal_le hk hlt)
  refine nearest_of_pow_le ?_
  rw [Nat.div_one]
  exact Nat.le_trans hbound (Nat.mul_le_mul_right one hlarge)

/-- An integer without an exponent is rounded like the number that it is, however many digits it
has. -/
theorem ofDecimal_zero (n : Nat) : ofDecimal n 0 = ofNat n := by
  by_cases hn : n = 0
  · subst hn
    decide
  simp only [ofDecimal, hn, decide_false, Bool.false_or, decide_eq_true_eq]
  rw [if_neg (by omega)]
  split
  case isTrue hlong =>
    have hcount : 310 < digitCount n := by omega
    exact (ofNat_of_lt_digitCount (by decide) (by decide +kernel) hcount).symm
  case isFalse =>
    rw [show (-(0 : Int)).toNat = 0 from rfl, show (0 : Int).toNat = 0 from rfl,
      show Nat.pow 10 0 = 1 from rfl, Nat.mul_one, ofNat]

end Binary64

end RecordQuery

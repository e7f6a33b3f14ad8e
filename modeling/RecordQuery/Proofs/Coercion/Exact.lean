import RecordQuery.Proofs.Coercion.Type
import RecordQuery.Proofs.Json.Integer

/-!
# Integers as operands of float fields

An integer is refused where a float might not be exact, but only where it is known to be an integer:
a string is read as the number that it writes, and a JSON number that 64 bits do not hold is no
integer any more.

* `Operand.Spells` and `Operand.IsString`, the ways to spell an integer;
* `coerce_exact`, which shows that every spelling of an integer up to `2 ^ 53` is exact;
* `coerce_inexact`, `coerce_of_not_fitsInteger` and `coerce_string`, what becomes of larger integers;
* `coerce_spelled_integer`, which sums these up.
-/

namespace RecordQuery

open Binary64 Numeral Outcome Text

namespace Operand

/-- The operand is an integer with a type, what a JSON text that writes an integer is read as, or a
string that writes one. -/
inductive Spells : Operand → Int → Prop
  | typed (k : Int64) : Spells (.typed (.integer k)) k.toInt
  | number {text : String} {n : Int} {o : Operand} (h : WritesInteger text.toList n)
    (hread : Reader.decodeText reader text = .ok o) : Spells o n
  | string {s : String} {n : Int} (h : WritesInteger s.toList n) :
    Spells (.literal ⟨.string s, trivial⟩) n

/-- The operand is a JSON string. -/
def IsString (o : Operand) : Prop :=
  ∃ s, o = .literal ⟨.string s, trivial⟩

end Operand

/-! ### Each spelling -/

section Spellings

variable (field : String)

theorem coerce_typed_integer (k : Int64) :
    coerce field .float (.typed (.integer k)) =
      if k.toInt.natAbs ≤ exactIntegerLimit then .ok (.float (.ofInt k.toInt))
      else .error (.coercion field .float (Operand.typed (.integer k)).describe .inexactInteger) := by
  simp only [coerce, coerceValue]
  split <;> rfl

theorem coerce_literal_integer (n : Int) (hn) :
    coerce field .float (.literal ⟨.number (.integer n), hn⟩) =
      if n.natAbs ≤ exactIntegerLimit then .ok (.float (.ofInt n))
      else .error (.coercion field .float
        (Operand.literal ⟨.number (.integer n), hn⟩).describe .inexactInteger) := by
  simp only [coerce, coerceJson, coerceFloat]
  split <;> rfl

theorem coerce_literal_float (x : Binary64) (hx) :
    coerce field .float (.literal ⟨.number (.float x), hx⟩) = .ok (.float x) := by
  have hfinite : x.isFinite = true := hx
  simp only [coerce, coerceJson, coerceFloat, finite, hfinite, if_true]
  rfl

theorem coerce_literal_string {s : String} {x : Binary64} (h : Binary64.read? s.toList = some x) :
    coerce field .float (.literal ⟨.string s, trivial⟩) =
      if x.isFinite then .ok (.float x)
      else .error (.coercion field .float
        (Operand.literal ⟨.string s, trivial⟩).describe .notFinite) := by
  simp only [coerce, coerceJson, coerceFloat, h, finite]
  split <;> rfl

end Spellings

theorem exactIntegerLimit_eq : exactIntegerLimit = 2 * binade := rfl

theorem fitsInteger_of_le {n : Int} (h : n.natAbs ≤ exactIntegerLimit) : fitsInteger n = true := by
  rw [fitsInteger, Bool.and_eq_true, decide_eq_true_eq, decide_eq_true_eq]
  unfold exactIntegerLimit at h
  constructor
  · show (-9223372036854775808 : Int) ≤ n
    omega
  · show n < 18446744073709551616
    omega

theorem fitsInteger_toInt (k : Int64) : fitsInteger k.toInt = true :=
  (Value.integer k).toJson_canonical

section Sizes

variable {o : Operand} {n : Int} (h : o.Spells n) (field : String)
include h

/-- An integer up to `2 ^ 53` in size is exact, however it is spelled. -/
theorem coerce_exact (hn : n.natAbs ≤ exactIntegerLimit) :
    ∃ x, coerce field .float o = .ok (.float x) ∧ x.IsInteger n := by
  have hlimit : n.natAbs ≤ 2 * binade := exactIntegerLimit_eq ▸ hn
  cases h with
  | typed k => exact ⟨_, by rw [coerce_typed_integer, if_pos hn], ofInt_isInteger hlimit⟩
  | number h hread =>
    obtain ⟨m, hm, rfl, hrepresents⟩ := Operand.represents_of_decodeText h hread
    cases hrepresents with
    | integer => exact ⟨_, by rw [coerce_literal_integer, if_pos hn], ofInt_isInteger hlimit⟩
    | negativeZero hzero =>
      subst hzero
      exact ⟨_, coerce_literal_float field _ hm, ofMagnitude_zero_isInteger true⟩
    | float hfit => exact absurd (fitsInteger_of_le hn) (by simp [hfit])
  | string h =>
    obtain ⟨negative, hsigned, hread⟩ := Binary64.read?_of_writesInteger h
    have hinteger := ofMagnitude_isInteger negative hlimit
    rw [← hsigned] at hinteger
    exact ⟨_, by rw [coerce_literal_string field hread, if_pos hinteger.1], hinteger⟩

/-- A larger integer is refused where it is known to be one. -/
theorem coerce_inexact (hn : exactIntegerLimit < n.natAbs) (hstring : ¬o.IsString)
    (hfit : fitsInteger n = true) :
    coerce field .float o = .error (.coercion field .float o.describe .inexactInteger) := by
  cases h with
  | typed k => rw [coerce_typed_integer, if_neg (Nat.not_le.2 hn)]
  | number h hread =>
    obtain ⟨m, hm, rfl, hrepresents⟩ := Operand.represents_of_decodeText h hread
    cases hrepresents with
    | integer => rw [coerce_literal_integer, if_neg (Nat.not_le.2 hn)]
    | negativeZero hzero =>
      subst hzero
      cases hn
    | float hunfit => exact absurd hfit (by simp [hunfit])
  | string h => exact absurd ⟨_, rfl⟩ hstring

/-- An integer that 64 bits do not hold is accepted as the number that it is read as. -/
theorem coerce_of_not_fitsInteger (hstring : ¬o.IsString) (hunfit : fitsInteger n = false) :
    ∃ x hx, o = .literal ⟨.number (.float x), hx⟩ ∧ coerce field .float o = .ok (.float x) := by
  cases h with
  | typed k => exact absurd (fitsInteger_toInt k) (by simp [hunfit])
  | number h hread =>
    obtain ⟨m, hm, rfl, hrepresents⟩ := Operand.represents_of_decodeText h hread
    cases hrepresents with
    | integer hfit => exact absurd hfit (by simp [hunfit])
    | negativeZero => exact ⟨_, hm, rfl, coerce_literal_float field _ hm⟩
    | float _ x => exact ⟨x, hm, rfl, coerce_literal_float field x hm⟩
  | string h => exact absurd ⟨_, rfl⟩ hstring

/-- A string is accepted as the nearest number, exact or not, unless this is infinite. -/
theorem coerce_string (hstring : o.IsString) :
    (∃ x, coerce field .float o = .ok (.float x) ∧ x.IsNearest n ∧
        (x.IsInteger n ↔ ∃ y : Binary64, y.IsInteger n)) ∨
      coerce field .float o = .error (.coercion field .float o.describe .notFinite) := by
  obtain ⟨s, rfl⟩ := hstring
  cases h with
  | number h hread =>
    obtain ⟨m, hm, hliteral, -⟩ := Operand.represents_of_decodeText h hread
    cases hliteral
  | string h =>
    obtain ⟨negative, hsigned, hread⟩ := Binary64.read?_of_writesInteger h
    rw [coerce_literal_string field hread]
    split
    case isTrue hfinite =>
      have hlt := (isFinite_ofMagnitude_iff (nearest_le_infinity _ _) negative).1 hfinite
      have hnearest := ofMagnitude_isNearest negative hlt
      rw [← hsigned] at hnearest
      exact .inl ⟨_, rfl, hnearest, hnearest.isInteger_iff⟩
    case isFalse => exact .inr rfl

end Sizes

/-- An integer up to `2 ^ 53` in size becomes the number that equals it, however it is spelled. A
larger one is refused if it has a type or is a JSON number that 64 bits hold. A JSON number that
they do not hold is accepted as what it is read as, and a string as the nearest number, whether this
is the integer or not. -/
theorem coerce_spelled_integer {o : Operand} {n : Int} (h : o.Spells n) (field : String) :
    (n.natAbs ≤ exactIntegerLimit →
      ∃ x, coerce field .float o = .ok (.float x) ∧ x.IsInteger n) ∧
    (exactIntegerLimit < n.natAbs → ¬o.IsString → fitsInteger n = true →
      coerce field .float o = .error (.coercion field .float o.describe .inexactInteger)) ∧
    (¬o.IsString → fitsInteger n = false →
      ∃ x hx, o = .literal ⟨.number (.float x), hx⟩ ∧ coerce field .float o = .ok (.float x)) ∧
    (o.IsString →
      (∃ x, coerce field .float o = .ok (.float x) ∧ x.IsNearest n ∧
        (x.IsInteger n ↔ ∃ y : Binary64, y.IsInteger n)) ∨
      coerce field .float o = .error (.coercion field .float o.describe .notFinite)) :=
  ⟨coerce_exact h field, coerce_inexact h field, coerce_of_not_fitsInteger h field,
    coerce_string h field⟩

/-- The digits of `2 ^ 53` are exact, and one more with a type is refused. -/
theorem coerce_spelled_integer_at_limit :
    (∃ x, coerce "ratio" .float (.literal ⟨.string "-9007199254740992", trivial⟩) = .ok (.float x) ∧
      x.IsInteger (-9007199254740992)) ∧
    coerce "ratio" .float (.typed (.integer 9007199254740993)) = .error
      (.coercion "ratio" .float "9007199254740993" .inexactInteger) := by
  have hstring : Operand.Spells (.literal ⟨.string "-9007199254740992", trivial⟩)
      (-9007199254740992) := .string (.minus (.of_all (by decide +kernel) (by decide +kernel)))
  have htyped : Operand.Spells (.typed (.integer 9007199254740993)) 9007199254740993 := .typed _
  have hdescribe : (Operand.typed (.integer 9007199254740993)).describe = "9007199254740993" := by
    decide +kernel
  refine ⟨(coerce_spelled_integer hstring "ratio").1 (by decide), ?_⟩
  rw [← hdescribe]
  exact (coerce_spelled_integer htyped "ratio").2.1 (by decide) (by rintro ⟨s, ⟨⟩⟩) (by decide)

/-- The digits of `2 ^ 53 + 1` in a string and those of `2 ^ 64 + 1` in a JSON text are rounded. -/
theorem coerce_spelled_integer_rounded :
    (∃ o x, Operand.Spells o 9007199254740993 ∧ coerce "ratio" .float o = .ok (.float x) ∧
      ¬x.IsInteger 9007199254740993) ∧
    ∃ o x, Reader.decodeText Operand.reader "18446744073709551617" = .ok o ∧
      o.Spells 18446744073709551617 ∧ coerce "ratio" .float o = .ok (.float x) ∧
      ¬x.IsInteger 18446744073709551617 := by
  have hliteral : WritesInteger "18446744073709551617".toList 18446744073709551617 :=
    .unsigned (.of_all (by decide +kernel) (by decide +kernel))
  have hread : Reader.decodeText Operand.reader "18446744073709551617" =
      .ok (.literal ⟨.number (.float ⟨0x43F0000000000000⟩), rfl⟩) :=
    (Operand.decodeText_eq_ok_iff hliteral).2 ⟨_, _, by decide +kernel, rfl⟩
  refine ⟨⟨.literal ⟨.string "9007199254740993", trivial⟩, ⟨0x4340000000000000⟩, ?_, ?_, ?_⟩,
    _, ⟨0x43F0000000000000⟩, hread, .number hliteral hread, coerce_literal_float _ _ _, ?_⟩
  · exact .string (.unsigned (.of_all (by decide +kernel) (by decide +kernel)))
  · decide +kernel
  · rintro ⟨-, hrounded⟩
    revert hrounded
    decide +kernel
  · rintro ⟨-, hrounded⟩
    revert hrounded
    decide +kernel

end RecordQuery

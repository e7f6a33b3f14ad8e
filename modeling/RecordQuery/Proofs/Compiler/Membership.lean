import RecordQuery.Proofs.Compiler.Success
import RecordQuery.Proofs.Predicate.Test

/-!
# A list of values as so many equalities

A filter that looks a field up in a list is compiled by a way of its own, through values without
repetitions. It is compiled, and holds, as the filters by `=` for the operands of the list.

* `membershipTest_holds_iff_valueTest`, what the test of a list holds of;
* `Compiler.exists_compileFilter_isIn_iff` and `Compiler.compileFilter_isIn_eq_error_iff`, whether a
  list is compiled and how it fails, and `Compiler.compileFilter_isIn_holds_iff`, where it holds;
* `Compiler.compileFilter_isIn_spec`, which joins them and shows that neither the order of the
  operands matters nor how often each is listed.
-/

namespace RecordQuery

open Outcome

variable {R : Type}

/-- A field has one of some values if it is equal to one of them, whichever are dropped as
repetitions. -/
theorem membershipTest_holds_iff_valueTest {a : Accessor R} {vs : List Value} {r : R} :
    (membershipTest a .isIn (.ofList vs)).holds r = true ↔
      ∃ v ∈ vs, (valueTest a .eq v).holds r = true := by
  show (ValueSet.ofList vs).contains (a.value r) = true ↔
    ∃ v ∈ vs, (a.value r).equal v = true
  simp only [ValueSet.contains_ofList, Value.equal_iff, Value.same_comm (w := a.value r)]

/-- The same values in another order, or some of them more often, make the same test. -/
theorem membershipTest_congr (a : Accessor R) {vs ws : List Value} (h : ∀ v, v ∈ vs ↔ v ∈ ws) :
    membershipTest a .isIn (.ofList vs) = membershipTest a .isIn (.ofList ws) := by
  have hholds : ∀ r, (membershipTest a .isIn (.ofList vs)).holds r =
      (membershipTest a .isIn (.ofList ws)).holds r := by
    intro r
    rw [Bool.eq_iff_iff, membershipTest_holds_iff_valueTest, membershipTest_holds_iff_valueTest]
    simp only [h]
  exact congrArg Predicate.mk (funext hholds)

namespace Compiler

variable {c : Compiler R} {field : String} {a : Accessor R}

theorem compileFilter_isIn (ha : c.fields.find? field = some a) {operands : List Operand}
    (hlength : operands.length ≤ c.limits.maxValues) :
    c.compileFilter (.membership field .isIn operands) =
      (operands.mapM (coerce field a.type)).map fun vs =>
        membershipTest a .isIn (.ofList vs) :=
  compileFilter_membership ha rfl hlength

theorem exists_compileFilter_eq_iff (ha : c.fields.find? field = some a) {o : Operand} :
    (∃ q, c.compileFilter (.value field .eq o) = .ok q) ↔ ∃ v, coerce field a.type o = .ok v := by
  rw [compileFilter_eq ha, exists_map_eq_ok_iff]

theorem exists_compileFilter_isIn_iff (ha : c.fields.find? field = some a)
    {operands : List Operand} (hlength : operands.length ≤ c.limits.maxValues) :
    (∃ p, c.compileFilter (.membership field .isIn operands) = .ok p) ↔
      ∀ o ∈ operands, ∃ q, c.compileFilter (.value field .eq o) = .ok q := by
  simp only [exists_compileFilter_eq_iff ha]
  rw [compileFilter_isIn ha hlength, exists_map_eq_ok_iff, exists_mapM_eq_ok_iff]

theorem compileFilter_isIn_eq_error_iff (ha : c.fields.find? field = some a)
    {operands : List Operand} (hlength : operands.length ≤ c.limits.maxValues)
    {e : CompileError} :
    c.compileFilter (.membership field .isIn operands) = .error e ↔
      ∃ before o after, operands = before ++ o :: after ∧
        (∀ o' ∈ before, ∃ q, c.compileFilter (.value field .eq o') = .ok q) ∧
        c.compileFilter (.value field .eq o) = .error e := by
  simp only [exists_compileFilter_eq_iff ha]
  simp only [compileFilter_isIn ha hlength, compileFilter_eq ha, map_eq_error_iff,
    mapM_eq_error_iff]

theorem compileFilter_isIn_holds_iff (ha : c.fields.find? field = some a)
    {operands : List Operand} (hlength : operands.length ≤ c.limits.maxValues) {p : Predicate R}
    (hp : c.compileFilter (.membership field .isIn operands) = .ok p) (r : R) :
    p.holds r = true ↔
      ∃ o ∈ operands, ∃ q, c.compileFilter (.value field .eq o) = .ok q ∧ q.holds r = true := by
  rw [compileFilter_isIn ha hlength] at hp
  obtain ⟨vs, hvs, rfl⟩ := map_eq_ok_iff.1 hp
  rw [membershipTest_holds_iff_valueTest]
  simp only [mem_iff_of_mapM_eq_ok hvs, compileFilter_eq ha, map_eq_ok_iff]
  constructor
  · rintro ⟨v, ⟨o, ho, hv⟩, hr⟩
    exact ⟨o, ho, _, ⟨v, hv, rfl⟩, hr⟩
  · rintro ⟨o, ho, _, ⟨v, hv, rfl⟩, hr⟩
    exact ⟨v, ⟨o, ho, hv⟩, hr⟩

/-- The same operands in another order, or some of them more often, are compiled to the same. -/
theorem compileFilter_isIn_congr (ha : c.fields.find? field = some a)
    {operands operands' : List Operand} (hlength : operands.length ≤ c.limits.maxValues)
    (hlength' : operands'.length ≤ c.limits.maxValues) (h : ∀ o, o ∈ operands' ↔ o ∈ operands)
    {p : Predicate R} (hp : c.compileFilter (.membership field .isIn operands) = .ok p) :
    c.compileFilter (.membership field .isIn operands') = .ok p := by
  rw [compileFilter_isIn ha hlength] at hp
  rw [compileFilter_isIn ha hlength']
  obtain ⟨vs, hvs, rfl⟩ := map_eq_ok_iff.1 hp
  have hall : ∀ o ∈ operands', ∃ v, coerce field a.type o = .ok v := fun o ho =>
    exists_mapM_eq_ok_iff.1 ⟨vs, hvs⟩ o ((h o).1 ho)
  obtain ⟨ws, hws⟩ := exists_mapM_eq_ok_iff.2 hall
  refine map_eq_ok_iff.2 ⟨ws, hws, membershipTest_congr a fun v => ?_⟩
  simp only [mem_iff_of_mapM_eq_ok hvs, mem_iff_of_mapM_eq_ok hws, h]

/-- Looking a field up in a list of operands is compiled if the equality with each of them is, and
fails as the first of these that fails. Then it holds where one of the equalities does, and a list
of the same operands in any order, each as often as the limit allows, is compiled to the same. -/
theorem compileFilter_isIn_spec (ha : c.fields.find? field = some a) {operands : List Operand}
    (hlength : operands.length ≤ c.limits.maxValues) :
    ((∃ p, c.compileFilter (.membership field .isIn operands) = .ok p) ↔
      ∀ o ∈ operands, ∃ q, c.compileFilter (.value field .eq o) = .ok q) ∧
    (∀ e, c.compileFilter (.membership field .isIn operands) = .error e ↔
      ∃ before o after, operands = before ++ o :: after ∧
        (∀ o' ∈ before, ∃ q, c.compileFilter (.value field .eq o') = .ok q) ∧
        c.compileFilter (.value field .eq o) = .error e) ∧
    ∀ p, c.compileFilter (.membership field .isIn operands) = .ok p →
      (∀ r, p.holds r = true ↔
        ∃ o ∈ operands, ∃ q, c.compileFilter (.value field .eq o) = .ok q ∧ q.holds r = true) ∧
      ∀ operands' : List Operand, (∀ o, o ∈ operands' ↔ o ∈ operands) →
        operands'.length ≤ c.limits.maxValues →
        c.compileFilter (.membership field .isIn operands') = .ok p := by
  refine ⟨exists_compileFilter_isIn_iff ha hlength,
    fun e => compileFilter_isIn_eq_error_iff ha hlength, fun p hp => ⟨?_, ?_⟩⟩
  · exact compileFilter_isIn_holds_iff ha hlength hp
  · intro operands' h hlength'
    exact compileFilter_isIn_congr ha hlength hlength' h hp

/-- Null and zero in a list, with the zero of the other sign in a string. Listed the other way
around and without the repetition of zero, they are compiled to the same. -/
theorem compileFilter_isIn_of_zeros :
    let c : Compiler (Option Binary64) := ⟨.ofList [("x", .float id)], ⟨0, 4⟩⟩
    let zero : Operand := .typed (.integer 0)
    let negativeZero : Operand := .literal ⟨.string "-0", trivial⟩
    ∃ p q, c.compileFilter (.membership "x" .isIn [zero, .null, negativeZero, zero]) = .ok p ∧
      c.compileFilter (.membership "x" .isIn [negativeZero, zero, .null]) = .ok p ∧
      c.compileFilter (.value "x" .eq negativeZero) = .ok q ∧
      q.holds (some ⟨0⟩) = true ∧ p.holds (some ⟨0⟩) = true := by
  intro c zero negativeZero
  obtain ⟨q, hq⟩ : ∃ q, c.compileFilter (.value "x" .eq negativeZero) = .ok q := ⟨_, rfl⟩
  have hr : q.holds (some ⟨0⟩) = true := by
    obtain rfl : _ = q := Except.ok.inj hq
    decide +kernel
  have hspec := @compileFilter_isIn_spec _ c "x" (.float id) rfl [zero, .null, negativeZero, zero]
    (by decide)
  obtain ⟨p, hp⟩ := hspec.1.2 (by
    simp only [List.forall_mem_cons, List.not_mem_nil, false_implies, implies_true, and_true]
    exact ⟨⟨_, rfl⟩, ⟨_, rfl⟩, ⟨_, rfl⟩, ⟨_, rfl⟩⟩)
  obtain ⟨hholds, hsame⟩ := hspec.2.2 p hp
  refine ⟨p, q, hp, hsame _ ?_ (by decide), hq, hr, ?_⟩
  · intro o
    simp only [List.mem_cons, List.not_mem_nil, or_false]
    grind
  · exact (hholds _).2 ⟨negativeZero, by simp, q, hq, hr⟩

end Compiler

end RecordQuery

import RecordQuery.Proofs.Coercion.Rendering
import RecordQuery.Proofs.Compiler.Success
import RecordQuery.Proofs.Value.Comparison

/-!
# Filters that compare

Filters by `=` and by the four ordering operators are tested in two ways, by equality and by
comparison. Both go by one outcome: the value of the field comes before the operand, at its place or
after it, or it has no place.

* `Operator.Compares`, the five operators;
* `valueTest_holds_eq`, which shows that their tests go by `Value.compare?`;
* `Value.isSome_compare?_iff`, which tells the values that have a place;
* `Compiler.compileFilter_partition`, which shows how the filters of one operand divide the records.
-/

namespace RecordQuery

variable {R : Type}

/-- The operator goes by how the value of a field compares with the operand. -/
def Operator.Compares (op : Operator) : Prop :=
  op = .eq ∨ op.isOrdering = true

namespace Operator.Compares

variable {op : Operator} (hop : op.Compares)
include hop

theorem kind : op.kind = .value := by
  rcases hop with rfl | hop
  · rfl
  · cases op <;> first | rfl | cases hop

/-- Where one ordering operator is for the type of a field, all five are. -/
theorem appliesTo {op₀ : Operator} {type : FieldType} (hop₀ : op₀.isOrdering = true)
    (happ : op₀.AppliesTo type) : op.AppliesTo type := by
  have htype := (Operator.appliesTo_iff.1 happ).1 hop₀
  rcases hop with rfl | hop
  · trivial
  · cases op <;> first | exact htype | cases hop

end Operator.Compares

/-- A test that compares accepts the outcomes that its operator accepts. -/
theorem valueTest_holds_eq {a : Accessor R} {op : Operator} {v : Value} (hop : op.Compares)
    (hv : v ≠ .null) (r : R) :
    (valueTest a op v).holds r = ((a.value r).compare? v).any op.accepts := by
  rcases hop with rfl | hop
  · -- Equality is decided without a comparison.
    show (a.value r).equal v = ((a.value r).compare? v).any (· == .eq)
    rw [Bool.eq_iff_iff, Value.equal_iff, ← and_iff_left (a := (a.value r).Same v) hv,
      ← Value.compare?_eq_some_eq_iff]
    cases (a.value r).compare? v <;> simp
  · rw [valueTest, if_pos hop]

namespace Value

/-- Holds for the floats that are not a number. -/
def isNaN : Value → Bool
  | .float x => x.isNaN
  | _ => false

/-- Of the values of a field, null and the NaNs have no place before, at or after a number or a
time. -/
theorem isSome_compare?_iff {v w : Value} {type : FieldType} (hv : v.Fits type)
    (hw : w.HasType type) (hnan : w.isNaN = false) :
    (v.compare? w).isSome = true ↔ v ≠ .null ∧ v.isNaN = false := by
  rcases hv with rfl | hv
  · simp [compare?]
  have htype : v.type? = w.type? := hv.trans hw.symm
  cases v with
  | float x =>
    cases w with
    | float y =>
      have hy : y.isNaN = false := hnan
      cases hx : x.isNaN <;> simp [compare?, Binary64.compare?, isNaN, hx, hy]
    | _ => cases htype
  | null => cases hv
  | _ => cases w <;> simp [compare?, isNaN, type?] at htype ⊢

end Value

/-- No operand becomes a NaN. -/
theorem isNaN_of_coerce {field : String} {type : FieldType} {o : Operand} {v : Value}
    (h : coerce field type o = .ok v) : v.isNaN = false := by
  rcases coerce_cases h with ⟨-, rfl⟩ | ⟨-, htype⟩
  · rfl
  cases v with
  | float x =>
    obtain rfl := Option.some.inj htype
    have hfinite := coerce_isFinite h
    simp only [Binary64.isFinite, decide_eq_true_eq] at hfinite
    exact decide_eq_false (Nat.lt_asymm hfinite)
  | _ => rfl

namespace Compiler

variable {c : Compiler R} {field : String} {operand : Operand} {op₀ : Operator} {p₀ : Predicate R}

/-- Where one ordering operator can compare a field with an operand, `=` and all ordering operators
can. Then `>=` holds where `>` or `=` does and `<=` where `<` or `=` does, and of `<`, `=` and `>`
at most one holds, namely one wherever the field has a value that is not a NaN. -/
theorem compileFilter_partition (hop₀ : op₀.isOrdering = true)
    (h₀ : c.compileFilter (.value field op₀ operand) = .ok p₀) :
    ∃ (a : Accessor R) (p : Operator → Predicate R), c.fields.find? field = some a ∧
      (∀ op, op.Compares → c.compileFilter (.value field op operand) = .ok (p op)) ∧
      ∀ r, ((p .gte).holds r = true ↔ (p .gt).holds r = true ∨ (p .eq).holds r = true) ∧
        ((p .lte).holds r = true ↔ (p .lt).holds r = true ∨ (p .eq).holds r = true) ∧
        [Operator.lt, .eq, .gt].countP (fun op => (p op).holds r) ≤ 1 ∧
        ([Operator.lt, .eq, .gt].countP (fun op => (p op).holds r) = 1 ↔
          a.value r ≠ .null ∧ (a.value r).isNaN = false) := by
  rw [compileFilter_value] at h₀
  obtain ⟨-, a, v, ha, happ, hv, hneeds, -⟩ := compileValue_eq_ok_iff.1 h₀
  have hnull : v ≠ .null := hneeds (Operator.needsValue_of_isOrdering hop₀)
  have htype : v.HasType a.type := (coerce_fits hv).resolve_left hnull
  refine ⟨a, fun op => valueTest a op v, ha, ?_, fun r => ?_⟩
  · intro op hop
    rw [compileFilter_value]
    exact compileValue_eq_ok_iff.2
      ⟨hop.kind, a, v, ha, hop.appliesTo hop₀ happ, hv, fun _ => hnull, rfl⟩
  · have hplace := Value.isSome_compare?_iff (a.value_type r) htype (isNaN_of_coerce hv)
    have hholds : ∀ op : Operator, op.Compares →
        (valueTest a op v).holds r = ((a.value r).compare? v).any op.accepts :=
      fun op hop => valueTest_holds_eq hop hnull r
    rw [← hplace]
    simp only [List.countP_cons, List.countP_nil, hholds .lt (.inr rfl), hholds .lte (.inr rfl),
      hholds .eq (.inl rfl), hholds .gt (.inr rfl), hholds .gte (.inr rfl)]
    cases (a.value r).compare? v with
    | none => decide
    | some o => cases o <;> decide

/-- The two zeros are equal, so that one of them is `=` the other and neither `<` nor `>` it. A NaN
is none of the three. -/
theorem compileFilter_partition_of_zero :
    let c : Compiler (Option Binary64) := ⟨.ofList [("x", .float id)], {}⟩
    let zero : Operand := .typed (.float ⟨0x8000000000000000⟩)
    ∃ p : Operator → Predicate (Option Binary64),
      (∀ op, op.Compares → c.compileFilter (.value "x" op zero) = .ok (p op)) ∧
      (p .eq).holds (some ⟨0⟩) = true ∧ (p .gte).holds (some ⟨0⟩) = true ∧
      [Operator.lt, .eq, .gt].countP (fun op => (p op).holds (some ⟨0⟩)) = 1 ∧
      [Operator.lt, .eq, .gt].countP (fun op => (p op).holds (some ⟨0x7FF8000000000000⟩)) ≠ 1 := by
  intro c zero
  have hlt : c.compileFilter (.value "x" .lt zero) = .ok _ := rfl
  obtain ⟨a, p, ha, hp, hall⟩ := compileFilter_partition rfl hlt
  obtain rfl : Accessor.float id = a := Option.some.inj ha
  have heq : (p .eq).holds (some ⟨0⟩) = true := by
    rw [← Except.ok.inj (hp .eq (.inl rfl))]
    decide +kernel
  refine ⟨p, hp, heq, (hall _).1.2 (.inr heq), (hall _).2.2.2.2 (by decide), ?_⟩
  rw [ne_eq, (hall _).2.2.2]
  decide

end Compiler

end RecordQuery

import RecordQuery.Proofs.Compiler.Success
import RecordQuery.Proofs.Predicate.Test

/-!
# Compiled filters mean what they say

* `compileAt_holds_iff`, which shows by induction on the tree that the predicate of a filter holds
  for the records of which the filter holds;
* `exists_compile_eq`, which shows that a filter for one value of a field is compiled;
* `compileFilter_holds_iff`, the first for whole filters, with what it says of null.
-/

namespace RecordQuery

open Outcome

variable {R : Type}

theorem Operator.eq_and_or_eq_or {op : Operator} (h : op.kind = .logical) :
    op = .and ∨ op = .or := by
  cases op <;> first | exact .inl rfl | exact .inr rfl | cases h

namespace Compiler

variable {c : Compiler R} {p : Predicate R} {r : R}

theorem compileValue_holds_iff {field : String} {op : Operator} {operand : Operand}
    (h : c.compileValue field op operand = .ok p) :
    p.holds r = true ↔ (Filter.value field op operand).Holds c.fields r := by
  obtain ⟨hkind, a, v, ha, happ, hv, hneeds, rfl⟩ := compileValue_eq_ok_iff.1 h
  rw [Filter.holds_value_iff ha hv]
  exact valueTest_holds_iff hkind happ (coerce_fits hv) hneeds

theorem compileMembership_holds_iff {field : String} {op : Operator} {operands : List Operand}
    (h : c.compileMembership field op operands = .ok p) :
    p.holds r = true ↔ (Filter.membership field op operands).Holds c.fields r := by
  obtain ⟨hkind, a, ws, ha, -, hws, rfl⟩ := compileMembership_eq_ok_iff.1 h
  have hamong : c.fields.Among r field operands ↔ ∃ v ∈ ws, (a.value r).Same v := by
    rw [FieldMap.among_iff ha]
    simp only [mem_iff_of_mapM_eq_ok hws]
    constructor
    · rintro ⟨o, ho, v, hv, hs⟩
      exact ⟨v, ⟨o, ho, hv⟩, hs⟩
    · rintro ⟨v, ⟨o, ho, hv⟩, hs⟩
      exact ⟨o, ho, v, hv, hs⟩
  rw [Filter.holds_membership_iff hkind, hamong]
  exact membershipTest_holds_iff

/-- The predicate that joins those of the children joins what the children say. -/
theorem joined_holds_iff {op : Operator} (hop : op.kind = .logical) {depth : Nat}
    {children : List Filter} {ps : List (Predicate R)}
    (hps : children.mapM (c.compileAt depth) = .ok ps)
    (ih : ∀ f ∈ children, ∀ q, c.compileAt depth f = .ok q →
      (q.holds r = true ↔ f.Holds c.fields r)) :
    (joined op ps).holds r = true ↔ (Filter.logical op children).Holds c.fields r := by
  have hmem := fun q => mem_iff_of_mapM_eq_ok hps (y := q)
  have hall := exists_mapM_eq_ok_iff.1 ⟨ps, hps⟩
  rcases Operator.eq_and_or_eq_or hop with rfl | rfl
  · rw [joined, if_pos rfl, Filter.holds_and_iff, List.all_eq_true]
    constructor
    · intro h f hf
      obtain ⟨q, hq⟩ := hall f hf
      exact (ih f hf q hq).1 (h q ((hmem q).2 ⟨f, hf, hq⟩))
    · intro h q hq
      obtain ⟨f, hf, hfq⟩ := (hmem q).1 hq
      exact (ih f hf q hfq).2 (h f hf)
  · rw [joined, if_neg nofun, Filter.holds_or_iff, List.any_eq_true]
    constructor
    · rintro ⟨q, hq, h⟩
      obtain ⟨f, hf, hfq⟩ := (hmem q).1 hq
      exact ⟨f, hf, (ih f hf q hfq).1 h⟩
    · rintro ⟨f, hf, h⟩
      obtain ⟨q, hq⟩ := hall f hf
      exact ⟨q, (hmem q).2 ⟨f, hf, hq⟩, (ih f hf q hq).2 h⟩

/-- A predicate that is compiled at any depth holds where its filter does. -/
theorem compileAt_holds_iff {f : Filter} {depth : Nat} (h : c.compileAt depth f = .ok p) :
    p.holds r = true ↔ f.Holds c.fields r := by
  -- The depth is counted for the limit alone, so the induction is about all depths at once.
  induction f generalizing depth p with
  | value field op operand => exact compileValue_holds_iff (by rwa [compileAt] at h)
  | membership field op operands => exact compileMembership_holds_iff (by rwa [compileAt] at h)
  | logical op children ih =>
    obtain ⟨hkind, -, -, ps, hps, rfl⟩ := compileAt_logical_eq_ok_iff.1 h
    exact joined_holds_iff hkind hps fun f hf q hq => ih f hf hq

/-- A filter for one value of a field is compiled under any limits. -/
theorem exists_compile_eq {field : String} {operand : Operand} {a : Accessor R} {v : Value}
    (ha : c.fields.find? field = some a) (hv : coerce field a.type operand = .ok v) :
    ∃ p, c.compileFilter (.value field .eq operand) = .ok p ∧
      ∀ r, p.holds r = true ↔ (a.value r).Same v := by
  refine ⟨valueTest a .eq v, ?_, fun r => Value.equal_iff⟩
  rw [compileFilter_eq ha, hv]
  rfl

/-! ### Null -/

theorem not_contains_null (v : Value) : ¬Value.Contains .null v := by
  rintro ⟨_, _, ⟨⟩, -⟩

/-- A negated operator holds of a field without a value, unless the operand is null as well. -/
theorem negated_holds_null_iff {field : String} {op : Operator} {operand : Operand}
    {a : Accessor R} (h : c.compileValue field op operand = .ok p) (hop : op.isNegated = true)
    (ha : c.fields.find? field = some a) (hr : a.value r = .null) :
    p.holds r = true ↔ ¬operand.IsNull := by
  obtain ⟨hkind, b, v, hb, -, hv, hneeds, -⟩ := compileValue_eq_ok_iff.1 h
  obtain rfl := Option.some.inj (ha.symm.trans hb)
  rw [compileValue_holds_iff h, Filter.holds_value_iff ha hv, hr, ← coerce_eq_null_iff hv]
  cases op with
  | notEq => exact not_congr Value.null_same_iff
  | notContains => exact iff_of_true (not_contains_null v) (hneeds trivial)
  | notIn => cases hkind
  | _ => cases hop

/-- The fields that differ from null are those with a value. -/
theorem notEq_null_holds_iff {field : String} {operand : Operand} {a : Accessor R}
    (h : c.compileValue field .notEq operand = .ok p) (hnull : operand.IsNull)
    (ha : c.fields.find? field = some a) : p.holds r = true ↔ a.value r ≠ .null := by
  obtain ⟨-, b, v, hb, -, hv, -, -⟩ := compileValue_eq_ok_iff.1 h
  obtain rfl := Option.some.inj (ha.symm.trans hb)
  rw [compileValue_holds_iff h, Filter.holds_value_iff ha hv, (coerce_eq_null_iff hv).2 hnull]
  exact not_congr Value.same_null_iff

/-- A field without a value is in no list without null. -/
theorem notIn_holds_null_iff {field : String} {operands : List Operand} {a : Accessor R}
    (h : c.compileMembership field .notIn operands = .ok p)
    (ha : c.fields.find? field = some a) (hr : a.value r = .null) :
    p.holds r = true ↔ ∀ o ∈ operands, ¬o.IsNull := by
  obtain ⟨hkind, b, ws, hb, -, hws, -⟩ := compileMembership_eq_ok_iff.1 h
  obtain rfl := Option.some.inj (ha.symm.trans hb)
  have hall := exists_mapM_eq_ok_iff.1 ⟨ws, hws⟩
  have hneg : Operator.notIn.isNegated = true := rfl
  rw [compileMembership_holds_iff h, Filter.holds_membership_iff hkind, if_pos hneg,
    FieldMap.among_iff ha, hr]
  constructor
  · intro hnone o ho hnull
    obtain ⟨v, hv⟩ := hall o ho
    exact hnone ⟨o, ho, v, hv, Value.null_same_iff.2 ((coerce_eq_null_iff hv).2 hnull)⟩
  · rintro hnone ⟨o, ho, v, hv, hs⟩
    exact hnone o ho ((coerce_eq_null_iff hv).1 (Value.null_same_iff.1 hs))

/-- The predicate of a filter holds for exactly the records of which the filter holds. So a negated
operator holds of a field without a value unless its operands write null, and `!=` null holds of
the fields with a value. -/
theorem compileFilter_holds_iff {f : Filter} (h : c.compileFilter f = .ok p) (r : R) :
    (p.holds r = true ↔ f.Holds c.fields r) ∧
    (∀ field op operand a, f = .value field op operand → op.isNegated = true →
      c.fields.find? field = some a → a.value r = .null →
      (p.holds r = true ↔ ¬operand.IsNull)) ∧
    (∀ field operand a, f = .value field .notEq operand → operand.IsNull →
      c.fields.find? field = some a → (p.holds r = true ↔ a.value r ≠ .null)) ∧
    (∀ field operands a, f = .membership field .notIn operands →
      c.fields.find? field = some a → a.value r = .null →
      (p.holds r = true ↔ ∀ o ∈ operands, ¬o.IsNull)) := by
  refine ⟨compileAt_holds_iff h, ?_, ?_, ?_⟩
  · rintro field op operand a rfl hop ha hr
    exact negated_holds_null_iff (by rwa [compileFilter, compileAt] at h) hop ha hr
  · rintro field operand a rfl hnull ha
    exact notEq_null_holds_iff (by rwa [compileFilter, compileAt] at h) hnull ha
  · rintro field operands a rfl ha hr
    exact notIn_holds_null_iff (by rwa [compileFilter, compileAt] at h) ha hr

/-- A NaN differs from null and is in no list, though it is not at least any number. -/
theorem holds_nan_of_notIn :
    let c : Compiler (Option Binary64) := ⟨.ofList [("x", .float id)], {}⟩
    let f : Filter := .logical .and
      [.value "x" .notEq (.typed .null), .logical .or
        [.value "x" .gte (.typed (.integer 1)), .membership "x" .notIn [.typed (.integer 0)]]]
    let nan : Binary64 := ⟨0x7FF8000000000000⟩
    ∃ p, c.compileFilter f = .ok p ∧ p.holds (some nan) = true ∧ f.Holds c.fields (some nan) := by
  intro c f nan
  have h := compileFilter_holds_iff (c := c) (f := f) rfl (some nan)
  have hnan := h.1.1 (by decide +kernel)
  exact ⟨_, rfl, h.1.2 hnan, hnan⟩

end Compiler

end RecordQuery

import RecordQuery.Proofs.Coercion.Type
import RecordQuery.Proofs.Value.Equality
import RecordQuery.Compiler

/-!
# What is compiled, and into what

For each step of the compiler, the exact condition under which it succeeds, together with its
result.

* `compileValue_eq_ok_iff` and `compileMembership_eq_ok_iff`, for the leaves;
* `compileFilter_eq` and `compileFilter_membership`, for the leaves that depend on their operands
  alone;
* `compileAt_logical_eq_ok_iff`, for a node with children.
-/

namespace RecordQuery

open Outcome

variable {R : Type}

theorem requireKind_eq_ok_iff {op : Operator} {kind : OperatorKind} {u : Unit} :
    requireKind op kind = .ok u ↔ op.kind = kind :=
  ensure_eq_ok_iff

theorem FieldMap.lookup_eq_ok_iff {m : FieldMap R} {field : String} {a : Accessor R} :
    m.lookup field = .ok a ↔ m.find? field = some a := by
  unfold lookup
  cases m.find? field <;> simp

theorem coerceMany_eq_ok_iff {field : String} {type : FieldType} {operands : List Operand}
    {vs : ValueSet} :
    coerceMany field type operands = .ok vs ↔
      ∃ ws, operands.mapM (coerce field type) = .ok ws ∧ ValueSet.ofList ws = vs :=
  map_eq_ok_iff

/-- A list of operands is refused as the first of them that is. -/
theorem coerceMany_eq_error_iff {field : String} {type : FieldType} {operands : List Operand}
    {e : CompileError} :
    coerceMany field type operands = .error e ↔
      ∃ before o after, operands = before ++ o :: after ∧
        (∀ o' ∈ before, ∃ v, coerce field type o' = .ok v) ∧ coerce field type o = .error e := by
  rw [coerceMany, map_eq_error_iff, mapM_eq_error_iff]

/-- Coerced values fit the field, so the checks of a list of values find nothing. -/
theorem fits_of_mem_ofList {field : String} {type : FieldType} {operands : List Operand}
    {ws : List Value} (h : operands.mapM (coerce field type) = .ok ws) :
    ∀ v ∈ (ValueSet.ofList ws).members, v.Fits type := by
  intro v hv
  obtain ⟨o, -, ho⟩ := (mem_iff_of_mapM_eq_ok h).1 (ValueSet.mem_of_mem_ofList hv)
  exact coerce_fits ho

namespace Compiler

variable {c : Compiler R} {p : Predicate R}

theorem compileFilter_value {field : String} {op : Operator} {operand : Operand} :
    c.compileFilter (.value field op operand) = c.compileValue field op operand := by
  rw [compileFilter, compileAt]

/-- The conditions of a leaf with one operand, and its test. -/
theorem compileValue_eq_ok_iff {field : String} {op : Operator} {operand : Operand} :
    c.compileValue field op operand = .ok p ↔
      op.kind = .value ∧ ∃ a v, c.fields.find? field = some a ∧ op.AppliesTo a.type ∧
        coerce field a.type operand = .ok v ∧ (op.NeedsValue → v ≠ .null) ∧
        valueTest a op v = p := by
  unfold compileValue valuePredicate
  simp only [bind_eq_ok_iff, requireKind_eq_ok_iff, FieldMap.lookup_eq_ok_iff,
    checkApplicable_eq_ok_iff, checkValue_eq_ok_iff, exists_const, pure, Except.pure,
    Except.ok.injEq]
  constructor
  · rintro ⟨hkind, a, ha, ⟨-, happ⟩, v, hv, ⟨-, -, -, hneeds⟩, rfl⟩
    exact ⟨hkind, a, v, ha, happ, hv, hneeds, rfl⟩
  · rintro ⟨hkind, a, v, ha, happ, hv, hneeds, rfl⟩
    exact ⟨hkind, a, ha, ⟨hkind, happ⟩, v, hv, ⟨hkind, happ, coerce_fits hv, hneeds⟩, rfl⟩

/-- The conditions of a leaf with a list of operands, and its test. -/
theorem compileMembership_eq_ok_iff {field : String} {op : Operator} {operands : List Operand} :
    c.compileMembership field op operands = .ok p ↔
      op.kind = .membership ∧ ∃ a ws, c.fields.find? field = some a ∧
        operands.length ≤ c.limits.maxValues ∧ operands.mapM (coerce field a.type) = .ok ws ∧
        membershipTest a op (.ofList ws) = p := by
  unfold compileMembership membershipPredicate
  simp only [bind_eq_ok_iff, requireKind_eq_ok_iff, FieldMap.lookup_eq_ok_iff, ensure_eq_ok_iff,
    coerceMany_eq_ok_iff, checkMembers_eq_ok_iff, exists_const, pure, Except.pure,
    Except.ok.injEq]
  constructor
  · rintro ⟨hkind, a, ha, hlen, _, ⟨ws, hws, rfl⟩, -, rfl⟩
    exact ⟨hkind, a, ws, ha, hlen, hws, rfl⟩
  · rintro ⟨hkind, a, ws, ha, hlen, hws, rfl⟩
    exact ⟨hkind, a, ha, hlen, _, ⟨ws, hws, rfl⟩, ⟨hkind, fits_of_mem_ofList hws⟩, rfl⟩

/-- A filter by `=` is compiled if its operand is coerced, and fails as this does. -/
theorem compileFilter_eq {field : String} {a : Accessor R} (ha : c.fields.find? field = some a)
    (operand : Operand) :
    c.compileFilter (.value field .eq operand) =
      (coerce field a.type operand).map (valueTest a .eq) := by
  have hlookup := FieldMap.lookup_eq_ok_iff.2 ha
  have happlicable : checkApplicable field a.type .eq = .ok () :=
    checkApplicable_eq_ok_iff.2 ⟨rfl, Operator.eq_appliesTo a.type⟩
  rw [compileFilter_value]
  cases hv : coerce field a.type operand with
  | ok v =>
    exact compileValue_eq_ok_iff.2 ⟨rfl, a, v, ha, Operator.eq_appliesTo a.type, hv,
      Operator.not_needsValue_eq.elim, rfl⟩
  | error e =>
    simp only [compileValue, hlookup, happlicable, hv, ok_bind]
    rfl

/-- A filter by a list of values is compiled if the list is not too long and its operands are
coerced, and fails as these do. -/
theorem compileFilter_membership {field : String} {a : Accessor R}
    (ha : c.fields.find? field = some a) {op : Operator} (hkind : op.kind = .membership)
    {operands : List Operand} (hlength : operands.length ≤ c.limits.maxValues) :
    c.compileFilter (.membership field op operands) =
      (operands.mapM (coerce field a.type)).map fun vs => membershipTest a op (.ofList vs) := by
  have hlookup := FieldMap.lookup_eq_ok_iff.2 ha
  rw [compileFilter, compileAt]
  cases hvs : operands.mapM (coerce field a.type) with
  | ok vs => exact compileMembership_eq_ok_iff.2 ⟨hkind, a, vs, ha, hlength, hvs, rfl⟩
  | error e =>
    simp only [compileMembership, requireKind, ensure, hkind, hlookup, hlength, coerceMany, hvs,
      if_true, ok_bind]
    rfl

theorem checkLogical_eq_ok_iff {depth n : Nat} {op : Operator} {u : Unit} :
    c.checkLogical depth op n = .ok u ↔
      op.kind = .logical ∧ depth ≤ c.limits.maxDepth ∧ 2 ≤ n := by
  unfold checkLogical
  simp only [bind_eq_ok_iff, requireKind_eq_ok_iff, ensure_eq_ok_iff, exists_const]

/-- The predicate that holds where all of the predicates do, or one of them, as the operator
says. -/
def joined (op : Operator) (ps : List (Predicate R)) : Predicate R :=
  if op = .and then ⟨fun r => ps.all fun p => p.holds r⟩
  else ⟨fun r => ps.any fun p => p.holds r⟩

theorem join_eq_ok_iff {op : Operator} {ps : List (Predicate R)} :
    join op ps = .ok p ↔ 2 ≤ ps.length ∧ joined op ps = p := by
  unfold join joined
  cases op <;>
    simp only [Predicate.all, Predicate.any, bind_eq_ok_iff, ensure_eq_ok_iff, exists_const,
      pure, Except.pure, Except.ok.injEq, if_true, reduceCtorEq, if_false]

theorem compileListAt_eq_mapM (depth : Nat) (fs : List Filter) :
    c.compileListAt depth fs = fs.mapM (c.compileAt depth) := by
  induction fs with
  | nil => rfl
  | cons f fs ih => rw [List.mapM_cons, ← ih, compileListAt]

/-- The conditions of a node with children, and its predicate. -/
theorem compileAt_logical_eq_ok_iff {depth : Nat} {op : Operator} {children : List Filter} :
    c.compileAt depth (.logical op children) = .ok p ↔
      op.kind = .logical ∧ depth + 1 ≤ c.limits.maxDepth ∧ 2 ≤ children.length ∧
        ∃ ps, children.mapM (c.compileAt (depth + 1)) = .ok ps ∧ joined op ps = p := by
  rw [compileAt]
  simp only [bind_eq_ok_iff, checkLogical_eq_ok_iff, compileListAt_eq_mapM, join_eq_ok_iff,
    exists_const, and_assoc]
  constructor
  · rintro ⟨hkind, hdepth, hlen, ps, hps, -, hp⟩
    exact ⟨hkind, hdepth, hlen, ps, hps, hp⟩
  · rintro ⟨hkind, hdepth, hlen, ps, hps, hp⟩
    exact ⟨hkind, hdepth, hlen, ps, hps, (mapM_eq_ok_iff.1 hps).length_eq ▸ hlen, hp⟩

end Compiler

end RecordQuery

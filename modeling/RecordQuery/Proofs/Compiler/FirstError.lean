import RecordQuery.Proofs.Compiler.Acceptance

/-!
# The error of a filter that is not compiled

A filter is refused with the error of one node, the first that has one.

* `Compiler.LocalError`, the errors of a node by itself, with what the checks before have found;
* `Compiler.FirstError`, the error of the first node of several that has one;
* `compileAt_eq_error_iff`, which shows by induction on the tree that the compiler stops at the first
  error among the nodes of a filter, each taken before its children;
* `compileFilter_eq_error_iff`, the same for whole filters.
-/

namespace RecordQuery

open Outcome

variable {R : Type}

theorem requireKind_eq_error_iff {op : Operator} {kind : OperatorKind} {e : CompileError} :
    requireKind op kind = .error e ↔ op.kind ≠ kind ∧ .unsupportedOperator op.symbol = e :=
  ensure_eq_error_iff

theorem FieldMap.lookup_eq_error_iff {m : FieldMap R} {field : String} {e : CompileError} :
    m.lookup field = .error e ↔ m.find? field = none ∧ .unknownField field = e := by
  unfold lookup
  cases m.find? field <;> simp

namespace Compiler

/-- The error of a node by itself, inside of `depth` logical nodes. Each check is made only if those
before it have passed: for a leaf with one operand the kind, the field, the use of the operator, the
operand, and null; for a leaf with a list the kind, the field, the length, and the operands from left
to right; for a node with children the kind, the nesting, and the number of children. -/
inductive LocalError (c : Compiler R) (depth : Nat) : Filter → CompileError → Prop
  | valueKind {field op operand} (hkind : op.kind ≠ .value) :
    LocalError c depth (.value field op operand) (.unsupportedOperator op.symbol)
  | valueField {field op operand} (hkind : op.kind = .value) (hfield : c.fields.find? field = none) :
    LocalError c depth (.value field op operand) (.unknownField field)
  | valueUse {field op operand a} (hkind : op.kind = .value)
    (hfield : c.fields.find? field = some a) (huse : ¬op.AppliesTo a.type) :
    LocalError c depth (.value field op operand) (.notApplicable op field a.type)
  | valueOperand {field op operand a e} (hkind : op.kind = .value)
    (hfield : c.fields.find? field = some a) (huse : op.AppliesTo a.type)
    (hoperand : coerce field a.type operand = .error e) :
    LocalError c depth (.value field op operand) e
  | valueOrdering {field op operand a} (hkind : op.kind = .value)
    (hfield : c.fields.find? field = some a) (huse : op.AppliesTo a.type)
    (hoperand : operand.CoercibleTo field a.type) (hnull : operand.IsNull)
    (hop : op.isOrdering = true) :
    LocalError c depth (.value field op operand) (.coercion field a.type "null" .nullOrdering)
  | valueContainment {field op operand a} (hkind : op.kind = .value)
    (hfield : c.fields.find? field = some a) (huse : op.AppliesTo a.type)
    (hoperand : operand.CoercibleTo field a.type) (hnull : operand.IsNull)
    (hop : op.isContainment = true) :
    LocalError c depth (.value field op operand) (.coercion field a.type "null" .nullContainment)
  | membershipKind {field op operands} (hkind : op.kind ≠ .membership) :
    LocalError c depth (.membership field op operands) (.unsupportedOperator op.symbol)
  | membershipField {field op operands} (hkind : op.kind = .membership)
    (hfield : c.fields.find? field = none) :
    LocalError c depth (.membership field op operands) (.unknownField field)
  | membershipLength {field op operands a} (hkind : op.kind = .membership)
    (hfield : c.fields.find? field = some a) (hlength : c.limits.maxValues < operands.length) :
    LocalError c depth (.membership field op operands)
      (.tooManyValues field operands.length c.limits.maxValues)
  | membershipOperand {field op a before o after e} (hkind : op.kind = .membership)
    (hfield : c.fields.find? field = some a)
    (hlength : (before ++ o :: after).length ≤ c.limits.maxValues)
    (hbefore : ∀ o' ∈ before, o'.CoercibleTo field a.type)
    (hoperand : coerce field a.type o = .error e) :
    LocalError c depth (.membership field op (before ++ o :: after)) e
  | logicalKind {op children} (hkind : op.kind ≠ .logical) :
    LocalError c depth (.logical op children) (.unsupportedOperator op.symbol)
  | logicalDepth {op children} (hkind : op.kind = .logical) (hdepth : c.limits.maxDepth < depth + 1) :
    LocalError c depth (.logical op children) (.tooDeep c.limits.maxDepth)
  | logicalChildren {op children} (hkind : op.kind = .logical)
    (hdepth : depth + 1 ≤ c.limits.maxDepth) (hchildren : children.length < 2) :
    LocalError c depth (.logical op children) (.tooFewChildren op children.length)

/-- Nothing is wrong with the node by itself. -/
def Passes (c : Compiler R) (p : Filter.Place) : Prop :=
  ∀ e, ¬c.LocalError p.depth p.node e

/-- The error of the first of several nodes that has one. -/
def FirstError (c : Compiler R) (places : List Filter.Place) (e : CompileError) : Prop :=
  ∃ before p after, places = before ++ p :: after ∧ (∀ q ∈ before, c.Passes q) ∧
    c.LocalError p.depth p.node e

variable {c : Compiler R} {e : CompileError}

/-! ### Nodes in a row -/

theorem not_firstError_nil : ¬c.FirstError [] e := by
  rintro ⟨before, p, after, h, -⟩
  simp at h

theorem firstError_cons_iff {p : Filter.Place} {ps : List Filter.Place} :
    c.FirstError (p :: ps) e ↔ c.LocalError p.depth p.node e ∨ c.Passes p ∧ c.FirstError ps e := by
  constructor
  · rintro ⟨before, q, after, h, hbefore, hq⟩
    cases before with
    | nil =>
      obtain ⟨rfl, rfl⟩ := List.cons.inj h
      exact .inl hq
    | cons b before =>
      obtain ⟨rfl, rfl⟩ := List.cons.inj h
      obtain ⟨hp, hbefore⟩ := List.forall_mem_cons.1 hbefore
      exact .inr ⟨hp, before, q, after, rfl, hbefore, hq⟩
  · rintro (hp | ⟨hp, before, q, after, rfl, hbefore, hq⟩)
    · exact ⟨[], p, ps, rfl, by simp, hp⟩
    · exact ⟨p :: before, q, after, rfl, List.forall_mem_cons.2 ⟨hp, hbefore⟩, hq⟩

theorem firstError_singleton_iff {p : Filter.Place} :
    c.FirstError [p] e ↔ c.LocalError p.depth p.node e := by
  simp [firstError_cons_iff, not_firstError_nil]

theorem firstError_append_iff {ps qs : List Filter.Place} :
    c.FirstError (ps ++ qs) e ↔
      c.FirstError ps e ∨ (∀ p ∈ ps, c.Passes p) ∧ c.FirstError qs e := by
  induction ps with
  | nil => simp [not_firstError_nil]
  | cons p ps ih =>
    rw [List.cons_append, firstError_cons_iff, firstError_cons_iff, ih, List.forall_mem_cons,
      and_or_left, or_assoc, and_assoc]

/-- Where every node passes, and only there, is there no first error. -/
theorem forall_passes_iff {ps : List Filter.Place} :
    (∀ p ∈ ps, c.Passes p) ↔ ∀ e, ¬c.FirstError ps e := by
  induction ps with
  | nil => simp [not_firstError_nil]
  | cons p ps ih =>
    rw [List.forall_mem_cons, ih]
    simp only [firstError_cons_iff, not_or, not_and]
    constructor
    · rintro ⟨hp, hps⟩ e
      exact ⟨hp e, fun _ => hps e⟩
    · intro h
      exact ⟨fun e => (h e).1, fun e => (h e).2 fun e' => (h e').1⟩

/-! ### The nodes of a filter -/

theorem compileValue_eq_error_iff {depth : Nat} {field : String} {op : Operator}
    {operand : Operand} :
    c.compileValue field op operand = .error e ↔
      c.LocalError depth (.value field op operand) e := by
  unfold compileValue valuePredicate
  simp only [bind_eq_error_iff, requireKind_eq_error_iff, requireKind_eq_ok_iff, exists_const,
    FieldMap.lookup_eq_error_iff, FieldMap.lookup_eq_ok_iff, checkApplicable_eq_ok_iff, pure,
    Except.pure, reduceCtorEq, and_false, or_false]
  constructor
  · rintro (⟨hkind, rfl⟩ | ⟨hkind, ⟨hfield, rfl⟩ | ⟨a, hfield, h⟩⟩)
    · exact .valueKind hkind
    · exact .valueField hkind hfield
    rcases h with happlicable | ⟨⟨-, huse⟩, hoperand | ⟨v, hv, hnull⟩⟩
    · obtain ⟨huse, rfl⟩ := (checkApplicable_eq_error_iff hkind).1 happlicable
      exact .valueUse hkind hfield huse
    · exact .valueOperand hkind hfield huse hoperand
    · obtain ⟨rfl, h⟩ := (checkValue_eq_error_iff hkind huse (coerce_fits hv)).1 hnull
      have hisNull := (coerce_eq_null_iff hv).1 rfl
      rcases h with ⟨hop, rfl⟩ | ⟨hop, rfl⟩
      · exact .valueOrdering hkind hfield huse ⟨_, hv⟩ hisNull hop
      · exact .valueContainment hkind hfield huse ⟨_, hv⟩ hisNull hop
  · intro h
    cases h with
    | valueKind hkind => exact .inl ⟨hkind, rfl⟩
    | valueField hkind hfield => exact .inr ⟨hkind, .inl ⟨hfield, rfl⟩⟩
    | valueUse hkind hfield huse =>
      exact .inr ⟨hkind, .inr ⟨_, hfield, .inl ((checkApplicable_eq_error_iff hkind).2 ⟨huse, rfl⟩)⟩⟩
    | valueOperand hkind hfield huse hoperand =>
      exact .inr ⟨hkind, .inr ⟨_, hfield, .inr ⟨⟨hkind, huse⟩, .inl hoperand⟩⟩⟩
    | valueOrdering hkind hfield huse hoperand hnull hop =>
      obtain ⟨v, hv⟩ := hoperand
      refine .inr ⟨hkind, .inr ⟨_, hfield, .inr ⟨⟨hkind, huse⟩, .inr ⟨v, hv, ?_⟩⟩⟩⟩
      rw [checkValue_eq_error_iff hkind huse (coerce_fits hv)]
      exact ⟨(coerce_eq_null_iff hv).2 hnull, .inl ⟨hop, rfl⟩⟩
    | valueContainment hkind hfield huse hoperand hnull hop =>
      obtain ⟨v, hv⟩ := hoperand
      refine .inr ⟨hkind, .inr ⟨_, hfield, .inr ⟨⟨hkind, huse⟩, .inr ⟨v, hv, ?_⟩⟩⟩⟩
      rw [checkValue_eq_error_iff hkind huse (coerce_fits hv)]
      exact ⟨(coerce_eq_null_iff hv).2 hnull, .inr ⟨hop, rfl⟩⟩

theorem compileMembership_eq_error_iff {depth : Nat} {field : String} {op : Operator}
    {operands : List Operand} :
    c.compileMembership field op operands = .error e ↔
      c.LocalError depth (.membership field op operands) e := by
  unfold compileMembership membershipPredicate
  simp only [bind_eq_error_iff, requireKind_eq_error_iff, requireKind_eq_ok_iff, exists_const,
    FieldMap.lookup_eq_error_iff, FieldMap.lookup_eq_ok_iff, ensure_eq_error_iff, ensure_eq_ok_iff,
    coerceMany_eq_error_iff, coerceMany_eq_ok_iff, pure, Except.pure, reduceCtorEq, and_false,
    or_false, Nat.not_le]
  constructor
  · rintro (⟨hkind, rfl⟩ | ⟨hkind, ⟨hfield, rfl⟩ | ⟨a, hfield, h⟩⟩)
    · exact .membershipKind hkind
    · exact .membershipField hkind hfield
    rcases h with ⟨hlength, rfl⟩ | ⟨hlength, ⟨before, o, after, rfl, hbefore, ho⟩ | h⟩
    · exact .membershipLength hkind hfield hlength
    · exact .membershipOperand hkind hfield hlength hbefore ho
    · -- What is coerced suits the field, so the checks that follow find nothing.
      obtain ⟨_, ⟨ws, hws, rfl⟩, hcheck⟩ := h
      have hmembers : checkMembers field a.type op (.ofList ws) = .ok () :=
        checkMembers_eq_ok_iff.2 ⟨hkind, fits_of_mem_ofList hws⟩
      rw [hmembers] at hcheck
      cases hcheck
  · intro h
    cases h with
    | membershipKind hkind => exact .inl ⟨hkind, rfl⟩
    | membershipField hkind hfield => exact .inr ⟨hkind, .inl ⟨hfield, rfl⟩⟩
    | membershipLength hkind hfield hlength =>
      exact .inr ⟨hkind, .inr ⟨_, hfield, .inl ⟨hlength, rfl⟩⟩⟩
    | membershipOperand hkind hfield hlength hbefore ho =>
      exact .inr ⟨hkind, .inr ⟨_, hfield, .inr ⟨hlength, .inl ⟨_, _, _, rfl, hbefore, ho⟩⟩⟩⟩

theorem checkLogical_eq_error_iff {depth : Nat} {op : Operator} {children : List Filter} :
    c.checkLogical (depth + 1) op children.length = .error e ↔
      c.LocalError depth (.logical op children) e := by
  unfold checkLogical
  simp only [bind_eq_error_iff, requireKind_eq_error_iff, requireKind_eq_ok_iff, exists_const,
    ensure_eq_error_iff, ensure_eq_ok_iff, Nat.not_le]
  constructor
  · rintro (⟨hkind, rfl⟩ | ⟨hkind, ⟨hdepth, rfl⟩ | ⟨hdepth, hchildren, rfl⟩⟩)
    · exact .logicalKind hkind
    · exact .logicalDepth hkind hdepth
    · exact .logicalChildren hkind hdepth hchildren
  · intro h
    cases h with
    | logicalKind hkind => exact .inl ⟨hkind, rfl⟩
    | logicalDepth hkind hdepth => exact .inr ⟨hkind, .inl ⟨hdepth, rfl⟩⟩
    | logicalChildren hkind hdepth hchildren =>
      exact .inr ⟨hkind, .inr ⟨hdepth, hchildren, rfl⟩⟩

/-- A node with children fails by itself or, if it passes, with its children. -/
theorem compileAt_logical_eq_error_iff {depth : Nat} {op : Operator} {children : List Filter} :
    c.compileAt depth (.logical op children) = .error e ↔
      c.LocalError depth (.logical op children) e ∨
        c.Passes ⟨depth, .logical op children⟩ ∧
          children.mapM (c.compileAt (depth + 1)) = .error e := by
  rw [compileAt, bind_eq_error_iff, checkLogical_eq_error_iff, compileListAt_eq_mapM]
  refine or_congr_right ?_
  constructor
  · rintro ⟨u, hcheck, h⟩
    refine ⟨fun e' he' => ?_, (bind_eq_error_iff.1 h).resolve_right ?_⟩
    · rw [checkLogical_eq_error_iff.2 he'] at hcheck
      cases hcheck
    · -- There are as many predicates as children, so joining them cannot fail.
      rintro ⟨ps, hps, hjoin⟩
      have hlength : 2 ≤ ps.length :=
        (mapM_eq_ok_iff.1 hps).length_eq ▸ (checkLogical_eq_ok_iff.1 hcheck).2.2
      rw [join_eq_ok_iff.2 ⟨hlength, rfl⟩] at hjoin
      cases hjoin
  · rintro ⟨hpasses, h⟩
    obtain ⟨u, hcheck⟩ | ⟨e', hcheck⟩ :=
      eq_ok_or_eq_error (c.checkLogical (depth + 1) op children.length)
    · exact ⟨u, hcheck, bind_eq_error_iff.2 (.inl h)⟩
    · exact absurd (checkLogical_eq_error_iff.1 hcheck) (hpasses e')

/-- If the compiler stops at the first error of each of several filters, it stops at the first error
of all of them. -/
theorem mapM_compileAt_eq_error_iff {depth : Nat} {fs : List Filter}
    (ih : ∀ f ∈ fs, ∀ e, c.compileAt depth f = .error e ↔ c.FirstError (f.places depth) e) :
    fs.mapM (c.compileAt depth) = .error e ↔
      c.FirstError (fs.flatMap (Filter.places depth)) e := by
  induction fs with
  | nil => exact iff_of_false nofun not_firstError_nil
  | cons f fs ihs =>
    obtain ⟨hf, hfs⟩ := List.forall_mem_cons.1 ih
    have hok : (∃ p, c.compileAt depth f = .ok p) ↔ ∀ p ∈ f.places depth, c.Passes p := by
      rw [forall_passes_iff]
      obtain ⟨p, hp⟩ | ⟨e', he'⟩ := eq_ok_or_eq_error (c.compileAt depth f)
      · exact iff_of_true ⟨p, hp⟩ fun e he => by simp [(hf e).2 he] at hp
      · exact iff_of_false (by simp [he']) fun h => h e' ((hf e').1 he')
    rw [mapM_cons_eq_error_iff, List.flatMap_cons, firstError_append_iff, hf e, hok, ihs hfs]

theorem compileAt_eq_error_iff {f : Filter} {depth : Nat} :
    c.compileAt depth f = .error e ↔ c.FirstError (f.places depth) e := by
  induction f generalizing depth e with
  | value field op operand =>
    rw [compileAt, Filter.places, firstError_singleton_iff]
    exact compileValue_eq_error_iff
  | membership field op operands =>
    rw [compileAt, Filter.places, firstError_singleton_iff]
    exact compileMembership_eq_error_iff
  | logical op children ih =>
    rw [compileAt_logical_eq_error_iff, Filter.places, firstError_cons_iff,
      mapM_compileAt_eq_error_iff fun f hf e => ih f hf]

/-- A filter is refused with the error of the first of its nodes that has one, whatever comes after
it. -/
theorem compileFilter_eq_error_iff (c : Compiler R) (f : Filter) (e : CompileError) :
    c.compileFilter f = .error e ↔
      ∃ before p after, f.places 0 = before ++ p :: after ∧
        (∀ q ∈ before, ∀ e', ¬c.LocalError q.depth q.node e') ∧ c.LocalError p.depth p.node e :=
  compileAt_eq_error_iff

end Compiler

end RecordQuery

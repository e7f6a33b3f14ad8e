import RecordQuery.Proofs.Coercion.Rendering
import RecordQuery.Proofs.Compiler.Acceptance

/-!
# The types of what is compared

Coercion gives an operand the type of the field, or leaves it null. The checks that follow when a
predicate is built repeat some that have passed, and can only object to null.

* `Compiler.ReachesValue`, `Compiler.ReachesMembers` and `Compiler.ReachesJoin`, the results with
  which the compiler comes to build the predicate of a node;
* `ReachesValue.eq_error_iff`, `ReachesMembers.eq_ok` and `ReachesJoin.eq_ok`, what may still fail
  there;
* `Compiler.ComparesFitting`, the leaves that compare a field with values of its type;
* `Compiler.typing_sound`, which sums this up.
-/

namespace RecordQuery

open Outcome

variable {R : Type}

/-- What an operand becomes is null where the operand is, and has the declared type elsewhere. No
float among it is infinite or a NaN. -/
theorem coerce_type {field : String} {declared : FieldType} {o : Operand} {v : Value}
    (h : coerce field declared o = .ok v) :
    (v = .null ↔ o.IsNull) ∧ (v ≠ .null → v.HasType declared) ∧
      ∀ x, v = .float x → x.isFinite = true := by
  refine ⟨coerce_eq_null_iff h, (coerce_fits h).resolve_left, ?_⟩
  rintro x rfl
  obtain rfl : FieldType.float = declared := Option.some.inj ((coerce_fits h).resolve_left nofun)
  exact coerce_isFinite h

theorem valuePredicate_eq_error_iff {field : String} {a : Accessor R} {op : Operator} {v : Value}
    {e : CompileError} :
    valuePredicate field a op v = .error e ↔ checkValue field a.type op v = .error e := by
  unfold valuePredicate
  simp only [bind_eq_error_iff, pure, Except.pure, reduceCtorEq, and_false, exists_false, or_false]

namespace Compiler

variable {c : Compiler R} {field : String} {op : Operator} {a : Accessor R}

/-- All that comes before the predicate of a leaf with one operand is built has succeeded. -/
structure ReachesValue (c : Compiler R) (field : String) (op : Operator) (operand : Operand)
    (a : Accessor R) (v : Value) : Prop where
  kind : requireKind op .value = .ok ()
  lookup : c.fields.lookup field = .ok a
  applicable : checkApplicable field a.type op = .ok ()
  coerced : coerce field a.type operand = .ok v

/-- All that comes before the predicate of a leaf with a list of operands is built has succeeded. -/
structure ReachesMembers (c : Compiler R) (field : String) (op : Operator)
    (operands : List Operand) (a : Accessor R) (vs : ValueSet) : Prop where
  kind : requireKind op .membership = .ok ()
  lookup : c.fields.lookup field = .ok a
  length : operands.length ≤ c.limits.maxValues
  coerced : coerceMany field a.type operands = .ok vs

/-- All that comes before the predicates of the children are joined has succeeded. -/
structure ReachesJoin (c : Compiler R) (depth : Nat) (op : Operator) (children : List Filter)
    (ps : List (Predicate R)) : Prop where
  checked : c.checkLogical (depth + 1) op children.length = .ok ()
  compiled : c.compileListAt (depth + 1) children = .ok ps

section Value

variable {operand : Operand} {v : Value} (h : c.ReachesValue field op operand a v)
include h

theorem ReachesValue.compileValue_eq :
    c.compileValue field op operand = valuePredicate field a op v := by
  simp only [compileValue, h.kind, h.lookup, h.applicable, h.coerced, ok_bind]

/-- Of an operand that has been coerced, only null can be refused. -/
theorem ReachesValue.eq_error_iff {e : CompileError} :
    valuePredicate field a op v = .error e ↔ operand.IsNull ∧
      (op.isOrdering = true ∧ .coercion field a.type "null" .nullOrdering = e ∨
        op.isContainment = true ∧ .coercion field a.type "null" .nullContainment = e) := by
  obtain ⟨hkind, happ⟩ := checkApplicable_eq_ok_iff.1 h.applicable
  rw [valuePredicate_eq_error_iff, checkValue_eq_error_iff hkind happ (coerce_fits h.coerced),
    coerce_eq_null_iff h.coerced]

end Value

section Members

variable {operands : List Operand} {vs : ValueSet} (h : c.ReachesMembers field op operands a vs)
include h

theorem ReachesMembers.fits : ∀ v ∈ vs.members, v.Fits a.type := by
  obtain ⟨ws, hws, rfl⟩ := coerceMany_eq_ok_iff.1 h.coerced
  exact fits_of_mem_ofList hws

theorem ReachesMembers.compileMembership_eq :
    c.compileMembership field op operands = membershipPredicate field a op vs := by
  have hlength : ensure (operands.length ≤ c.limits.maxValues)
      (.tooManyValues field operands.length c.limits.maxValues) = .ok () :=
    ensure_eq_ok_iff.2 h.length
  simp only [compileMembership, h.kind, h.lookup, hlength, h.coerced, ok_bind]

theorem ReachesMembers.eq_ok :
    membershipPredicate field a op vs = .ok (membershipTest a op vs) := by
  have hcheck : checkMembers field a.type op vs = .ok () :=
    checkMembers_eq_ok_iff.2 ⟨requireKind_eq_ok_iff.1 h.kind, h.fits⟩
  rw [membershipPredicate, hcheck]
  rfl

end Members

section Join

variable {depth : Nat} {children : List Filter} {ps : List (Predicate R)}
  (h : c.ReachesJoin depth op children ps)
include h

theorem ReachesJoin.compileAt_eq : c.compileAt depth (.logical op children) = join op ps := by
  simp only [compileAt, h.checked, h.compiled, ok_bind]

/-- There are as many predicates as children. -/
theorem ReachesJoin.eq_ok : join op ps = .ok (joined op ps) := by
  have hcompiled := h.compiled
  rw [compileListAt_eq_mapM] at hcompiled
  have hlength := (mapM_eq_ok_iff.1 hcompiled).length_eq
  exact join_eq_ok_iff.2 ⟨hlength ▸ (checkLogical_eq_ok_iff.1 h.checked).2.2, rfl⟩

end Join

/-- A leaf is compiled to a test of a field against values that the field might have itself: null or
values of its type. -/
def ComparesFitting (c : Compiler R) : Filter → Prop
  | .value field op operand => ∃ a v, c.fields.find? field = some a ∧
      (∀ r, (a.value r).Fits a.type) ∧ v.Fits a.type ∧
      c.compileFilter (.value field op operand) = .ok (valueTest a op v)
  | .membership field op operands => ∃ a vs, c.fields.find? field = some a ∧
      (∀ r, (a.value r).Fits a.type) ∧ (∀ v ∈ vs.members, v.Fits a.type) ∧
      c.compileFilter (.membership field op operands) = .ok (membershipTest a op vs)
  | .logical _ _ => True

theorem comparesFitting_of_admits {n : Filter} (h : c.Admits n) : c.ComparesFitting n := by
  cases n with
  | value field op operand =>
    obtain ⟨p, hp⟩ := exists_compileValue_iff.2 h
    obtain ⟨-, a, v, ha, -, hv, -, rfl⟩ := compileValue_eq_ok_iff.1 hp
    exact ⟨a, v, ha, a.value_type, coerce_fits hv, compileFilter_value.trans hp⟩
  | membership field op operands =>
    obtain ⟨p, hp⟩ := exists_compileMembership_iff.2 h
    obtain ⟨-, a, ws, ha, -, hws, rfl⟩ := compileMembership_eq_ok_iff.1 hp
    refine ⟨a, .ofList ws, ha, a.value_type, fits_of_mem_ofList hws, ?_⟩
    rw [compileFilter, compileAt, hp]
  | logical op children => trivial

/-- An operand that is accepted has the declared type, or is null as it was written. So, when the
predicate of a node is built, nothing fails any more but an order or a search for a text with null,
and each leaf of a compiled filter compares a field with null or a value of its type. -/
theorem typing_sound (c : Compiler R) :
    (∀ field declared o v, coerce field declared o = .ok v →
      (v = .null ↔ o.IsNull) ∧ (v ≠ .null → v.HasType declared) ∧
        ∀ x, v = .float x → x.isFinite = true) ∧
    (∀ field op operand a v, c.ReachesValue field op operand a v →
      c.compileFilter (.value field op operand) = valuePredicate field a op v ∧
      ∀ e, valuePredicate field a op v = .error e ↔ operand.IsNull ∧
        (op.isOrdering = true ∧ .coercion field a.type "null" .nullOrdering = e ∨
          op.isContainment = true ∧ .coercion field a.type "null" .nullContainment = e)) ∧
    (∀ field op operands a vs, c.ReachesMembers field op operands a vs →
      c.compileFilter (.membership field op operands) = membershipPredicate field a op vs ∧
      membershipPredicate field a op vs = .ok (membershipTest a op vs)) ∧
    (∀ depth op children ps, c.ReachesJoin depth op children ps →
      c.compileAt depth (.logical op children) = join op ps ∧ join op ps = .ok (joined op ps)) ∧
    ∀ f p, c.compileFilter f = .ok p → ∀ n ∈ f.nodes, c.ComparesFitting n := by
  refine ⟨fun _ _ _ _ => coerce_type, fun field op operand a v h => ⟨?_, fun e => h.eq_error_iff⟩,
    fun field op operands a vs h => ⟨?_, h.eq_ok⟩, fun _ _ _ _ h => ⟨h.compileAt_eq, h.eq_ok⟩, ?_⟩
  · rw [compileFilter_value, h.compileValue_eq]
  · rw [compileFilter, compileAt, h.compileMembership_eq]
  · intro f p h n hn
    exact comparesFitting_of_admits (((c.exists_compileFilter_iff f).1 ⟨p, h⟩).2 n hn)

/-- An integer is coerced to a float. With null in its place an order is refused, and only when the
predicate is built, while a list of both and a disjunction of leaves are accepted. -/
theorem typing_sound_of_null :
    let c : Compiler (Option Binary64) := ⟨.ofList [("x", .float id)], {}⟩
    let five : Operand := .typed (.integer 5)
    let a : Accessor (Option Binary64) := .float id
    ∃ v vs p q, coerce "x" .float five = .ok v ∧ v.HasType .float ∧
      c.compileFilter (.value "x" .lt .null) =
        .error (.coercion "x" .float "null" .nullOrdering) ∧
      c.compileFilter (.membership "x" .notIn [.null, five]) = .ok (membershipTest a .notIn vs) ∧
      c.compileFilter (.logical .or [.value "x" .lt five, .value "x" .eq .null]) =
        .ok (joined .or [p, q]) ∧
      c.ComparesFitting (.value "x" .lt five) := by
  intro c five a
  obtain ⟨hcoerce, hvalue, hmembers, hjoin, hnodes⟩ := typing_sound c
  obtain ⟨v, hv⟩ : ∃ v, coerce "x" .float five = .ok v := ⟨_, rfl⟩
  obtain ⟨vs, hvs⟩ : ∃ vs, coerceMany "x" .float [.null, five] = .ok vs := ⟨_, rfl⟩
  obtain ⟨p, hp⟩ : ∃ p, c.compileFilter (.value "x" .lt five) = .ok p := ⟨_, rfl⟩
  obtain ⟨q, hq⟩ : ∃ q, c.compileFilter (.value "x" .eq .null) = .ok q := ⟨_, rfl⟩
  obtain ⟨hnull, htype, -⟩ := hcoerce _ _ _ _ hv
  obtain ⟨hlt, herror⟩ := hvalue "x" .lt .null a .null ⟨rfl, rfl, rfl, rfl⟩
  obtain ⟨hnotIn, hok⟩ := hmembers "x" .notIn [.null, five] a vs ⟨rfl, rfl, by decide, hvs⟩
  obtain ⟨hor, hjoined⟩ := hjoin 0 .or [.value "x" .lt five, .value "x" .eq .null] [p, q]
    ⟨rfl, by rw [compileListAt_eq_mapM]; exact Outcome.mapM_eq_ok_iff.2 (.cons hp (.cons hq .nil))⟩
  have hne : v ≠ .null := fun h => nomatch hnull.1 h
  refine ⟨v, vs, p, q, hv, htype hne, ?_, hnotIn.trans hok, hor.trans hjoined, ?_⟩
  · exact hlt.trans ((herror _).2 ⟨rfl, .inl ⟨rfl, rfl⟩⟩)
  · exact hnodes _ p hp _ (Filter.mem_nodes_self _)

end Compiler

end RecordQuery

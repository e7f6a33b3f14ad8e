import RecordQuery.Proofs.Compiler.Success
import RecordQuery.Proofs.Filter.Nodes

/-!
# Which filters are compiled

* `Compiler.Admits`, what each node has to satisfy by itself;
* `exists_compileAt_iff`, which shows by induction on the tree that the nodes and the depth decide
  whether a filter is compiled;
* `exists_compileFilter_iff`, the same for whole filters.
-/

namespace RecordQuery

open Outcome

variable {R : Type}

theorem Operator.kind_eq_logical_iff {op : Operator} :
    op.kind = .logical ↔ op = .and ∨ op = .or := by
  cases op <;> simp [kind]

theorem Operator.kind_eq_membership_iff {op : Operator} :
    op.kind = .membership ↔ op = .isIn ∨ op = .notIn := by
  cases op <;> simp [kind]

/-- The operand is brought to the declared type of the field. -/
def Operand.CoercibleTo (o : Operand) (field : String) (type : FieldType) : Prop :=
  ∃ v, coerce field type o = .ok v

namespace Compiler

/-- What a node has to satisfy by itself. A leaf names a field, and its operator and operands suit
the field. A node with children has at least two. -/
def Admits (c : Compiler R) : Filter → Prop
  | .value field op operand =>
    op.kind = .value ∧ ∃ a, c.fields.find? field = some a ∧ op.AppliesTo a.type ∧
      operand.CoercibleTo field a.type ∧ (op.NeedsValue → ¬operand.IsNull)
  | .membership field op operands =>
    (op = .isIn ∨ op = .notIn) ∧ ∃ a, c.fields.find? field = some a ∧
      operands.length ≤ c.limits.maxValues ∧ ∀ o ∈ operands, o.CoercibleTo field a.type
  | .logical op children => (op = .and ∨ op = .or) ∧ 2 ≤ children.length

variable {c : Compiler R}

theorem exists_compileValue_iff {field : String} {op : Operator} {operand : Operand} :
    (∃ p, c.compileValue field op operand = .ok p) ↔ c.Admits (.value field op operand) := by
  simp only [compileValue_eq_ok_iff]
  constructor
  · rintro ⟨_, hkind, a, v, ha, happ, hv, hneeds, -⟩
    exact ⟨hkind, a, ha, happ, ⟨v, hv⟩, fun h hnull => hneeds h ((coerce_eq_null_iff hv).2 hnull)⟩
  · rintro ⟨hkind, a, ha, happ, ⟨v, hv⟩, hneeds⟩
    exact ⟨_, hkind, a, v, ha, happ, hv, fun h hnull => hneeds h ((coerce_eq_null_iff hv).1 hnull),
      rfl⟩

theorem exists_compileMembership_iff {field : String} {op : Operator} {operands : List Operand} :
    (∃ p, c.compileMembership field op operands = .ok p) ↔
      c.Admits (.membership field op operands) := by
  simp only [compileMembership_eq_ok_iff, Operator.kind_eq_membership_iff]
  constructor
  · rintro ⟨_, hop, a, ws, ha, hlen, hws, -⟩
    exact ⟨hop, a, ha, hlen, exists_mapM_eq_ok_iff.1 ⟨ws, hws⟩⟩
  · rintro ⟨hop, a, ha, hlen, hall⟩
    obtain ⟨ws, hws⟩ := exists_mapM_eq_ok_iff.2 hall
    exact ⟨_, hop, a, ws, ha, hlen, hws, rfl⟩

theorem exists_compileAt_logical_iff {depth : Nat} {op : Operator} {children : List Filter} :
    (∃ p, c.compileAt depth (.logical op children) = .ok p) ↔
      c.Admits (.logical op children) ∧ depth + 1 ≤ c.limits.maxDepth ∧
        ∀ f ∈ children, ∃ p, c.compileAt (depth + 1) f = .ok p := by
  simp only [compileAt_logical_eq_ok_iff, Operator.kind_eq_logical_iff]
  rw [← exists_mapM_eq_ok_iff]
  constructor
  · rintro ⟨_, hop, hdepth, hlen, ps, hps, -⟩
    exact ⟨⟨hop, hlen⟩, hdepth, ps, hps⟩
  · rintro ⟨⟨hop, hlen⟩, hdepth, ps, hps⟩
    exact ⟨_, hop, hdepth, hlen, ps, hps, rfl⟩

/-- Inside of `depth` logical nodes, the limit on nesting is left with what the depth of the filter
may take of it. -/
theorem exists_compileAt_iff {f : Filter} {depth : Nat} (hdepth : depth ≤ c.limits.maxDepth) :
    (∃ p, c.compileAt depth f = .ok p) ↔
      depth + f.depth ≤ c.limits.maxDepth ∧ ∀ n ∈ f.nodes, c.Admits n := by
  induction f generalizing depth with
  | value field op operand =>
    simp only [compileAt, exists_compileValue_iff, Filter.depth, Filter.nodes, List.mem_singleton,
      forall_eq, Nat.add_zero, hdepth, true_and]
  | membership field op operands =>
    simp only [compileAt, exists_compileMembership_iff, Filter.depth, Filter.nodes,
      List.mem_singleton, forall_eq, Nat.add_zero, hdepth, true_and]
  | logical op children ih =>
    rw [exists_compileAt_logical_iff, Filter.add_depth_logical_le_iff]
    simp only [Filter.mem_nodes_logical_iff, forall_eq_or_imp]
    -- A node that is admitted leaves room for its children, which is what `ih` asks for.
    constructor
    · rintro ⟨hnode, hlt, hall⟩
      have hsub := fun f hf => (ih f hf hlt).1 (hall f hf)
      refine ⟨⟨hlt, fun f hf => (hsub f hf).1⟩, hnode, ?_⟩
      rintro n ⟨f, hf, hn⟩
      exact (hsub f hf).2 n hn
    · rintro ⟨⟨hlt, hdepths⟩, hnode, hnodes⟩
      refine ⟨hnode, hlt, fun f hf => (ih f hf hlt).2 ⟨hdepths f hf, ?_⟩⟩
      exact fun n hn => hnodes n ⟨f, hf, hn⟩

/-- A filter is compiled if it is not too deep and each of its nodes is admitted. -/
theorem exists_compileFilter_iff (c : Compiler R) (f : Filter) :
    (∃ p, c.compileFilter f = .ok p) ↔
      f.depth ≤ c.limits.maxDepth ∧ ∀ n ∈ f.nodes, c.Admits n := by
  have h := exists_compileAt_iff (c := c) (f := f) (Nat.zero_le _)
  rwa [Nat.zero_add] at h

end Compiler

end RecordQuery

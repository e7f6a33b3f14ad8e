import RecordQuery.Filter.Basic

/-!
# The nodes of a filter

* `Filter.nodes`, every node with all that is below it, each before its children;
* `Filter.places`, the same nodes, each with the number of logical nodes around it;
* `mem_nodes_logical_iff` and `add_depth_logical_le_iff`, the nodes and the depth of a node with
  children by those of the children;
* `fields_subset_logical`, the fields of a child among those of its node.
-/

namespace RecordQuery.Filter

/-- The nodes of a filter from left to right, each before its children. -/
def nodes : Filter → List Filter
  | .value field op operand => [.value field op operand]
  | .membership field op operands => [.membership field op operands]
  | .logical op children => .logical op children :: children.flatMap nodes

/-- A node of a filter, and the number of logical nodes around it. -/
structure Place where
  depth : Nat
  node : Filter

/-- The nodes of a filter that stands inside `depth` logical nodes, from left to right, each before
its children. -/
def places (depth : Nat) : Filter → List Place
  | .value field op operand => [⟨depth, .value field op operand⟩]
  | .membership field op operands => [⟨depth, .membership field op operands⟩]
  | .logical op children => ⟨depth, .logical op children⟩ :: children.flatMap (places (depth + 1))

theorem mem_nodes_self (f : Filter) : f ∈ f.nodes := by
  cases f <;> simp [nodes]

theorem mem_nodes_logical_iff {op : Operator} {children : List Filter} {n : Filter} :
    n ∈ (logical op children).nodes ↔ n = .logical op children ∨ ∃ f ∈ children, n ∈ f.nodes := by
  rw [nodes, List.mem_cons, List.mem_flatMap]

theorem listDepth_le_iff {fs : List Filter} {n : Nat} :
    listDepth fs ≤ n ↔ ∀ f ∈ fs, f.depth ≤ n := by
  induction fs with
  | nil => simp [listDepth]
  | cons f fs ih => rw [listDepth, Nat.max_le, ih, List.forall_mem_cons]

/-- A node with children takes one level of what is left for nesting. -/
theorem add_depth_logical_le_iff {op : Operator} {children : List Filter} {m n : Nat} :
    m + (logical op children).depth ≤ n ↔
      m + 1 ≤ n ∧ ∀ f ∈ children, m + 1 + f.depth ≤ n := by
  have h := @listDepth_le_iff children (n - (m + 1))
  rw [depth]
  constructor
  · intro hle
    refine ⟨by omega, fun f hf => ?_⟩
    have := h.1 (by omega) f hf
    omega
  · rintro ⟨hle, hall⟩
    have := h.2 fun f hf => by
      have := hall f hf
      omega
    omega

theorem listFields_eq_flatMap (fs : List Filter) : listFields fs = fs.flatMap fields := by
  induction fs with
  | nil => rfl
  | cons f fs ih => rw [listFields, ih, List.flatMap_cons]

theorem fields_subset_logical {op : Operator} {children : List Filter} {f : Filter}
    (hf : f ∈ children) : f.fields ⊆ (logical op children).fields := by
  intro field hfield
  rw [fields, listFields_eq_flatMap]
  exact List.mem_flatMap.2 ⟨f, hf, hfield⟩

end RecordQuery.Filter

import RecordQuery.Proofs.Sort.Rules

/-!
# Sorting in passes

A list is sorted by several keys at once, or by one key after the other, the key of the least weight
first. Since no pass moves records that tie, both give the same.

* `IsStableSort.andThen`, two passes over any list;
* `SortOrder.isStableSort_sort` and `SortOrder.sort_cons`, the first key of an order as the last
  pass;
* `SortOrder.sort_eq_foldr`, an order as one pass for each of its keys;
* `Compiler.sort_eq_sort_sort`, which shows this for sort rules.
-/

namespace RecordQuery

open Outcome

section Lists

variable {α : Type} {major minor : α → α → Ordering}

theorem ties_compareLex (x : α) (items : List α) :
    ties (compareLex major minor) x items = ties major x (ties minor x items) := by
  rw [ties, ties, ties, List.filter_filter]
  refine List.filter_congr fun y _ => ?_
  rw [Bool.eq_iff_iff, Bool.and_eq_true, beq_iff_eq, beq_iff_eq, beq_iff_eq, compareLex,
    Ordering.then_eq_eq]

theorem ties_comm (x : α) (items : List α) :
    ties major x (ties minor x items) = ties minor x (ties major x items) :=
  ties_filter x _ items

/-- A list that is sorted by one comparison and then by another is sorted by the second one, and
where this one ties by the first. -/
theorem IsStableSort.andThen [Std.ReflCmp major] {items once twice : List α}
    (hminor : IsStableSort minor items once) (hmajor : IsStableSort major once twice) :
    IsStableSort (compareLex major minor) items twice where
  perm := hmajor.perm.trans hminor.perm
  ordered := by
    refine List.pairwise_iff_forall_sublist.2 fun {x y} hxy => ?_
    have hle := List.pairwise_iff_forall_sublist.1 hmajor.ordered hxy
    rw [compareLex]
    cases h : major x y with
    | lt => rfl
    | gt => simp [h] at hle
    | eq =>
      -- What ties with `x` stands in the list as the first pass left it.
      have hties : ties major x [x, y] = [x, y] := by
        rw [ties_cons_of_eq Std.ReflCmp.compare_self, ties_cons_of_eq h]
        rfl
      have hsub : [x, y].Sublist once := by
        have htwice := hxy.filter fun z => major x z == .eq
        rw [← ties, ← ties, hties, hmajor.stable] at htwice
        exact htwice.trans List.filter_sublist
      exact List.pairwise_iff_forall_sublist.1 hminor.ordered hsub
  stable x := by
    rw [ties_compareLex, ties_compareLex, ties_comm, hmajor.stable, ← ties_comm, hminor.stable]

end Lists

variable {R : Type}

namespace SortOrder

variable {k : SortKey R} {ks : List (SortKey R)}

theorem isStableSort_sort (o : SortOrder R) (records : List R) :
    IsStableSort o.compare records (o.sort records) :=
  isStableSort_mergeSort o.compare records

/-- To leave records out of a sorted list is to leave them out before it is sorted. -/
theorem sort_filter (o : SortOrder R) (p : R → Bool) (records : List R) :
    o.sort (records.filter p) = (o.sort records).filter p :=
  (o.isStableSort_sort _).unique ((o.isStableSort_sort records).filter p)

theorem compare_singleton (k : SortKey R) : compare ⟨[k]⟩ = k.compare := by
  funext a b
  exact Ordering.then_eq

/-- The first key sorts what the other keys have sorted. -/
theorem sort_cons (k : SortKey R) (ks : List (SortKey R)) (records : List R) :
    sort ⟨k :: ks⟩ records = sort ⟨[k]⟩ (sort ⟨ks⟩ records) := by
  have hminor := isStableSort_sort ⟨ks⟩ records
  have hmajor := isStableSort_sort ⟨[k]⟩ (sort ⟨ks⟩ records)
  rw [compare_singleton] at hmajor
  exact (isStableSort_sort ⟨k :: ks⟩ records).unique (hminor.andThen hmajor)

/-- An order sorts by one key after the other, from the last to the first. -/
theorem sort_eq_foldr (o : SortOrder R) (records : List R) :
    o.sort records = o.keys.foldr (fun k sorted => sort ⟨[k]⟩ sorted) records := by
  obtain ⟨ks⟩ := o
  induction ks with
  | nil => exact (isStableSort_sort ⟨[]⟩ records).unique (.of_forall_eq (fun _ _ => rfl) records)
  | cons k ks ih => rw [sort_cons, ih, List.foldr_cons]

end SortOrder

namespace Compiler

variable {c : Compiler R} {first : SortRule} {rest : List SortRule}

theorem compileSort_cons {k : SortKey R} {ks : List (SortKey R)}
    (hk : c.compileRule first = .ok k) (hks : rest.mapM c.compileRule = .ok ks) :
    c.compileSort (first :: rest) = .ok ⟨k :: ks⟩ := by
  have hkeys : (first :: rest).mapM c.compileRule = .ok (k :: ks) :=
    mapM_eq_ok_iff.2 (.cons hk (mapM_eq_ok_iff.1 hks))
  exact compileSort_eq_ok_iff.2 ⟨List.cons_ne_nil _ _, _, hkeys, rfl⟩

/-- Rules sort any records as the first rule alone sorts what the other rules have sorted. -/
theorem sort_eq_sort_sort (hrest : rest ≠ [])
    (hfields : ∀ rule ∈ first :: rest, ∃ a, c.fields.find? rule.field = some a) :
    ∃ all one others, c.compileSort (first :: rest) = .ok all ∧
      c.compileSort [first] = .ok one ∧ c.compileSort rest = .ok others ∧
      ∀ records, all.sort records = one.sort (others.sort records) := by
  have hrules : ∀ rule ∈ first :: rest, ∃ k, c.compileRule rule = .ok k := by
    intro rule hrule
    obtain ⟨a, ha⟩ := hfields rule hrule
    exact ⟨_, compileRule_eq_ok_iff.2 ⟨a, ha, rfl⟩⟩
  obtain ⟨⟨k, hk⟩, hothers⟩ := List.forall_mem_cons.1 hrules
  obtain ⟨ks, hks⟩ := exists_mapM_eq_ok_iff.2 hothers
  exact ⟨_, _, _, compileSort_cons hk hks, compileSort_cons hk rfl,
    compileSort_eq_ok_iff.2 ⟨hrest, ks, hks, rfl⟩, SortOrder.sort_cons k ks⟩

/-- Records that tie on the number, among them two without one, are left to the text, and those
that tie on both stay as they were. -/
theorem sort_eq_sort_sort_of_ties :
    let c : Compiler (Option Int64 × String × Nat) :=
      ⟨.ofList [("n", .integer Prod.fst), ("s", .text fun r => some r.2.1)], {}⟩
    let records := [(none, "b", 0), (some 1, "b", 1), (none, "a", 2), (some 2, "b", 3),
      (some 1, "a", 4), (some 1, "b", 5)]
    ∃ all one others, c.compileSort [⟨"n", .desc⟩, ⟨"s", .asc⟩] = .ok all ∧
      c.compileSort [⟨"n", .desc⟩] = .ok one ∧ c.compileSort [⟨"s", .asc⟩] = .ok others ∧
      all.sort records = one.sort (others.sort records) ∧
      (all.sort records).map (·.2.2) = [3, 4, 1, 5, 2, 0] := by
  intro c records
  have hfields : ∀ rule ∈ [(⟨"n", .desc⟩ : SortRule), ⟨"s", .asc⟩],
      ∃ a, c.fields.find? rule.field = some a := by
    simp only [List.forall_mem_cons, List.not_mem_nil, false_imp_iff, implies_true, and_true]
    exact ⟨⟨_, rfl⟩, ⟨_, rfl⟩⟩
  obtain ⟨all, one, others, hall, hone, hothers, hsort⟩ :=
    sort_eq_sort_sort (List.cons_ne_nil _ _) hfields
  refine ⟨all, one, others, hall, hone, hothers, hsort records, ?_⟩
  obtain rfl : _ = all := Except.ok.inj hall
  simp +decide [SortOrder.sort, List.mergeSort, records]

end Compiler

end RecordQuery

import RecordQuery.Proofs.Sort.Passes
import RecordQuery.Proofs.Sort.Runs

/-!
# Sorting in the opposite direction

An order with every direction turned around sorts the reversed list into the reverse of the sorted
one. Items that tie keep their order in both lists, so they too come out reversed.

* `IsStableSort.reverse`, for any list and comparison;
* `SortRule.opposite`, `SortKey.opposite` and `SortOrder.opposite`, which turn directions around, and
  `SortOrder.sort_opposite`, which shows what they sort;
* `eq_filter_append`, the items in front of an ordered list;
* `Compiler.sort_reverse`, which shows both for sort rules and for the nulls among the records.
-/

namespace RecordQuery

open Outcome

section Lists

variable {α : Type} {cmp : α → α → Ordering} {items : List α}

theorem ties_reverse [Std.OrientedCmp cmp] (x : α) (items : List α) :
    ties (fun x y => cmp y x) x items.reverse = (ties cmp x items).reverse := by
  rw [ties, ties, List.filter_reverse]
  congr 1
  refine List.filter_congr fun y _ => ?_
  rw [Bool.eq_iff_iff, beq_iff_eq, beq_iff_eq, Std.OrientedCmp.eq_comm]

/-- The reverse of a sorted list is the reversed list sorted by the comparison turned around. -/
theorem IsStableSort.reverse [Std.OrientedCmp cmp] {sorted : List α}
    (h : IsStableSort cmp items sorted) :
    IsStableSort (fun x y => cmp y x) items.reverse sorted.reverse where
  perm := (sorted.reverse_perm.trans h.perm).trans items.reverse_perm.symm
  ordered := List.pairwise_reverse.2 h.ordered
  stable x := by rw [ties_reverse, ties_reverse, h.stable]

/-- Where `p` holds of an item only if it holds of all before it, the items that satisfy `p` are
those in front. -/
theorem eq_filter_append {p : α → Bool} (h : Ordered cmp items)
    (hp : ∀ x y, (cmp x y).isLE → p y = true → p x = true) :
    items = items.filter p ++ items.filter fun x => !p x := by
  induction items with
  | nil => rfl
  | cons x xs ih =>
    cases hx : p x with
    | true =>
      rw [List.filter_cons_of_pos hx, List.filter_cons_of_neg (by simp [hx]), List.cons_append,
        ← ih h.of_cons]
    | false =>
      have hnone : ∀ y ∈ x :: xs, ¬p y = true := by
        rintro y hy hpy
        rcases List.mem_cons.1 hy with rfl | hy
        · simp [hx] at hpy
        · simp [hp x y (List.rel_of_pairwise_cons h hy) hpy] at hx
      rw [List.filter_eq_nil_iff.2 hnone, List.nil_append, List.filter_eq_self.2]
      intro y hy
      rw [Bool.not_eq_true', Bool.eq_false_iff]
      exact hnone y hy

end Lists

namespace Direction

/-- The other direction. -/
def opposite : Direction → Direction
  | .asc => .desc
  | .desc => .asc

theorem apply_opposite (d : Direction) (o : Ordering) : d.opposite.apply o = d.apply o.swap := by
  cases d with
  | asc => rfl
  | desc => exact o.swap_swap.symm

end Direction

/-- The rule for the same field in the other direction. -/
def SortRule.opposite (rule : SortRule) : SortRule :=
  { rule with direction := rule.direction.opposite }

variable {R : Type}

/-- The key of the same field in the other direction. -/
def SortKey.opposite (k : SortKey R) : SortKey R :=
  { k with direction := k.direction.opposite }

/-- The order with every key in the other direction. -/
def SortOrder.opposite (o : SortOrder R) : SortOrder R :=
  ⟨o.keys.map SortKey.opposite⟩

theorem SortKey.compare_opposite (k : SortKey R) (a b : R) :
    k.opposite.compare a b = k.compare b a := by
  rw [compare, compare, opposite, Direction.apply_opposite, ← Value.compareTotal_swap]

theorem SortOrder.compare_opposite (o : SortOrder R) (a b : R) :
    o.opposite.compare a b = o.compare b a := by
  simp only [compare, opposite, List.foldr_map, SortKey.compare_opposite]

/-- Records that are reversed and sorted the other way around come out reversed. -/
theorem SortOrder.sort_opposite (o : SortOrder R) (records : List R) :
    o.opposite.sort records.reverse = (o.sort records).reverse := by
  have hreverse := (o.isStableSort_sort records).reverse
  have hcompare : (fun a b => o.compare b a) = o.opposite.compare := by
    funext a b
    exact (o.compare_opposite a b).symm
  rw [hcompare] at hreverse
  exact (o.opposite.isStableSort_sort records.reverse).unique hreverse

namespace Compiler

variable {c : Compiler R} {rules : List SortRule} {o : SortOrder R}

theorem compileRule_opposite (c : Compiler R) (rule : SortRule) :
    c.compileRule rule.opposite = (c.compileRule rule).map SortKey.opposite := by
  unfold compileRule SortRule.opposite
  cases c.fields.lookup rule.field <;> rfl

/-- Directions play no part in whether rules are compiled. -/
theorem compileSort_opposite (c : Compiler R) (rules : List SortRule) :
    c.compileSort (rules.map SortRule.opposite) = (c.compileSort rules).map SortOrder.opposite := by
  unfold compileSort
  cases rules with
  | nil => rfl
  | cons rule rules =>
    have hkeys : ((rule :: rules).map SortRule.opposite).mapM c.compileRule =
        ((rule :: rules).mapM c.compileRule).map (List.map SortKey.opposite) := by
      rw [List.mapM_map]
      exact mapM_eq_map_mapM fun rule _ => c.compileRule_opposite rule
    rw [hkeys]
    show ((rule :: rules).mapM c.compileRule).map (List.map SortKey.opposite) >>= _ = _
    rw [bind_map_eq]
    cases (rule :: rules).mapM c.compileRule <;> rfl

/-- Where records are sorted by a field first and in ascending order, those without a value are in
front. -/
theorem exists_sort_eq_append {field : String} {rest : List SortRule}
    (ho : c.compileSort (⟨field, .asc⟩ :: rest) = .ok o) (records : List R) :
    ∃ a nulls others, c.fields.find? field = some a ∧ o.sort records = nulls ++ others ∧
      (∀ r ∈ nulls, a.value r = .null) ∧ ∀ r ∈ others, a.value r ≠ .null := by
  obtain ⟨a, ha⟩ := exists_find?_of_compileSort ho List.mem_cons_self
  have hfront := eq_filter_append (p := fun r => a.value r == .null) (ordered_sort ho records)
    fun r s hrs hs => by
      rw [compareByRule_eq ha, beq_iff_eq.1 hs] at hrs
      exact beq_iff_eq.2 (Value.eq_null_of_isLE hrs)
  refine ⟨a, _, _, ha, hfront, fun r hr => ?_, fun r hr => ?_⟩
  · simpa using List.of_mem_filter hr
  · simpa using List.of_mem_filter hr

/-- Rules with every direction turned around are compiled where the rules are, and fail as these
do. What they make of the reversed records is the reverse of what the rules make of the records. If
the first rule is ascending, the records without a value in its field come first, and come last in
the other direction. -/
theorem sort_reverse (c : Compiler R) (rules : List SortRule) :
    (∀ e, c.compileSort (rules.map SortRule.opposite) = .error e ↔ c.compileSort rules = .error e) ∧
    ∀ o, c.compileSort rules = .ok o → ∃ o', c.compileSort (rules.map SortRule.opposite) = .ok o' ∧
      ∀ records, o'.sort records.reverse = (o.sort records).reverse ∧
        ∀ field rest, rules = ⟨field, .asc⟩ :: rest → ∃ a nulls others,
          c.fields.find? field = some a ∧ o.sort records = nulls ++ others ∧
          o'.sort records.reverse = others.reverse ++ nulls.reverse ∧
          (∀ r ∈ nulls, a.value r = .null) ∧ ∀ r ∈ others, a.value r ≠ .null := by
  refine ⟨fun e => ?_, fun o ho => ⟨o.opposite, ?_, fun records => ⟨o.sort_opposite records, ?_⟩⟩⟩
  · rw [compileSort_opposite, map_eq_error_iff]
  · rw [compileSort_opposite, ho]
    rfl
  · rintro field rest rfl
    obtain ⟨a, nulls, others, ha, hsort, hnulls, hothers⟩ := exists_sort_eq_append ho records
    refine ⟨a, nulls, others, ha, hsort, ?_, hnulls, hothers⟩
    rw [o.sort_opposite, hsort, List.reverse_append]

/-- Two records without a number come first, and last in the other direction, each time as they
stood. So do two that tie on a NaN. -/
theorem sort_reverse_of_nulls :
    let c : Compiler (Option Binary64 × Nat) := ⟨.ofList [("x", .float Prod.fst)], {}⟩
    let nan : Option Binary64 := some ⟨0x7FF8000000000000⟩
    let records := [(nan, 0), (none, 1), (some ⟨0⟩, 2), (nan, 3), (none, 4)]
    ∃ o o' nulls others, c.compileSort [⟨"x", .asc⟩] = .ok o ∧
      c.compileSort [⟨"x", .desc⟩] = .ok o' ∧
      o.sort records = nulls ++ others ∧ o'.sort records.reverse = others.reverse ++ nulls.reverse ∧
      (∀ r ∈ nulls, (Accessor.float Prod.fst).value r = .null) ∧
      (o.sort records).map Prod.snd = [1, 4, 2, 0, 3] ∧
      (o'.sort records.reverse).map Prod.snd = [3, 0, 2, 4, 1] := by
  intro c nan records
  obtain ⟨o, ho⟩ : ∃ o, c.compileSort [⟨"x", .asc⟩] = .ok o := ⟨_, rfl⟩
  obtain ⟨o', ho', hall⟩ := (sort_reverse c _).2 o ho
  obtain ⟨hsort, hnulls⟩ := hall records
  obtain ⟨a, nulls, others, ha, happend, hreverse, hnull, -⟩ := hnulls "x" [] rfl
  obtain rfl : Accessor.float Prod.fst = a := Option.some.inj ha
  have hsorted : (o.sort records).map Prod.snd = [1, 4, 2, 0, 3] := by
    obtain rfl : _ = o := Except.ok.inj ho
    simp +decide [SortOrder.sort, List.mergeSort, records, nan]
  refine ⟨o, o', nulls, others, ho, ho', happend, hreverse, hnull, hsorted, ?_⟩
  rw [hsort, List.map_reverse, hsorted]
  rfl

end Compiler

end RecordQuery

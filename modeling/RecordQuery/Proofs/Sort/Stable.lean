import Mathlib.Data.List.Forall2

/-!
# Stable sorting

What it is to sort a list by a comparison of which items may be equal without being the same.

* `ties`, the items that are equal to a given one, and `IsStableSort`, which says that a list is
  another one sorted, equal items as they were;
* `forall₂_of_ordered`, which shows that the order and the ties determine a list, so that there is
  only one such sorted list, and `forall₂_of_ordered_of_perm`, for the same items in another order;
* `isStableSort_mergeSort`, which shows that there is one;
* `IsStableSort.filter`, which sorts a part of a list by sorting all of it.
-/

namespace RecordQuery

variable {α : Type} {cmp : α → α → Ordering}

/-- The items that the comparison takes to be equal to the given one. -/
def ties (cmp : α → α → Ordering) (x : α) (items : List α) : List α :=
  items.filter fun y => cmp x y == .eq

/-- Each item stands behind none that comes after it. -/
def Ordered (cmp : α → α → Ordering) (items : List α) : Prop :=
  items.Pairwise fun x y => (cmp x y).isLE

/-- The items in the order of the comparison, equal ones as they were. -/
structure IsStableSort (cmp : α → α → Ordering) (items sorted : List α) : Prop where
  perm : sorted.Perm items
  ordered : Ordered cmp sorted
  stable : ∀ x, ties cmp x sorted = ties cmp x items

theorem mem_ties_iff {x y : α} {items : List α} :
    y ∈ ties cmp x items ↔ y ∈ items ∧ cmp x y = .eq := by
  rw [ties, List.mem_filter, beq_iff_eq]

theorem ties_cons_of_eq {x y : α} {items : List α} (h : cmp x y = .eq) :
    ties cmp x (y :: items) = y :: ties cmp x items := by
  unfold ties
  exact List.filter_cons_of_pos (beq_iff_eq.2 h)

theorem ties_cons_of_ne {x y : α} {items : List α} (h : cmp x y ≠ .eq) :
    ties cmp x (y :: items) = ties cmp x items := by
  unfold ties
  exact List.filter_cons_of_neg (mt beq_iff_eq.1 h)

/-- Where all items are equal, a list is sorted as it is. -/
theorem IsStableSort.of_forall_eq (h : ∀ x y, cmp x y = .eq) (items : List α) :
    IsStableSort cmp items items where
  perm := .refl items
  ordered := List.pairwise_of_forall fun x y => by
    rw [h]
    rfl
  stable _ := rfl

/-! ### A part of the list -/

theorem ties_filter (x : α) (p : α → Bool) (items : List α) :
    ties cmp x (items.filter p) = (ties cmp x items).filter p := by
  rw [ties, ties, List.filter_filter, List.filter_filter]
  simp only [Bool.and_comm]

/-- To leave items out of a sorted list is to leave them out before it is sorted. -/
theorem IsStableSort.filter {items sorted : List α} (h : IsStableSort cmp items sorted)
    (p : α → Bool) : IsStableSort cmp (items.filter p) (sorted.filter p) where
  perm := h.perm.filter p
  ordered := h.ordered.filter p
  stable x := by rw [ties_filter, ties_filter, h.stable]

variable [Std.TransCmp cmp]

theorem isLE_or_isLE (x y : α) : ((cmp x y).isLE || (cmp y x).isLE) = true := by
  rw [Bool.or_eq_true]
  by_cases h : (cmp x y).isLE = true
  · exact .inl h
  · have hlt := Std.OrientedCmp.lt_of_not_isLE h
    exact .inr (by rw [hlt]; rfl)

/-! ### The order and the ties determine the list -/

theorem isLE_head_of_mem {x y : α} {items : List α} (h : Ordered cmp (x :: items))
    (hy : y ∈ x :: items) : (cmp x y).isLE := by
  rcases List.mem_cons.1 hy with rfl | hy
  · exact Std.ReflCmp.isLE_rfl
  · exact List.rel_of_pairwise_cons h hy

theorem exists_mem_of_ties {rel : α → α → Prop} {x : α} {xs ys : List α}
    (hties : List.Forall₂ rel (ties cmp x xs) (ties cmp x ys)) (hx : x ∈ xs) :
    ∃ y ∈ ys, cmp x y = .eq := by
  have hmem : x ∈ ties cmp x xs := mem_ties_iff.2 ⟨hx, Std.ReflCmp.compare_self⟩
  obtain ⟨y, hy⟩ : ∃ y, y ∈ ties cmp x ys := by
    refine List.exists_mem_of_length_pos ?_
    rw [← hties.length_eq]
    exact List.length_pos_of_mem hmem
  exact ⟨y, mem_ties_iff.1 hy⟩

/-- The order decides between items that differ and the ties decide between those that are equal. So
two lists in order correspond item by item if their ties do. -/
theorem forall₂_of_ordered {rel : α → α → Prop} {xs ys : List α} (hxs : Ordered cmp xs)
    (hys : Ordered cmp ys) (hties : ∀ x, List.Forall₂ rel (ties cmp x xs) (ties cmp x ys)) :
    List.Forall₂ rel xs ys := by
  induction xs generalizing ys with
  | nil =>
    cases ys with
    | nil => exact .nil
    | cons y ys =>
      obtain ⟨z, hz, -⟩ := exists_mem_of_ties (hties y).flip List.mem_cons_self
      exact absurd hz List.not_mem_nil
  | cons x xs ih =>
    cases ys with
    | nil =>
      obtain ⟨z, hz, -⟩ := exists_mem_of_ties (hties x) List.mem_cons_self
      exact absurd hz List.not_mem_nil
    | cons y ys =>
      obtain ⟨y', hy', hxy'⟩ := exists_mem_of_ties (hties x) List.mem_cons_self
      obtain ⟨x', hx', hyx'⟩ := exists_mem_of_ties (hties y).flip List.mem_cons_self
      have hyx : (cmp y x).isLE := Std.TransCmp.isLE_trans (isLE_head_of_mem hys hy')
        (Ordering.isLE_of_eq_eq (Std.OrientedCmp.eq_symm hxy'))
      have hxy : (cmp x y).isLE := Std.TransCmp.isLE_trans (isLE_head_of_mem hxs hx')
        (Ordering.isLE_of_eq_eq (Std.OrientedCmp.eq_symm hyx'))
      have heq : cmp x y = .eq := Std.OrientedCmp.isLE_antisymm hxy hyx
      have hheads := hties x
      rw [ties_cons_of_eq Std.ReflCmp.compare_self, ties_cons_of_eq heq, List.forall₂_cons] at hheads
      refine .cons hheads.1 (ih hxs.of_cons hys.of_cons fun z => ?_)
      -- Both tails have the ties of the lists, without the heads where these are among them.
      have hz := hties z
      by_cases hzx : cmp z x = .eq
      · rw [ties_cons_of_eq hzx, ties_cons_of_eq (Std.TransCmp.eq_trans hzx heq),
          List.forall₂_cons] at hz
        exact hz.2
      · have hzy : cmp z y ≠ .eq := fun hzy =>
          hzx (Std.TransCmp.eq_trans hzy (Std.OrientedCmp.eq_symm heq))
        rwa [ties_cons_of_ne hzx, ties_cons_of_ne hzy] at hz

theorem eq_of_ordered_of_ties {xs ys : List α} (hxs : Ordered cmp xs) (hys : Ordered cmp ys)
    (hties : ∀ x, ties cmp x xs = ties cmp x ys) : xs = ys := by
  have h : List.Forall₂ (· = ·) xs ys := forall₂_of_ordered hxs hys fun x => by
    rw [hties x]
    exact List.forall₂_refl _
  rwa [List.forall₂_eq_eq_eq] at h

/-- Where the same items are put in order twice, equal items stand in each place. -/
theorem forall₂_of_ordered_of_perm {xs ys : List α} (hxs : Ordered cmp xs) (hys : Ordered cmp ys)
    (hperm : xs.Perm ys) : List.Forall₂ (fun x y => cmp x y = .eq) xs ys := by
  refine forall₂_of_ordered hxs hys fun z => List.forall₂_iff_zip.2 ⟨?_, fun hxy => ?_⟩
  · exact (hperm.filter _).length_eq
  · obtain ⟨hx, hy⟩ := List.of_mem_zip hxy
    exact Std.TransCmp.eq_trans (Std.OrientedCmp.eq_symm (mem_ties_iff.1 hx).2) (mem_ties_iff.1 hy).2

theorem IsStableSort.unique {items xs ys : List α} (hxs : IsStableSort cmp items xs)
    (hys : IsStableSort cmp items ys) : xs = ys :=
  eq_of_ordered_of_ties hxs.ordered hys.ordered fun x => (hxs.stable x).trans (hys.stable x).symm

/-! ### Merge sort finds it -/

theorem ordered_mergeSort (items : List α) :
    Ordered cmp (items.mergeSort fun x y => (cmp x y).isLE) :=
  List.pairwise_mergeSort (fun _ _ _ => Std.TransCmp.isLE_trans) isLE_or_isLE items

theorem ordered_ties (x : α) (items : List α) : Ordered cmp (ties cmp x items) := by
  refine List.pairwise_of_forall_mem_list ?_
  intro y hy z hz
  have hyx := Std.OrientedCmp.eq_symm (mem_ties_iff.1 hy).2
  have hyz := Std.TransCmp.eq_trans hyx (mem_ties_iff.1 hz).2
  rw [hyz]
  rfl

/-- The ties of an item are a list in order, and merge sort keeps such lists. -/
theorem ties_mergeSort (x : α) (items : List α) :
    ties cmp x (items.mergeSort fun x y => (cmp x y).isLE) = ties cmp x items := by
  have hperm := List.mergeSort_perm items fun x y => (cmp x y).isLE
  have hsub : (ties cmp x items).Sublist (items.mergeSort fun x y => (cmp x y).isLE) :=
    List.sublist_mergeSort (fun _ _ _ => Std.TransCmp.isLE_trans) isLE_or_isLE
      (ordered_ties x items) List.filter_sublist
  have hties := hsub.filter fun y => cmp x y == .eq
  have hidem : (ties cmp x items).filter (fun y => cmp x y == .eq) = ties cmp x items := by
    rw [ties, List.filter_filter]
    simp only [Bool.and_self]
  rw [hidem] at hties
  -- A part of a list that is as long as the list is all of it.
  exact (hties.eq_of_length (hperm.filter _).length_eq.symm).symm

theorem isStableSort_mergeSort (cmp : α → α → Ordering) [Std.TransCmp cmp] (items : List α) :
    IsStableSort cmp items (items.mergeSort fun x y => (cmp x y).isLE) where
  perm := List.mergeSort_perm items _
  ordered := ordered_mergeSort items
  stable := fun x => ties_mergeSort x items

end RecordQuery

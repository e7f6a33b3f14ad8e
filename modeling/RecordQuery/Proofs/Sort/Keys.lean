import RecordQuery.Proofs.Value.Order
import RecordQuery.Sort.Order

/-!
# Orders of several keys

A sort order goes through its keys, and the first one that tells two records apart decides.

* `Direction.transCmp_apply`, which shows that values read from records are ordered in either
  direction;
* `SortOrder.compare_append_cons`, the order by keys of which those in front tie;
* the instances that make keys and their lists orders for sorting;
* `SortOrder.compare_preorder`, which tells such an order from its keys.
-/

namespace RecordQuery

variable {R : Type}

/-- Values read from records are ordered in either direction. -/
theorem Direction.transCmp_apply (d : Direction) (read : R → Value) :
    Std.TransCmp fun a b => d.apply ((read a).compareTotal (read b)) where
  eq_swap {a b} := by
    rw [Value.compareTotal_swap]
    cases d <;> rfl
  isLE_trans {a b c} := by
    cases d with
    | asc => exact Value.compareTotal_isLE_trans
    | desc =>
      -- An order that is turned around is transitive in its other direction.
      simp only [apply, Ordering.isLE_swap]
      exact Value.compareTotal_isGE_trans

instance (k : SortKey R) : Std.TransCmp k.compare :=
  k.direction.transCmp_apply k.accessor.value

namespace SortOrder

variable {k : SortKey R} {ks : List (SortKey R)} {a b : R}

theorem compare_cons (k : SortKey R) (ks : List (SortKey R)) (a b : R) :
    compare ⟨k :: ks⟩ a b = (k.compare a b).then (compare ⟨ks⟩ a b) := rfl

instance (o : SortOrder R) : Std.TransCmp o.compare := by
  obtain ⟨ks⟩ := o
  induction ks with
  | nil => exact { eq_swap := rfl, isLE_trans := fun _ _ => rfl }
  | cons k ks ih =>
    show Std.TransCmp (compareLex k.compare (compare ⟨ks⟩))
    infer_instance

/-- Records tie if they tie on every key. -/
theorem compare_eq_eq_iff : compare ⟨ks⟩ a b = .eq ↔ ∀ k ∈ ks, k.compare a b = .eq := by
  induction ks with
  | nil => simp [compare]
  | cons k ks ih => rw [compare_cons, Ordering.then_eq_eq, ih, List.forall_mem_cons]

/-- Keys on which the records tie leave the order to those behind them. -/
theorem compare_append_cons {before : List (SortKey R)}
    (hbefore : ∀ k ∈ before, k.compare a b = .eq) (after : List (SortKey R))
    (hk : k.compare a b ≠ .eq) : compare ⟨before ++ k :: after⟩ a b = k.compare a b := by
  induction before with
  | nil =>
    rw [List.nil_append, compare_cons]
    cases h : k.compare a b with
    | eq => exact absurd h hk
    | lt | gt => rfl
  | cons l before ih =>
    obtain ⟨hl, hbefore⟩ := List.forall_mem_cons.1 hbefore
    rw [List.cons_append, compare_cons, hl, ← ih hbefore]
    rfl

/-- Whatever its keys read, a sort order is reflexive, antisymmetric up to ties, and transitive. It
tells records apart if some key does, and then as the first such key does. -/
theorem compare_preorder (o : SortOrder R) :
    (∀ a, o.compare a a = .eq) ∧
    (∀ a b, o.compare b a = (o.compare a b).swap) ∧
    (∀ a b c, (o.compare a b).isLE → (o.compare b c).isLE → (o.compare a c).isLE) ∧
    ∀ a b, (o.compare a b ≠ .eq ↔ ∃ k ∈ o.keys, k.compare a b ≠ .eq) ∧
      ∀ before k after, o.keys = before ++ k :: after →
        (∀ l ∈ before, l.compare a b = .eq) → k.compare a b ≠ .eq →
          o.compare a b = k.compare a b := by
  refine ⟨fun a => Std.ReflCmp.compare_self, fun a b => Std.OrientedCmp.eq_swap,
    fun a b c => Std.TransCmp.isLE_trans, fun a b => ⟨?_, ?_⟩⟩
  · rw [ne_eq, compare_eq_eq_iff]
    simp only [Classical.not_forall, exists_prop, ne_eq]
  · intro before k after hkeys hbefore hk
    have hcompare := compare_append_cons hbefore after hk
    rwa [← hkeys] at hcompare

/-- In descending order a NaN ties with itself, so that the texts decide, and comes before the
negative zero and so before null. -/
theorem compare_nan_then_text :
    let x : SortKey (Option Binary64 × String) := ⟨"x", .float Prod.fst, .desc⟩
    let s : SortKey (Option Binary64 × String) := ⟨"s", .text fun r => some r.2, .asc⟩
    let nan : Binary64 := ⟨0x7FF8000000000001⟩
    x.compare (some nan, "b") (some nan, "a") = .eq ∧
      compare ⟨[x, s]⟩ (some nan, "b") (some nan, "a") = .gt ∧
      (compare ⟨[x, s]⟩ (some nan, "b") (none, "a")).isLE := by
  intro x s nan
  obtain ⟨-, -, htrans, hfirst⟩ := compare_preorder (⟨[x, s]⟩ : SortOrder _)
  have htie : x.compare (some nan, "b") (some nan, "a") = .eq := by decide
  have htext : s.compare (some nan, "b") (some nan, "a") = .gt := by decide
  refine ⟨htie, ?_, ?_⟩
  · rw [← htext]
    exact (hfirst _ _).2 [x] s [] rfl (by simp [htie]) (by simp [htext])
  · exact htrans _ (some ⟨0x8000000000000000⟩, "") _ (by decide) (by decide)

end SortOrder

end RecordQuery

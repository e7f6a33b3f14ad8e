import RecordQuery.Proofs.Compiler.Comparison
import RecordQuery.Proofs.Sort.Rules
import RecordQuery.Proofs.Value.Agreement

/-!
# Filters on sorted records

Where records are sorted by a field, a filter that compares this field selects records that stand
next to each other.

* `filter_isInfix` and `precedes_of_ordered`, for any list that is ordered by a comparison;
* `Operator.accepts_of_between`, the outcomes that an operator accepts;
* `valueTest_of_between`, which carries them over to the values between two others;
* `Compiler.filter_isInfix_sort`, for filters and sort rules.
-/

namespace RecordQuery

section Lists

variable {α : Type} {cmp : α → α → Ordering} {p q : α → Bool} {x : α} {items : List α}

/-- Every item that satisfies `p` stands before every item that satisfies `q`. -/
def Precedes (p q : α → Bool) (items : List α) : Prop :=
  ∀ (i j : Nat) (hi : i < items.length) (hj : j < items.length),
    p items[i] = true → q items[j] = true → i < j

theorem filter_isPrefix (h : Ordered cmp (x :: items))
    (hbetween : ∀ x y z, (cmp x y).isLE → (cmp y z).isLE → p x = true → p z = true → p y = true)
    (hx : p x = true) : items.filter p <+: items := by
  induction items with
  | nil => exact List.prefix_refl []
  | cons y ys ih =>
    have hxy : (cmp x y).isLE := List.rel_of_pairwise_cons h List.mem_cons_self
    have hxys : Ordered cmp (x :: ys) := h.sublist ((List.sublist_cons_self y ys).cons_cons x)
    cases hy : p y with
    | true =>
      rw [List.filter_cons_of_pos hy, List.prefix_cons_inj]
      exact ih hxys
    | false =>
      -- Nothing behind `y` satisfies `p`, as otherwise `y` would.
      have hys : ∀ z ∈ ys, ¬p z = true := by
        intro z hz hpz
        have hyz : (cmp y z).isLE := List.rel_of_pairwise_cons h.of_cons hz
        simp [hbetween x y z hxy hyz hx hpz] at hy
      rw [List.filter_cons_of_neg (by simp [hy]), List.filter_eq_nil_iff.2 hys]
      exact List.nil_prefix

/-- What satisfies `p` in an ordered list stands next to each other, if with two items `p` is
satisfied by all between them. -/
theorem filter_isInfix (h : Ordered cmp items)
    (hbetween : ∀ x y z, (cmp x y).isLE → (cmp y z).isLE → p x = true → p z = true → p y = true) :
    items.filter p <:+: items := by
  induction items with
  | nil => exact List.infix_refl []
  | cons x xs ih =>
    cases hx : p x with
    | true =>
      rw [List.filter_cons_of_pos hx]
      exact (List.prefix_cons_inj x |>.2 (filter_isPrefix h hbetween hx)).isInfix
    | false =>
      rw [List.filter_cons_of_neg (by simp [hx])]
      exact (ih h.of_cons).trans (List.suffix_cons x xs).isInfix

theorem precedes_of_ordered [Std.ReflCmp cmp] (h : Ordered cmp items)
    (hpq : ∀ x y, (cmp y x).isLE → p x = true → ¬q y = true) : Precedes p q items := by
  intro i j hi hj hpi hqj
  refine Nat.lt_of_not_le fun hji => hpq _ _ ?_ hpi hqj
  rcases Nat.eq_or_lt_of_le hji with rfl | hlt
  · exact Std.ReflCmp.isLE_rfl
  · exact List.pairwise_iff_getElem.1 h j i hj hi hlt

end Lists

/-! ### Operators -/

namespace Operator

/-- With two outcomes an operator that compares accepts all between them. -/
theorem accepts_of_between {op : Operator} (hop : op.Compares) {o₁ o₂ o₃ : Ordering}
    (h₁₂ : (compare o₁ o₂).isLE) (h₂₃ : (compare o₂ o₃).isLE) (h₁ : op.accepts o₁ = true)
    (h₃ : op.accepts o₃ = true) : op.accepts o₂ = true := by
  revert o₁ o₂ o₃
  rcases hop with rfl | hop
  · decide
  · cases op <;> first | decide | cases hop

/-- The first operator accepts the outcomes below those that the second accepts. -/
def IsBelow (below above : Operator) : Prop :=
  below = .lt ∧ above = .gte ∨ below = .lte ∧ above = .gt

namespace IsBelow

variable {below above : Operator} (h : below.IsBelow above)
include h

theorem compares : below.Compares ∧ above.Compares := by
  rcases h with ⟨rfl, rfl⟩ | ⟨rfl, rfl⟩ <;> exact ⟨.inr rfl, .inr rfl⟩

theorem needsValue : below.NeedsValue := by
  rcases h with ⟨rfl, rfl⟩ | ⟨rfl, rfl⟩ <;> trivial

theorem not_accepts {o o' : Ordering} (hle : (compare o' o).isLE)
    (ho : below.accepts o = true) : ¬above.accepts o' = true := by
  revert o o'
  rcases h with ⟨rfl, rfl⟩ | ⟨rfl, rfl⟩ <;> decide

end IsBelow

end Operator

variable {R : Type}

section Tests

variable {a : Accessor R} {v : Value} {r s t : R}

/-- With two records a test that compares holds for all whose values stand between theirs. -/
theorem valueTest_of_between {op : Operator} (hop : op.Compares)
    (hneeds : op.NeedsValue → v ≠ .null)
    (hrs : ((a.value r).compareTotal (a.value s)).isLE)
    (hst : ((a.value s).compareTotal (a.value t)).isLE)
    (hr : (valueTest a op v).holds r = true) (ht : (valueTest a op v).holds t = true) :
    (valueTest a op v).holds s = true := by
  by_cases hv : v = .null
  · -- Only equality can be asked of null, which stands before all values.
    subst hv
    obtain rfl : op = .eq :=
      hop.resolve_right fun hop => hneeds (Operator.needsValue_of_isOrdering hop) rfl
    have ht' : a.value t = .null := Value.same_null_iff.1 (Value.equal_iff.1 ht)
    rw [ht'] at hst
    exact Value.equal_iff.2 (Value.same_null_iff.2 (Value.eq_null_of_isLE hst))
  · rw [valueTest_holds_eq hop hv, Option.any_eq_true] at hr ht ⊢
    obtain ⟨o₁, ho₁, hr⟩ := hr
    obtain ⟨o₃, ho₃, ht⟩ := ht
    obtain ⟨o₂, ho₂⟩ := Value.exists_compare?_of_between hrs hst ho₁ ho₃
    exact ⟨o₂, ho₂, Operator.accepts_of_between hop (Value.compare?_mono hrs ho₁ ho₂)
      (Value.compare?_mono hst ho₂ ho₃) hr ht⟩

/-- Where a test holds for a record, no record before it has an outcome that the test above
accepts. -/
theorem not_valueTest_of_isLE {below above : Operator} (h : below.IsBelow above)
    (hv : v ≠ .null) (hsr : ((a.value s).compareTotal (a.value r)).isLE)
    (hr : (valueTest a below v).holds r = true) : ¬(valueTest a above v).holds s = true := by
  intro hs
  rw [valueTest_holds_eq h.compares.1 hv, Option.any_eq_true] at hr
  rw [valueTest_holds_eq h.compares.2 hv, Option.any_eq_true] at hs
  obtain ⟨o, ho, hr⟩ := hr
  obtain ⟨o', ho', hs⟩ := hs
  exact h.not_accepts (Value.compare?_mono hsr ho' ho) hr hs

/-- In the descending direction, what stands between two records stands between them turned
around. -/
theorem valueTest_of_between_apply {op : Operator} (hop : op.Compares)
    (hneeds : op.NeedsValue → v ≠ .null) {d : Direction}
    (hrs : (d.apply ((a.value r).compareTotal (a.value s))).isLE)
    (hst : (d.apply ((a.value s).compareTotal (a.value t))).isLE)
    (hr : (valueTest a op v).holds r = true) (ht : (valueTest a op v).holds t = true) :
    (valueTest a op v).holds s = true := by
  cases d with
  | asc => exact valueTest_of_between hop hneeds hrs hst hr ht
  | desc =>
    simp only [Direction.apply, ← Value.compareTotal_swap] at hrs hst
    exact valueTest_of_between hop hneeds hst hrs ht hr

end Tests

namespace Compiler

variable {c : Compiler R} {field : String} {d : Direction} {rest : List SortRule} {o : SortOrder R}

/-- Sorted records are ordered by the first rule, whatever the others are. -/
theorem ordered_sort {rule : SortRule} (h : c.compileSort (rule :: rest) = .ok o)
    (records : List R) : Ordered (c.fields.compareByRule rule) (o.sort records) :=
  (sort_isStableSort h records).ordered.imp Ordering.isLE_left_of_isLE_then

theorem compareByRule_eq {a : Accessor R} (ha : c.fields.find? field = some a) (r s : R) :
    c.fields.compareByRule ⟨field, d⟩ r s =
      d.apply ((a.value r).compareTotal (a.value s)) := by
  rw [FieldMap.compareByRule, FieldMap.read, FieldMap.read, ha]
  rfl

/-- Where records are sorted by a field first, in either direction, the records that a filter by `=`
or by an ordering operator selects for this field stand next to each other. In ascending order those
below an operand stand before those that are not, and those up to it before those above. -/
theorem filter_isInfix_sort (ho : c.compileSort (⟨field, d⟩ :: rest) = .ok o)
    (operand : Operand) (records : List R) :
    (∀ op p, op.Compares → c.compileFilter (.value field op operand) = .ok p →
      p.filter (o.sort records) <:+: o.sort records) ∧
    (d = .asc → ∀ below above p q, below.IsBelow above →
      c.compileFilter (.value field below operand) = .ok p →
      c.compileFilter (.value field above operand) = .ok q →
      Precedes p.holds q.holds (o.sort records)) := by
  have hordered := ordered_sort ho records
  constructor
  · intro op p hop hp
    rw [compileFilter_value] at hp
    obtain ⟨-, a, v, ha, -, -, hneeds, rfl⟩ := compileValue_eq_ok_iff.1 hp
    refine filter_isInfix hordered fun r s t hrs hst hr ht => ?_
    rw [compareByRule_eq ha] at hrs hst
    exact valueTest_of_between_apply hop hneeds hrs hst hr ht
  · rintro rfl below above p q h hp hq
    rw [compileFilter_value] at hp hq
    obtain ⟨-, a, v, ha, -, hv, hneeds, rfl⟩ := compileValue_eq_ok_iff.1 hp
    obtain ⟨-, b, w, hb, -, hw, -, rfl⟩ := compileValue_eq_ok_iff.1 hq
    obtain rfl := Option.some.inj (ha.symm.trans hb)
    obtain rfl := Except.ok.inj (hv.symm.trans hw)
    refine precedes_of_ordered hordered fun r s hsr hr => ?_
    rw [compareByRule_eq ha] at hsr
    exact not_valueTest_of_isLE h (hneeds h.needsValue) hsr hr

/-- The two zeros are equal and stand next to each other, between a negative NaN and the positive
numbers. Null, which stands first, and the NaNs are neither below zero nor from zero on. -/
theorem filter_isInfix_sort_of_zeros :
    let c : Compiler (Option Binary64) := ⟨.ofList [("x", .float id)], {}⟩
    let zero : Operand := .typed (.integer 0)
    let one : Binary64 := ⟨0x3FF0000000000000⟩
    let nan : Binary64 := ⟨0x7FF8000000000000⟩
    let negativeNan : Binary64 := ⟨0xFFF8000000000000⟩
    let negativeZero : Binary64 := ⟨0x8000000000000000⟩
    let records := [some one, some nan, some ⟨0⟩, none, some negativeZero, some negativeNan]
    ∃ o eq lt gte, c.compileSort [⟨"x", .asc⟩] = .ok o ∧
      c.compileFilter (.value "x" .eq zero) = .ok eq ∧
      c.compileFilter (.value "x" .lt zero) = .ok lt ∧
      c.compileFilter (.value "x" .gte zero) = .ok gte ∧
      o.sort records =
        [none, some negativeNan, some negativeZero, some ⟨0⟩, some one, some nan] ∧
      eq.filter (o.sort records) = [some negativeZero, some ⟨0⟩] ∧
      eq.filter (o.sort records) <:+: o.sort records ∧
      Precedes lt.holds gte.holds (o.sort records) := by
  intro c zero one nan negativeNan negativeZero records
  obtain ⟨o, ho⟩ : ∃ o, c.compileSort [⟨"x", .asc⟩] = .ok o := ⟨_, rfl⟩
  obtain ⟨eq, heq⟩ : ∃ p, c.compileFilter (.value "x" .eq zero) = .ok p := ⟨_, rfl⟩
  obtain ⟨lt, hlt⟩ : ∃ p, c.compileFilter (.value "x" .lt zero) = .ok p := ⟨_, rfl⟩
  obtain ⟨gte, hgte⟩ : ∃ p, c.compileFilter (.value "x" .gte zero) = .ok p := ⟨_, rfl⟩
  obtain ⟨hruns, hprecedes⟩ := filter_isInfix_sort ho zero records
  have hsorted : o.sort records =
      [none, some negativeNan, some negativeZero, some ⟨0⟩, some one, some nan] := by
    obtain rfl : _ = o := Except.ok.inj ho
    simp +decide [SortOrder.sort, List.mergeSort, records, one, nan, negativeNan, negativeZero]
  have hzeros : eq.filter (o.sort records) = [some negativeZero, some ⟨0⟩] := by
    rw [hsorted]
    obtain rfl : _ = eq := Except.ok.inj heq
    decide +kernel
  exact ⟨o, eq, lt, gte, ho, heq, hlt, hgte, hsorted, hzeros, hruns .eq eq (.inl rfl) heq,
    hprecedes rfl .lt .gte lt gte (.inl ⟨rfl, rfl⟩) hlt hgte⟩

end Compiler

end RecordQuery

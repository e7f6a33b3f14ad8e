import RecordQuery.Proofs.Compiler.Success
import RecordQuery.Proofs.Sort.Keys
import RecordQuery.Proofs.Sort.Stable

/-!
# The order of sort rules

* `FieldMap.compareByRule` and `FieldMap.compareBy`, the order of records that rules ask for, told
  from the rules alone;
* `compareBy_eq_eq_iff`, which shows that records tie if they tie on every rule;
* the instances that make both an order for sorting;
* `Compiler.compileSort_compare`, which shows that the compiled order is the one asked for, and
  `Compiler.sort_isStableSort`, that records are sorted by it.
-/

namespace RecordQuery

open Outcome

variable {R : Type}

namespace FieldMap

/-- The value of a field in a record; a field that is not registered has none. -/
def read (m : FieldMap R) (field : String) (r : R) : Value :=
  (m.find? field).elim .null fun a => a.value r

/-- The order of two records that a rule asks for. -/
def compareByRule (m : FieldMap R) (rule : SortRule) (a b : R) : Ordering :=
  rule.direction.apply ((m.read rule.field a).compareTotal (m.read rule.field b))

/-- The order of two records that rules ask for: that of the first rule that tells them apart. -/
def compareBy (m : FieldMap R) : List SortRule → R → R → Ordering
  | [], _, _ => .eq
  | rule :: rules, a, b => (m.compareByRule rule a b).then (m.compareBy rules a b)

theorem compareBy_eq_eq_iff (m : FieldMap R) {rules : List SortRule} {a b : R} :
    m.compareBy rules a b = .eq ↔ ∀ rule ∈ rules, m.compareByRule rule a b = .eq := by
  induction rules with
  | nil => simp [compareBy]
  | cons rule rules ih => rw [compareBy, Ordering.then_eq_eq, ih, List.forall_mem_cons]

instance (m : FieldMap R) (rule : SortRule) : Std.TransCmp (m.compareByRule rule) :=
  rule.direction.transCmp_apply (m.read rule.field)

instance (m : FieldMap R) (rules : List SortRule) : Std.TransCmp (m.compareBy rules) := by
  induction rules with
  | nil => exact { eq_swap := rfl, isLE_trans := fun _ _ => rfl }
  | cons rule rules ih =>
    show Std.TransCmp (compareLex (m.compareByRule rule) (m.compareBy rules))
    infer_instance

end FieldMap

namespace Compiler

variable {c : Compiler R}

theorem compileRule_eq_ok_iff {rule : SortRule} {k : SortKey R} :
    c.compileRule rule = .ok k ↔
      ∃ a, c.fields.find? rule.field = some a ∧ ⟨rule.field, a, rule.direction⟩ = k := by
  unfold compileRule
  simp only [bind_eq_ok_iff, FieldMap.lookup_eq_ok_iff, pure, Except.pure, Except.ok.injEq]

theorem compileSort_eq_ok_iff {rules : List SortRule} {o : SortOrder R} :
    c.compileSort rules = .ok o ↔
      rules ≠ [] ∧ ∃ ks, rules.mapM c.compileRule = .ok ks ∧ ⟨ks⟩ = o := by
  unfold compileSort
  cases rules with
  | nil => simp
  | cons rule rules =>
    simp only [List.isEmpty_cons, Bool.false_eq_true, if_false, bind_eq_ok_iff, pure, Except.pure,
      Except.ok.injEq, ne_eq, reduceCtorEq, not_false_eq_true, true_and]

/-- Rules that are compiled name fields. -/
theorem exists_find?_of_compileSort {rules : List SortRule} {o : SortOrder R}
    (h : c.compileSort rules = .ok o) {rule : SortRule} (hrule : rule ∈ rules) :
    ∃ a, c.fields.find? rule.field = some a := by
  obtain ⟨-, ks, hks, -⟩ := compileSort_eq_ok_iff.1 h
  obtain ⟨k, hk⟩ := exists_mapM_eq_ok_iff.1 ⟨ks, hks⟩ rule hrule
  obtain ⟨a, ha, -⟩ := compileRule_eq_ok_iff.1 hk
  exact ⟨a, ha⟩

/-- The key of a rule orders records as the rule asks. -/
theorem compileRule_compare {rule : SortRule} {k : SortKey R} (h : c.compileRule rule = .ok k) :
    k.compare = c.fields.compareByRule rule := by
  obtain ⟨a, ha, rfl⟩ := compileRule_eq_ok_iff.1 h
  funext r s
  rw [FieldMap.compareByRule, FieldMap.read, FieldMap.read, ha]
  rfl

/-- The compiled order is the one that the rules ask for. -/
theorem compileSort_compare {rules : List SortRule} {o : SortOrder R}
    (h : c.compileSort rules = .ok o) : o.compare = c.fields.compareBy rules := by
  obtain ⟨-, ks, hks, rfl⟩ := compileSort_eq_ok_iff.1 h
  have hkeys := mapM_eq_ok_iff.1 hks
  clear h hks
  funext r s
  induction hkeys with
  | nil => rfl
  | cons hk _ ih =>
    rw [FieldMap.compareBy, ← ih, ← compileRule_compare hk]
    rfl

/-- A compiled order sorts records by the rules, records that tie as they were. -/
theorem sort_isStableSort {rules : List SortRule} {o : SortOrder R}
    (h : c.compileSort rules = .ok o) (records : List R) :
    IsStableSort (c.fields.compareBy rules) records (o.sort records) := by
  have hsort := isStableSort_mergeSort (c.fields.compareBy rules) records
  rwa [← compileSort_compare h] at hsort ⊢

end Compiler

end RecordQuery

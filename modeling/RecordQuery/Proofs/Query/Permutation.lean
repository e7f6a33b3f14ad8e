import RecordQuery.Proofs.Query.Execution

/-!
# Queries on records in another order

Where records are sorted, the order in which they are stored can be seen in the answer only by
records that tie on every rule.

* `FieldMap.Tied`, records with the same value of every field that is sorted by, and
  `FieldMap.tied_of_compareBy`, which shows that records that tie are of this kind;
* `Query.forall₂_arranged`, the records of two answers before they are paged;
* `Query.execute_perm`, for whole answers.
-/

namespace RecordQuery

open Outcome

variable {R : Type}

theorem Direction.apply_eq_eq_iff {d : Direction} {o : Ordering} : d.apply o = .eq ↔ o = .eq := by
  cases d with
  | asc => exact Iff.rfl
  | desc => exact Ordering.swap_eq_eq

namespace FieldMap

/-- Two records have the same value of every field that the rules sort by. -/
def Tied (m : FieldMap R) (rules : List SortRule) (r s : R) : Prop :=
  ∀ rule ∈ rules, ∃ a, m.find? rule.field = some a ∧ a.value r = a.value s

theorem tied_of_compareBy {m : FieldMap R} {rules : List SortRule}
    (hfields : ∀ rule ∈ rules, ∃ a, m.find? rule.field = some a) {r s : R}
    (h : m.compareBy rules r s = .eq) : m.Tied rules r s := by
  intro rule hrule
  obtain ⟨a, ha⟩ := hfields rule hrule
  have htie := m.compareBy_eq_eq_iff.1 h rule hrule
  rw [compareByRule, read, read, ha, Direction.apply_eq_eq_iff] at htie
  exact ⟨a, ha, Std.LawfulEqCmp.eq_of_compare htie⟩

end FieldMap

namespace Query

variable {c : Compiler R} {q : Query}

theorem selected_perm (predicate : Option (Predicate R)) {records records' : List R}
    (h : records.Perm records') : (selected predicate records).Perm (selected predicate records') := by
  cases predicate with
  | none => exact h
  | some p => exact h.filter p.holds

theorem forall₂_shown (page : Option Page) {xs ys : List R} {rel : R → R → Prop}
    (h : List.Forall₂ rel xs ys) : List.Forall₂ rel (shown page xs) (shown page ys) := by
  cases page with
  | none => exact h
  | some p =>
    show List.Forall₂ rel (p.apply xs) (p.apply ys)
    unfold Page.apply
    cases p.take with
    | none => exact List.forall₂_drop _ h
    | some n => exact List.forall₂_take _ (List.forall₂_drop _ h)

theorem eq_of_forall₂ {xs ys : List R} {rel : R → R → Prop} (h : List.Forall₂ rel xs ys)
    (heq : ∀ x ∈ xs, ∀ y ∈ ys, rel x y → x = y) : xs = ys := by
  induction h with
  | nil => rfl
  | cons hxy _ ih =>
    rw [heq _ List.mem_cons_self _ List.mem_cons_self hxy,
      ih fun x hx y hy => heq x (List.mem_cons_of_mem _ hx) y (List.mem_cons_of_mem _ hy)]

theorem exists_find?_of_compiledSort {order : Option (SortOrder R)}
    (h : q.compiledSort c = .ok order) :
    ∀ rule ∈ q.sort, ∃ a, c.fields.find? rule.field = some a := by
  intro rule hrule
  unfold compiledSort at h
  rw [if_neg (by simpa using List.ne_nil_of_mem hrule)] at h
  obtain ⟨o, ho, -⟩ := bind_eq_ok_iff.1 h
  exact Compiler.exists_find?_of_compileSort ho hrule

/-- The same records in two orders are arranged so that records in the same place are tied. -/
theorem forall₂_arranged {order : Option (SortOrder R)} (h : q.compiledSort c = .ok order)
    {records records' : List R} (hperm : records.Perm records') :
    List.Forall₂ (c.fields.Tied q.sort) (arranged order records) (arranged order records') := by
  have hsort := arranged_isStableSort h records
  have hsort' := arranged_isStableSort h records'
  have hperm' := hsort.perm.trans (hperm.trans hsort'.perm.symm)
  refine (forall₂_of_ordered_of_perm hsort.ordered hsort'.ordered hperm').imp fun r s hrs => ?_
  exact FieldMap.tied_of_compareBy (exists_find?_of_compiledSort h) hrs

/-- The same records in another order are answered with the same counts, and with items that have
the same value, place by place, of every field that is sorted by. Where no two records are tied, the
answer is the same. -/
theorem execute_perm {records records' : List R} (hperm : records.Perm records')
    {result : QueryResult R} (h : q.execute c records = .ok result) :
    ∃ result', q.execute c records' = .ok result' ∧
      result'.totalCount = result.totalCount ∧ result'.totalMatchCount = result.totalMatchCount ∧
      Option.Rel (List.Forall₂ (c.fields.Tied q.sort)) result.items result'.items ∧
      ((∀ r ∈ records, ∀ s ∈ records, c.fields.Tied q.sort r s → r = s) → result' = result) := by
  obtain ⟨predicate, hp, order, ho, rfl⟩ := execute_eq_ok_iff.1 h
  have hselected := selected_perm predicate hperm
  have htied := forall₂_shown q.page (forall₂_arranged ho hselected)
  refine ⟨_, execute_eq_ok_iff.2 ⟨predicate, hp, order, ho, rfl⟩, ?_, ?_, ?_, fun hdistinct => ?_⟩
  · rw [hperm.length_eq]
  · rw [hselected.length_eq]
  · cases q.outputs.items with
    | true => exact .some htied
    | false => exact .none
  · have hsame := eq_of_forall₂ htied fun r hr s hs hrs =>
      hdistinct r (mem_of_mem_shown ho hr) s (hperm.mem_iff.2 (mem_of_mem_shown ho hs)) hrs
    rw [hsame, hperm.length_eq, hselected.length_eq]

/-- Two records tie on the number, so either may come second, where the page ends. No two tie on the
number and the text. -/
theorem execute_perm_of_ties :
    let c : Compiler (Int64 × String) :=
      ⟨.ofList [("n", .integer fun r => some r.1), ("s", .text fun r => some r.2)], {}⟩
    let byNumber : Query :=
      { sort := [⟨"n", .desc⟩], page := some ⟨0, some 2⟩, outputs := .all }
    let byBoth : Query := { byNumber with sort := [⟨"n", .desc⟩, ⟨"s", .asc⟩] }
    let records := [(1, "a"), (1, "b"), (2, "c")]
    let records' := [(1, "b"), (2, "c"), (1, "a")]
    ∃ result result' both, records.Perm records' ∧ byNumber.execute c records = .ok result ∧
      byNumber.execute c records' = .ok result' ∧
      result.items = some [(2, "c"), (1, "a")] ∧ result'.items = some [(2, "c"), (1, "b")] ∧
      result'.totalCount = result.totalCount ∧
      Option.Rel (List.Forall₂ (c.fields.Tied byNumber.sort)) result.items result'.items ∧
      byBoth.execute c records = .ok both ∧ byBoth.execute c records' = .ok both := by
  intro c byNumber byBoth records records'
  have hperm : records.Perm records' := by decide
  have hdistinct : ∀ r ∈ records, ∀ s ∈ records, c.fields.Tied byBoth.sort r s → r = s := by
    intro r _ s _ htied
    obtain ⟨a, ha, hn⟩ := htied ⟨"n", .desc⟩ (by simp [byBoth])
    obtain ⟨b, hb, hs⟩ := htied ⟨"s", .asc⟩ (by simp [byBoth])
    obtain rfl : Accessor.integer _ = a := Option.some.inj ha
    obtain rfl : Accessor.text _ = b := Option.some.inj hb
    exact Prod.ext (Value.integer.inj hn) (Value.text.inj hs)
  obtain ⟨result, h⟩ : ∃ result, byNumber.execute c records = .ok result := ⟨_, rfl⟩
  obtain ⟨both, hboth⟩ : ∃ result, byBoth.execute c records = .ok result := ⟨_, rfl⟩
  obtain ⟨result', h', htotal, -, htied, -⟩ := execute_perm hperm h
  obtain ⟨both', hboth', -, -, -, hsame⟩ := execute_perm hperm hboth
  obtain rfl := hsame hdistinct
  refine ⟨result, result', both', hperm, h, h', ?_, ?_, htotal, htied, hboth, hboth'⟩
  · obtain rfl : _ = result := Except.ok.inj h
    simp +decide [selected, arranged, SortOrder.sort, List.mergeSort, byNumber, records]
  · obtain rfl : _ = result' := Except.ok.inj h'
    simp +decide [selected, arranged, SortOrder.sort, List.mergeSort, byNumber, records']

end Query

end RecordQuery

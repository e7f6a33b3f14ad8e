import RecordQuery.Proofs.Compiler.Meaning
import RecordQuery.Proofs.Sort.Rules
import RecordQuery.Query.Basic

/-!
# What a query answers

* `Compiler.Refuses`, the error that a filter and sort rules are answered with;
* `FieldMap.select`, the records that a query is about, and `Page.IsWindow`, the part of a list that
  a page shows;
* `Query.execute_spec`, which tells the answer to a query from these, without a predicate, a
  compiled order or a sorting algorithm.
-/

namespace RecordQuery

open Outcome

variable {R α : Type}

/-- The error of the filter or, where the filter is compiled, of the sort rules. -/
def Compiler.Refuses (c : Compiler R) (filter : Option Filter) (rules : List SortRule)
    (e : CompileError) : Prop :=
  (∃ f ∈ filter, c.compileFilter f = .error e) ∨
    (∀ f ∈ filter, ∃ p, c.compileFilter f = .ok p) ∧ rules ≠ [] ∧ c.compileSort rules = .error e

open Classical in
/-- The records of which the filter holds; without one, all. -/
noncomputable def FieldMap.select (m : FieldMap R) (filter : Option Filter) (records : List R) :
    List R :=
  records.filter fun r => ∀ f ∈ filter, f.Holds m r

/-- The window has the items from the first that is not skipped on, none of them where as many have
been taken as the page takes. -/
def Page.IsWindow (p : Page) (items window : List α) : Prop :=
  ∀ i, ((∀ n ∈ p.take, i < n.toNat) → window[i]? = items[p.skip.toNat + i]?) ∧
    (∀ n ∈ p.take, n.toNat ≤ i → window[i]? = none)

theorem Page.apply_isWindow (p : Page) (items : List α) : p.IsWindow items (p.apply items) := by
  intro i
  unfold apply
  cases htake : p.take with
  | none => simp [List.getElem?_drop]
  | some n =>
    simp only [Option.mem_some_iff, forall_eq', List.getElem?_take, List.getElem?_drop]
    constructor
    · intro h
      rw [if_pos h]
    · intro h
      rw [if_neg (Nat.not_lt.2 h)]

theorem Page.apply_sublist (p : Page) (items : List α) : (p.apply items).Sublist items := by
  unfold apply
  split
  · exact (List.take_sublist _ _).trans (List.drop_sublist _ _)
  · exact List.drop_sublist _ _

theorem map_onlyIf {β : Type} (asked : Bool) (a : α) (f : α → β) :
    (onlyIf asked a).map f = onlyIf asked (f a) := by
  cases asked <;> rfl

theorem isSome_onlyIf (asked : Bool) (a : α) : (onlyIf asked a).isSome = asked := by
  cases asked <;> rfl

namespace Query

variable {c : Compiler R} {q : Query} {e : CompileError}

theorem shown_isWindow (page : Option Page) (items : List α) :
    (page.getD {}).IsWindow items (shown page items) := by
  cases page with
  | some p => exact p.apply_isWindow items
  | none =>
    intro i
    simp [shown]

theorem shown_sublist (page : Option Page) (items : List α) :
    (shown page items).Sublist items := by
  cases page with
  | some p => exact p.apply_sublist items
  | none => exact .refl items

/-! ### The filter -/

theorem compiledFilter_eq_error_iff :
    q.compiledFilter c = .error e ↔ ∃ f ∈ q.filter, c.compileFilter f = .error e := by
  unfold compiledFilter
  cases q.filter with
  | none => simp [pure, Except.pure]
  | some f => simp [bind_eq_error_iff, pure, Except.pure]

theorem exists_compiledFilter_eq_ok_iff :
    (∃ o, q.compiledFilter c = .ok o) ↔ ∀ f ∈ q.filter, ∃ p, c.compileFilter f = .ok p := by
  unfold compiledFilter
  cases q.filter with
  | none => simp [pure, Except.pure]
  | some f => simp [bind_eq_ok_iff, pure, Except.pure]

theorem compiledFilter_eq_ok_iff {o : Option (Predicate R)} :
    q.compiledFilter c = .ok o ↔ q.filter = none ∧ none = o ∨
      ∃ f, q.filter = some f ∧ ∃ p, c.compileFilter f = .ok p ∧ some p = o := by
  unfold compiledFilter
  cases q.filter with
  | none => simp [pure, Except.pure]
  | some f => simp [bind_eq_ok_iff, pure, Except.pure]

theorem selected_eq_select {o : Option (Predicate R)} (h : q.compiledFilter c = .ok o)
    (records : List R) : selected o records = c.fields.select q.filter records := by
  classical
  rcases compiledFilter_eq_ok_iff.1 h with ⟨hf, rfl⟩ | ⟨f, hf, p, hp, rfl⟩
  · simp [hf, selected, FieldMap.select]
  · rw [hf]
    refine List.filter_congr fun r _ => ?_
    rw [Bool.eq_iff_iff, decide_eq_true_iff, Compiler.compileAt_holds_iff hp]
    simp

/-! ### The sort rules -/

theorem compiledSort_eq_error_iff :
    q.compiledSort c = .error e ↔ q.sort ≠ [] ∧ c.compileSort q.sort = .error e := by
  unfold compiledSort
  cases q.sort with
  | nil => simp [pure, Except.pure]
  | cons rule rules => simp [bind_eq_error_iff, pure, Except.pure]

theorem arranged_isStableSort {o : Option (SortOrder R)} (h : q.compiledSort c = .ok o)
    (records : List R) :
    IsStableSort (c.fields.compareBy q.sort) records (arranged o records) := by
  unfold compiledSort at h
  cases hs : q.sort with
  | nil =>
    rw [hs] at h
    obtain rfl := Except.ok.inj h
    exact .of_forall_eq (fun _ _ => rfl) records
  | cons rule rules =>
    rw [hs] at h
    obtain ⟨order, horder, h⟩ := bind_eq_ok_iff.1 h
    obtain rfl := Except.ok.inj h
    exact Compiler.sort_isStableSort horder records

/-! ### The answer -/

theorem execute_eq_error_iff {records : List R} :
    q.execute c records = .error e ↔ c.Refuses q.filter q.sort e := by
  unfold execute Compiler.Refuses
  rw [bind_eq_error_iff, compiledFilter_eq_error_iff, ← exists_compiledFilter_eq_ok_iff]
  simp only [bind_eq_error_iff, compiledSort_eq_error_iff, pure, Except.pure, reduceCtorEq,
    and_false, exists_false, or_false, exists_and_right]

theorem exists_compiled (h : ∀ e, ¬c.Refuses q.filter q.sort e) :
    ∃ predicate order, q.compiledFilter c = .ok predicate ∧ q.compiledSort c = .ok order := by
  cases hp : q.compiledFilter c with
  | error e => exact absurd (.inl (compiledFilter_eq_error_iff.1 hp)) (h e)
  | ok predicate =>
    have hfilter := exists_compiledFilter_eq_ok_iff.1 ⟨predicate, hp⟩
    cases ho : q.compiledSort c with
    | error e => exact absurd (.inr ⟨hfilter, compiledSort_eq_error_iff.1 ho⟩) (h e)
    | ok order => exact ⟨predicate, order, rfl, rfl⟩

/-- The steps of an answer. -/
theorem execute_eq_ok_iff {records : List R} {result : QueryResult R} :
    q.execute c records = .ok result ↔ ∃ predicate, q.compiledFilter c = .ok predicate ∧
      ∃ order, q.compiledSort c = .ok order ∧
        ⟨onlyIf q.outputs.items (shown q.page (arranged order (selected predicate records))),
          onlyIf q.outputs.totalCount records.length,
          onlyIf q.outputs.totalMatchCount (selected predicate records).length⟩ = result := by
  unfold execute
  simp only [bind_eq_ok_iff, pure, Except.pure, Except.ok.injEq]

theorem mem_of_mem_shown {predicate : Option (Predicate R)} {order : Option (SortOrder R)}
    (ho : q.compiledSort c = .ok order) {records : List R} {r : R}
    (hr : r ∈ shown q.page (arranged order (selected predicate records))) : r ∈ records := by
  have harranged := (shown_sublist _ _).subset hr
  have hselected := (arranged_isStableSort ho _).perm.subset harranged
  cases predicate with
  | none => exact hselected
  | some p => exact List.mem_of_mem_filter hselected

/-- What is answered is among the records. -/
theorem mem_of_mem_items {records items : List R} {result : QueryResult R}
    (h : q.execute c records = .ok result) (hitems : result.items = some items) {r : R}
    (hr : r ∈ items) : r ∈ records := by
  obtain ⟨predicate, -, order, ho, rfl⟩ := execute_eq_ok_iff.1 h
  obtain ⟨-, hwindow⟩ := Option.ite_none_right_eq_some.1 hitems
  obtain rfl := Option.some.inj hwindow
  exact mem_of_mem_shown ho hr

/-- A query is refused for its filter or its sort rules alone. Otherwise its answer has, each where
it is asked for, the number of records, the number of those that the filter selects, and the window
on these in the order of the rules, those that tie as they were. -/
theorem execute_spec (c : Compiler R) (filter : Option Filter) (rules : List SortRule)
    (page : Option Page) (records : List R) :
    (∀ outputs e,
      execute ⟨filter, rules, page, outputs⟩ c records = .error e ↔ c.Refuses filter rules e) ∧
    ((∀ e, ¬c.Refuses filter rules e) → ∃ found sorted window,
      found = c.fields.select filter records ∧
      (∀ l, IsStableSort (c.fields.compareBy rules) found l ↔ l = sorted) ∧
      (page.getD {}).IsWindow sorted window ∧
      ∀ outputs, execute ⟨filter, rules, page, outputs⟩ c records = .ok
        { items := if outputs.items then some window else none
          totalCount := if outputs.totalCount then some records.length else none
          totalMatchCount := if outputs.totalMatchCount then some found.length else none }) := by
  refine ⟨fun outputs e => execute_eq_error_iff, ?_⟩
  intro hok
  -- What is compiled depends on neither the page nor the outputs, so any will do here.
  obtain ⟨predicate, order, hp, ho⟩ := exists_compiled (q := ⟨filter, rules, page, {}⟩) hok
  have hsort := arranged_isStableSort ho (selected predicate records)
  refine ⟨_, arranged order (selected predicate records), _, selected_eq_select hp records, ?_,
    shown_isWindow page _, ?_⟩
  · intro l
    constructor
    · intro hl
      exact hl.unique hsort
    · rintro rfl
      exact hsort
  · intro outputs
    exact execute_eq_ok_iff.2 ⟨predicate, hp, order, ho, rfl⟩

theorem execute_descending :
    let c : Compiler Int64 := ⟨.ofList [("x", .integer some)], {}⟩
    let filter : Option Filter := some (.value "x" .gt (.typed (.integer 1)))
    ∃ found sorted window, found = c.fields.select filter [1, 2, 3] ∧
      IsStableSort (c.fields.compareBy [⟨"x", .desc⟩]) found sorted ∧
      execute ⟨filter, [⟨"x", .desc⟩], some ⟨1, some 1⟩, .all⟩ c [1, 2, 3] =
        .ok ⟨some window, some 3, some found.length⟩ := by
  intro c filter
  have hok : ∀ e, ¬c.Refuses filter [⟨"x", .desc⟩] e := by
    rintro e (⟨f, hf, he⟩ | ⟨-, -, he⟩)
    · obtain rfl := Option.some.inj hf
      cases he
    · cases he
  obtain ⟨found, sorted, window, hfound, hsort, -, hexec⟩ :=
    (execute_spec c filter [⟨"x", .desc⟩] (some ⟨1, some 1⟩) [1, 2, 3]).2 hok
  exact ⟨found, sorted, window, hfound, (hsort sorted).2 rfl, hexec .all⟩

end Query

end RecordQuery

import Mathlib.Data.List.FinRange
import RecordQuery.Proofs.Compiler.Comap
import RecordQuery.Proofs.Query.Execution

/-!
# The positions that a query selects

A query can be answered by the positions of records, each looked up where it stands. So what is
selected is told apart also where records are equal.

* `Query.fields`, the fields that a query names, and `Query.positions`, its answer by positions;
* `execute_map`, which shows that an answer from looked up records is the answer from what they are
  looked up by, with every item looked up;
* `map_get_positions`, which shows that the positions are those of the answer, and
  `positions_of_agree`, which shows that they depend only on the fields that the query names.
-/

namespace RecordQuery

open Outcome

variable {R S : Type}

theorem map_cast_finRange {m n : Nat} (h : m = n) :
    (List.finRange m).map (Fin.cast h) = List.finRange n := by
  subst h
  exact List.map_id _

namespace Query

/-- The fields that a query names: those of its filter, then those of its sort rules. -/
def fields (q : Query) : List String :=
  q.filter.elim [] Filter.fields ++ q.sort.map SortRule.field

/-- The answer to a query by the positions of records. -/
def positions (q : Query) (c : Compiler R) (records : List R) :
    Except CompileError (QueryResult (Fin records.length)) :=
  q.execute (c.comap records.get) (List.finRange records.length)

/-! ### The steps of an answer -/

theorem map_selected (f : S → R) (predicate : Option (Predicate R)) (places : List S) :
    (selected (predicate.map (·.comap f)) places).map f = selected predicate (places.map f) := by
  cases predicate with
  | none => rfl
  | some p => exact List.filter_map.symm

theorem map_arranged (f : S → R) (order : Option (SortOrder R)) (places : List S) :
    (arranged (order.map (·.comap f)) places).map f = arranged order (places.map f) := by
  cases order with
  | none => rfl
  | some o => exact List.map_mergeSort fun s _ t _ => by rw [SortOrder.compare_comap]

theorem map_shown (f : S → R) (page : Option Page) (places : List S) :
    (shown page places).map f = shown page (places.map f) := by
  cases page with
  | none => rfl
  | some p =>
    simp only [shown, Page.apply]
    cases p.take with
    | none => exact List.map_drop
    | some n => exact List.map_take.trans (congrArg _ List.map_drop)

variable {q : Query} {c' : Compiler S} {c : Compiler R} {f : S → R}

theorem compiledFilter_readsThrough (h : c'.ReadsThrough c f (q.filter.elim [] Filter.fields)) :
    q.compiledFilter c' = (q.compiledFilter c).map (Option.map (·.comap f)) := by
  unfold compiledFilter
  cases hfilter : q.filter with
  | none => rfl
  | some F =>
    rw [hfilter] at h
    simp only [h.compileFilter, map_bind_eq, bind_map_eq]
    rfl

theorem compiledSort_readsThrough (h : c'.ReadsThrough c f (q.sort.map SortRule.field)) :
    q.compiledSort c' = (q.compiledSort c).map (Option.map (·.comap f)) := by
  unfold compiledSort
  split
  · rfl
  · simp only [h.compileSort, map_bind_eq, bind_map_eq]
    rfl

/-! ### The answer -/

/-- To look records up and answer a query is to answer it and look the items up. -/
theorem execute_map (h : c'.ReadsThrough c f q.fields) (places : List S) :
    (q.execute c' places).map (·.map f) = q.execute c (places.map f) := by
  have hfilter := compiledFilter_readsThrough (h.mono (List.subset_append_left _ _))
  have hsort := compiledSort_readsThrough (h.mono (List.subset_append_right _ _))
  unfold execute
  simp only [hfilter, hsort, map_bind_eq, bind_map_eq, ← map_selected, ← map_arranged, ← map_shown,
    List.length_map, ← map_onlyIf]
  rfl

theorem map_get_positions (q : Query) (c : Compiler R) (records : List R) :
    (q.positions c records).map (·.map records.get) = q.execute c records := by
  rw [positions, execute_map (c.readsThrough_comap _ _), List.map_get_finRange]

/-- Records that agree, one by one, on the fields that a query names are selected at the same
positions. -/
theorem positions_of_agree (q : Query) (c : Compiler R) {xs ys : List R}
    (hlength : xs.length = ys.length)
    (hagree : ∀ i, ∀ field ∈ q.fields,
      c.fields.read field (xs.get i) = c.fields.read field (ys.get (i.cast hlength))) :
    (q.positions c xs).map (·.map (Fin.cast hlength)) = q.positions c ys := by
  rw [positions, execute_map (Compiler.readsThrough_of_agree hagree), map_cast_finRange, positions]

end Query

end RecordQuery

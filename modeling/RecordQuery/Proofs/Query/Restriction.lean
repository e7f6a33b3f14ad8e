import RecordQuery.Proofs.Query.Execution
import RecordQuery.Proofs.Sort.Passes

/-!
# Queries without their filters

A query selects records before it sorts them. Records that are left out do not change how the others
stand, so it might as well sort all records and select from these.

* `Query.arranged_selected`, which shows this for the steps of an answer;
* `Query.execute_withoutFilter`, for the items of an answer.
-/

namespace RecordQuery.Query

open Outcome

variable {R : Type} {c : Compiler R} {q : Query}

/-- The query for all records. -/
def withoutFilter (q : Query) : Query :=
  { q with filter := none }

/-- Records are selected before they are sorted or afterwards. -/
theorem arranged_selected (order : Option (SortOrder R)) (predicate : Option (Predicate R))
    (records : List R) :
    arranged order (selected predicate records) = selected predicate (arranged order records) := by
  cases predicate with
  | none => rfl
  | some p =>
    cases order with
    | none => rfl
    | some o => exact o.sort_filter p.holds records

/-- The items of a query without a page are those of the query for all records for which its filter
holds, in the same order. -/
theorem execute_withoutFilter {records : List R} {result : QueryResult R} (hpage : q.page = none)
    (h : q.execute c records = .ok result) :
    ∃ unfiltered, q.withoutFilter.execute c records = .ok unfiltered ∧
      unfiltered.items.isSome = q.outputs.items ∧
      (q.filter = none → result.items = unfiltered.items) ∧
      ∀ f ∈ q.filter, ∃ p, c.compileFilter f = .ok p ∧
        result.items = unfiltered.items.map p.filter := by
  obtain ⟨predicate, hp, order, ho, rfl⟩ := execute_eq_ok_iff.1 h
  have hitems : onlyIf q.outputs.items (shown q.page (arranged order (selected predicate records))) =
      (onlyIf q.outputs.items (shown q.page (arranged order records))).map (selected predicate) := by
    rw [hpage, map_onlyIf, shown, shown, arranged_selected]
  refine ⟨_, execute_eq_ok_iff.2 ⟨none, rfl, order, ho, rfl⟩, isSome_onlyIf _ _, ?_⟩
  rcases compiledFilter_eq_ok_iff.1 hp with ⟨hnone, rfl⟩ | ⟨f, hf, p, hfilter, rfl⟩
  · exact ⟨fun _ => rfl, by simp [hnone]⟩
  · refine ⟨by simp [hf], fun g hg => ?_⟩
    obtain rfl := Option.some.inj (hf.symm.trans hg)
    exact ⟨p, hfilter, hitems⟩

/-- Of two records that tie one is left out, and two others that tie are left. -/
theorem execute_withoutFilter_of_ties :
    let c : Compiler (Int64 × String) :=
      ⟨.ofList [("n", .integer fun r => some r.1), ("s", .text fun r => some r.2)], {}⟩
    let q : Query :=
      { filter := some (.value "s" .notEq (.typed (.text "b"))), sort := [⟨"n", .desc⟩] }
    let records := [(1, "a"), (2, "b"), (2, "c"), (3, "d"), (1, "e")]
    ∃ (result all : QueryResult (Int64 × String)) (p : Predicate (Int64 × String)),
      q.execute c records = .ok result ∧ q.withoutFilter.execute c records = .ok all ∧
      result.items = all.items.map p.filter ∧
      all.items = some [(3, "d"), (2, "b"), (2, "c"), (1, "a"), (1, "e")] ∧
      result.items = some [(3, "d"), (2, "c"), (1, "a"), (1, "e")] := by
  intro c q records
  have hpage : q.page = none := rfl
  obtain ⟨result, h⟩ : ∃ result, q.execute c records = .ok result := ⟨_, rfl⟩
  obtain ⟨all, hall, -, -, hfilter⟩ := execute_withoutFilter hpage h
  obtain ⟨p, hp, hitems⟩ := hfilter _ rfl
  have hsorted : all.items = some [(3, "d"), (2, "b"), (2, "c"), (1, "a"), (1, "e")] := by
    obtain rfl : _ = all := Except.ok.inj hall
    simp +decide [selected, arranged, SortOrder.sort, List.mergeSort, q, records]
  refine ⟨result, all, p, h, hall, hitems, hsorted, ?_⟩
  rw [hitems, hsorted]
  obtain rfl : _ = p := Except.ok.inj hp
  decide +kernel

end RecordQuery.Query

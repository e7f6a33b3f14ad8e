import Mathlib.Algebra.Order.Floor.Div
import RecordQuery.Proofs.Query.Execution

/-!
# Going through an answer page by page

A query is answered anew for every page. Each time the same records are selected, counted and put in
the same order, so that pages which follow each other show one list part by part.

* `flatMap_range_take`, the parts of a list one after another;
* `Query.execute_onPage`, the answer on a page from the answer without one;
* `Query.execute_pages`, for all pages of one size.
-/

namespace RecordQuery

open Outcome

variable {R α : Type}

/-- The first parts of a list make up its beginning. -/
theorem flatMap_range_take (items : List α) (n count : Nat) :
    (List.range count).flatMap (fun k => (items.drop (k * n)).take n) = items.take (count * n) := by
  induction count with
  | zero => simp
  | succ count ih =>
    rw [List.range_succ, List.flatMap_append, ih, List.flatMap_singleton, Nat.succ_mul,
      List.take_add]

theorem Page.apply_eq_nil {p : Page} {items : List α} (h : items.length ≤ p.skip.toNat) :
    p.apply items = [] := by
  have hdrop : items.drop p.skip.toNat = [] := List.drop_eq_nil_of_le h
  unfold apply
  split <;> simp [hdrop]

/-- Pages of one size which follow each other, as many as there are records for, show all of them. -/
theorem Page.flatMap_apply {n : UInt64} (hn : 0 < n) {items : List α} {page : Nat → Page}
    (hpage : ∀ k < items.length ⌈/⌉ n.toNat,
      (page k).skip.toNat = k * n.toNat ∧ (page k).take = some n) :
    (List.range (items.length ⌈/⌉ n.toNat)).flatMap (fun k => (page k).apply items) = items := by
  have hblock : ∀ k ∈ List.range (items.length ⌈/⌉ n.toNat),
      (page k).apply items = (items.drop (k * n.toNat)).take n.toNat := by
    intro k hk
    obtain ⟨hskip, htake⟩ := hpage k (List.mem_range.1 hk)
    simp only [apply, htake, hskip]
  have hcover : items.length ≤ items.length ⌈/⌉ n.toNat * n.toNat := by
    rw [Nat.mul_comm]
    exact le_smul_ceilDiv (UInt64.lt_iff_toNat_lt.1 hn)
  rw [List.flatMap_congr hblock, flatMap_range_take, List.take_of_length_le hcover]

namespace Query

variable {c : Compiler R} {q : Query}

/-- The query for what a page shows. -/
def onPage (q : Query) (page : Page) : Query :=
  { q with page := some page }

/-- Without a page all selected records are answered, and on a page the part of them that it shows,
with the same counts. -/
theorem execute_onPage {records : List R} {result : QueryResult R} (hpage : q.page = none)
    (hasked : q.outputs.items = true) (h : q.execute c records = .ok result) :
    ∃ items, result.items = some items ∧
      items.length = (c.fields.select q.filter records).length ∧
      ∀ page, (q.onPage page).execute c records =
        .ok { result with items := some (page.apply items) } := by
  obtain ⟨predicate, hp, order, ho, rfl⟩ := execute_eq_ok_iff.1 h
  refine ⟨arranged order (selected predicate records), ?_, ?_, fun page => ?_⟩
  · simp only [onlyIf, hasked, hpage, shown, if_true]
  · rw [← selected_eq_select hp]
    exact (arranged_isStableSort ho _).perm.length_eq
  · refine execute_eq_ok_iff.2 ⟨predicate, hp, order, ho, ?_⟩
    simp only [onPage, onlyIf, hasked, shown, if_true]
    rfl

/-- A query that is answered with items is answered on every page, with the same counts, and with no
items where all that match are skipped. The pages of one size, from the first to that with the last
item, show the items one after another. -/
theorem execute_pages {records : List R} {result : QueryResult R} (hpage : q.page = none)
    (hasked : q.outputs.items = true) (h : q.execute c records = .ok result) :
    ∃ items, result.items = some items ∧
      items.length = (c.fields.select q.filter records).length ∧
      (∀ page : Page, ∃ window,
        (q.onPage page).execute c records = .ok { result with items := some window } ∧
        (items.length ≤ page.skip.toNat → window = [])) ∧
      ∀ (n : UInt64) (page : Nat → Page), 0 < n →
        (∀ k < items.length ⌈/⌉ n.toNat,
          (page k).skip.toNat = k * n.toNat ∧ (page k).take = some n) →
        ∃ windows : List (List R),
          (List.range (items.length ⌈/⌉ n.toNat)).mapM
              (fun k => (q.onPage (page k)).execute c records) =
            .ok (windows.map fun window => { result with items := some window }) ∧
          windows.flatten = items := by
  obtain ⟨items, hitems, hlength, hexec⟩ := execute_onPage hpage hasked h
  refine ⟨items, hitems, hlength, ?_, ?_⟩
  · intro page
    exact ⟨_, hexec page, Page.apply_eq_nil⟩
  · intro n page hn hpages
    refine ⟨(List.range (items.length ⌈/⌉ n.toNat)).map fun k => (page k).apply items, ?_, ?_⟩
    · refine (mapM_eq_ok_iff_of_forall (p := fun _ => True) ?_).2 ⟨fun _ _ => trivial, List.map_map⟩
      intro k _ answer
      rw [hexec, Except.ok.injEq, true_and, eq_comm]
      rfl
    · rw [← List.flatMap_def]
      exact Page.flatMap_apply hn hpages

/-- Five records match, two of which tie, and are shown on three pages of two. The fourth page is
empty. -/
theorem execute_pages_of_five :
    let c : Compiler (Int64 × String) :=
      ⟨.ofList [("n", .integer fun r => some r.1), ("s", .text fun r => some r.2)], {}⟩
    let q : Query :=
      { filter := some (.value "s" .notEq (.typed (.text "b"))), sort := [⟨"n", .desc⟩]
        outputs := .all }
    let records := [(1, "a"), (2, "b"), (2, "c"), (3, "d"), (2, "e"), (1, "f")]
    let page : Nat → Page := fun k => ⟨UInt64.ofNat (k * 2), some 2⟩
    ∃ windows : List (List (Int64 × String)),
      (List.range 3).mapM (fun k => (q.onPage (page k)).execute c records) =
        .ok (windows.map fun window => ⟨some window, some 6, some 5⟩) ∧
      windows.flatten = [(3, "d"), (2, "c"), (2, "e"), (1, "a"), (1, "f")] ∧
      (q.onPage (page 3)).execute c records = .ok ⟨some [], some 6, some 5⟩ := by
  intro c q records page
  obtain ⟨result, h⟩ : ∃ result, q.execute c records = .ok result := ⟨_, rfl⟩
  obtain ⟨items, hitems, -, hevery, hpages⟩ := execute_pages rfl rfl h
  have hresult :
      result = ⟨some [(3, "d"), (2, "c"), (2, "e"), (1, "a"), (1, "f")], some 6, some 5⟩ := by
    rw [← Except.ok.inj h]
    simp +decide [selected, arranged, shown, onlyIf, Predicate.filter, SortOrder.sort,
      List.mergeSort, q, records]
  subst hresult
  obtain rfl := Option.some.inj hitems
  obtain ⟨windows, hwindows, hflatten⟩ := hpages 2 page (by decide) (by decide)
  obtain ⟨last, hlast, hempty⟩ := hevery (page 3)
  rw [hempty (by decide)] at hlast
  exact ⟨windows, hwindows, hflatten, hlast⟩

end Query

end RecordQuery

import Mathlib.Data.List.Induction
import RecordQuery.Proofs.Compiler.Success

/-!
# Lists of operands without repetitions

A value is inserted into a set unless one of the members is the same. As only the members are looked
at, and not the values that were dropped before, it takes the transitivity of `Value.Same` to tell
what is kept from the list alone.

* `firstOccurrences`, the values of a list that are the same as none before them;
* `ValueSet.Distinct`, which says that no two members are the same, and `Distinct.insert`, which
  shows that insertions keep it;
* `ValueSet.members_ofList`, which shows by induction on the list that its set has exactly the first
  occurrences as members;
* `coerceMany_collects`, which joins these to the outcome for a list of operands.
-/

namespace RecordQuery

open Outcome

instance : DecidableRel Value.Same := fun _ _ => decidable_of_iff _ Value.equal_iff

/-- The values of a list that are the same as none before them. -/
def firstOccurrences (vs : List Value) : List Value :=
  (vs.zipIdx.filter fun (v, i) => ∀ w ∈ vs.take i, ¬w.Same v).map Prod.fst

/-- One value more is a first occurrence or changes nothing. -/
theorem firstOccurrences_concat (vs : List Value) (v : Value) :
    firstOccurrences (vs ++ [v]) =
      firstOccurrences vs ++ if ∃ w ∈ vs, w.Same v then [] else [v] := by
  have hnone : (∀ w ∈ vs, ¬w.Same v) ↔ ¬∃ w ∈ vs, w.Same v := by
    simp only [not_exists, not_and]
  unfold firstOccurrences
  rw [List.zipIdx_append, List.filter_append, List.map_append]
  congr 1
  · refine congrArg _ (List.filter_congr ?_)
    rintro ⟨u, i⟩ he
    have hi : i ≤ vs.length := Nat.le_of_lt (List.mem_zipIdx' he).1
    simp only [List.take_append_of_le_length hi]
  · simp only [List.zipIdx_singleton, List.filter_singleton, Nat.zero_add, List.take_left, hnone]
    by_cases h : ∃ w ∈ vs, w.Same v <;> simp [h]

namespace ValueSet

/-- No two members are the same. A NaN is not the same as itself, so it may be there twice. -/
def Distinct (s : ValueSet) : Prop :=
  s.members.Pairwise fun v w => ¬v.Same w

theorem members_insert (s : ValueSet) (v : Value) :
    (s.insert v).members = s.members ++ if s.contains v then [] else [v] := by
  unfold insert
  split
  · exact (List.append_nil _).symm
  · rfl

/-- What is inserted differs from the members, or else it is dropped. -/
theorem Distinct.insert {s : ValueSet} (h : s.Distinct) (v : Value) : (s.insert v).Distinct := by
  unfold ValueSet.insert
  split
  case isTrue => exact h
  case isFalse hv =>
    refine List.pairwise_append.2 ⟨h, List.pairwise_singleton _ _, fun m hm w hw hsame => ?_⟩
    obtain rfl := List.mem_singleton.1 hw
    exact hv (contains_iff.2 ⟨m, hm, hsame⟩)

theorem ofList_concat (vs : List Value) (v : Value) :
    ofList (vs ++ [v]) = (ofList vs).insert v :=
  List.foldl_concat _ _ _ _

theorem distinct_ofList (vs : List Value) : (ofList vs).Distinct := by
  induction vs using List.reverseRecOn with
  | nil => exact List.Pairwise.nil
  | append_singleton vs v ih =>
    rw [ofList_concat]
    exact ih.insert v

/-- The set of a list has its first occurrences as members, in their order. -/
theorem members_ofList (vs : List Value) : (ofList vs).members = firstOccurrences vs := by
  induction vs using List.reverseRecOn with
  | nil => rfl
  | append_singleton vs v ih =>
    -- A member is the same as `v` if and only if a value of the list is.
    rw [ofList_concat, members_insert, ih, firstOccurrences_concat]
    simp only [contains_ofList]

/-- A set has been made of the values of a list, of which it keeps the first occurrences. It contains
what is the same as a value of the list. -/
structure Collects (s : ValueSet) (vs : List Value) : Prop where
  members_eq : s.members = firstOccurrences vs
  distinct : s.Distinct
  contains_iff : ∀ w, s.contains w = true ↔ ∃ v ∈ vs, w.Same v

theorem collects_ofList (vs : List Value) : (ofList vs).Collects vs where
  members_eq := members_ofList vs
  distinct := distinct_ofList vs
  contains_iff := fun w => by simp only [contains_ofList, Value.same_comm (w := w)]

theorem collects_iff {s : ValueSet} {vs : List Value} : s.Collects vs ↔ ofList vs = s := by
  constructor
  · intro h
    cases s
    exact congrArg ValueSet.mk ((members_ofList vs).trans h.members_eq.symm)
  · rintro rfl
    exact collects_ofList vs

end ValueSet

section Operands

variable {field : String} {type : FieldType} {operands : List Operand}

theorem coerceMany_eq_ok_iff_collects {s : ValueSet} :
    coerceMany field type operands = .ok s ↔
      ∃ vs, List.Forall₂ (fun o v => coerce field type o = .ok v) operands vs ∧ s.Collects vs := by
  rw [coerceMany_eq_ok_iff]
  simp only [mapM_eq_ok_iff, ValueSet.collects_iff]

theorem exists_coerceMany_eq_ok_iff :
    (∃ s, coerceMany field type operands = .ok s) ↔
      ∀ o ∈ operands, ∃ v, coerce field type o = .ok v := by
  rw [coerceMany, exists_map_eq_ok_iff, exists_mapM_eq_ok_iff]

end Operands

/-- A list of operands fails as the first of them that is refused. If none is, the set is made of
their values, of which it keeps the first occurrences, so that no two members are the same; and
whatever list a set is made of, it contains what is the same as a value of the list. -/
theorem coerceMany_collects (field : String) (type : FieldType) (operands : List Operand) :
    (∀ e, coerceMany field type operands = .error e ↔
      ∃ before o after, operands = before ++ o :: after ∧
        (∀ o' ∈ before, ∃ v, coerce field type o' = .ok v) ∧ coerce field type o = .error e) ∧
    ((∃ s, coerceMany field type operands = .ok s) ↔
      ∀ o ∈ operands, ∃ v, coerce field type o = .ok v) ∧
    (∀ s, coerceMany field type operands = .ok s ↔
      ∃ vs, List.Forall₂ (fun o v => coerce field type o = .ok v) operands vs ∧ s.Collects vs) ∧
    ∀ vs, (ValueSet.ofList vs).Collects vs :=
  ⟨fun _ => coerceMany_eq_error_iff, exists_coerceMany_eq_ok_iff,
    fun _ => coerceMany_eq_ok_iff_collects, ValueSet.collects_ofList⟩

/-- The zero of the other sign is dropped and still found, and a NaN is kept twice and not found. Of
two operands that are refused the first one counts. -/
theorem coerceMany_collects_of_zeros :
    let zero : Operand := .typed (.integer 0)
    let negativeZero : Operand := .literal ⟨.string "-0", trivial⟩
    let word : Operand := .typed (.text "zero")
    let nan : Value := .float ⟨0x7FF8000000000000⟩
    (∃ s, coerceMany "x" .float [negativeZero, .null, zero, .null] = .ok s ∧
      s.members = [.float ⟨0x8000000000000000⟩, .null] ∧ s.contains (.float ⟨0⟩) = true) ∧
    (∃ e, coerce "x" .float word = .error e ∧
      coerceMany "x" .float [zero, word, .typed nan] = .error e) ∧
    (ValueSet.ofList [nan, nan]).members = [nan, nan] ∧
    (ValueSet.ofList [nan, nan]).contains nan = false := by
  intro zero negativeZero word nan
  obtain ⟨-, -, hok, hofList⟩ :=
    coerceMany_collects "x" .float [negativeZero, .null, zero, .null]
  obtain ⟨herror, -⟩ := coerceMany_collects "x" .float [zero, word, .typed nan]
  obtain ⟨e, he⟩ : ∃ e, coerce "x" .float word = .error e := ⟨_, rfl⟩
  have hvalues : List.Forall₂ (fun o v => coerce "x" .float o = .ok v)
      [negativeZero, .null, zero, .null]
      [.float ⟨0x8000000000000000⟩, .null, .float ⟨0⟩, .null] :=
    .cons rfl (.cons rfl (.cons rfl (.cons rfl .nil)))
  have hnan := hofList [nan, nan]
  refine ⟨⟨_, (hok _).2 ⟨_, hvalues, hofList _⟩, ?_, ?_⟩, ⟨e, he, ?_⟩, ?_, ?_⟩
  · rw [(hofList _).members_eq]
    decide +kernel
  · rw [(hofList _).contains_iff]
    exact ⟨.float ⟨0⟩, by simp, by decide +kernel⟩
  · exact (herror e).2 ⟨[zero], word, [.typed nan], rfl, by simpa using ⟨_, rfl⟩, he⟩
  · rw [hnan.members_eq]
    decide +kernel
  · rw [← Bool.not_eq_true, hnan.contains_iff]
    decide +kernel

end RecordQuery

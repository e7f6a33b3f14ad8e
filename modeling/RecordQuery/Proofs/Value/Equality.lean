import RecordQuery.Proofs.Binary64.Numeric
import RecordQuery.Value

/-!
# Equality of values

* `Value.Same`, what it means that a filter does not tell two values apart, with its laws;
* `Value.equal_iff`, which shows that `Value.equal` decides it;
* `ValueSet.contains_ofList`, which shows that dropping repeated values loses no member.
-/

namespace RecordQuery

namespace Value

/-- Two values that a filter does not tell apart. Floats count by their numeric value, and a NaN is
the same as nothing. -/
def Same : Value → Value → Prop
  | .float x, .float y => x.isNaN = false ∧ y.isNaN = false ∧ x.numeric = y.numeric
  | v, w => v = w

@[simp] theorem same_float {x y : Binary64} :
    Same (.float x) (.float y) ↔ x.isNaN = false ∧ y.isNaN = false ∧ x.numeric = y.numeric :=
  Iff.rfl

theorem equal_iff {v w : Value} : v.equal w = true ↔ v.Same w := by
  cases v <;> cases w
  case float.float x y => exact Binary64.equal_iff
  case null.null => exact iff_of_true rfl rfl
  case text.text | integer.integer | bool.bool | timestamp.timestamp | uuid.uuid =>
    refine beq_iff_eq.trans ⟨congrArg _, fun h => ?_⟩
    injection h
  all_goals exact iff_of_false Bool.false_ne_true nofun

/-- A value that is the same as another one is that value, unless both are floats. -/
theorem same_cases {v w : Value} (h : v.Same w) :
    v = w ∨ ∃ x y, v = .float x ∧ w = .float y := by
  cases v <;> cases w <;> first | exact .inl h | exact .inr ⟨_, _, rfl, rfl⟩

theorem Same.symm {v w : Value} (h : v.Same w) : w.Same v := by
  rcases same_cases h with rfl | ⟨x, y, rfl, rfl⟩
  · exact h
  · obtain ⟨hx, hy, hxy⟩ := same_float.1 h
    exact same_float.2 ⟨hy, hx, hxy.symm⟩

theorem same_comm {v w : Value} : v.Same w ↔ w.Same v :=
  ⟨Same.symm, Same.symm⟩

theorem Same.trans {u v w : Value} (h : u.Same v) (h' : v.Same w) : u.Same w := by
  rcases same_cases h with rfl | ⟨x, y, rfl, rfl⟩
  · exact h'
  rcases same_cases h' with rfl | ⟨y', z, hy, rfl⟩
  · exact h
  obtain rfl := Value.float.inj hy
  obtain ⟨hx, -, hxy⟩ := same_float.1 h
  obtain ⟨-, hz, hyz⟩ := same_float.1 h'
  exact same_float.2 ⟨hx, hz, hxy.trans hyz⟩

theorem same_null_iff {v : Value} : v.Same .null ↔ v = .null := by
  cases v <;> simp [Same]

theorem null_same_iff {v : Value} : Same .null v ↔ v = .null := by
  rw [same_comm, same_null_iff]

end Value

namespace ValueSet

theorem contains_iff {s : ValueSet} {w : Value} :
    s.contains w = true ↔ ∃ m ∈ s.members, m.Same w := by
  simp [contains, Value.equal_iff]

/-- Inserting a value adds what is the same as it, even where it is dropped as a repetition. -/
theorem contains_insert {s : ValueSet} {v w : Value} :
    (s.insert v).contains w = true ↔ s.contains w = true ∨ v.Same w := by
  unfold insert
  split
  case isTrue h =>
    obtain ⟨m, hm, hmv⟩ := contains_iff.1 h
    refine ⟨.inl, ?_⟩
    rintro (hw | hvw)
    · exact hw
    · exact contains_iff.2 ⟨m, hm, hmv.trans hvw⟩
  case isFalse =>
    simp only [contains_iff, List.mem_append, List.mem_singleton, or_and_right, exists_or,
      exists_eq_left]

theorem contains_foldl_insert {vs : List Value} {s : ValueSet} {w : Value} :
    (vs.foldl insert s).contains w = true ↔ s.contains w = true ∨ ∃ v ∈ vs, v.Same w := by
  induction vs generalizing s with
  | nil => simp
  | cons v vs ih =>
    rw [List.foldl_cons, ih, contains_insert, or_assoc]
    simp only [List.mem_cons, or_and_right, exists_or, exists_eq_left]

/-- A value is found in a list without its repetitions if it is the same as an item of the list. -/
theorem contains_ofList {vs : List Value} {w : Value} :
    (ofList vs).contains w = true ↔ ∃ v ∈ vs, v.Same w := by
  rw [ofList, contains_foldl_insert]
  simp [empty, contains]

theorem mem_insert {s : ValueSet} {v w : Value} (h : w ∈ (s.insert v).members) :
    w ∈ s.members ∨ w = v := by
  unfold insert at h
  split at h
  · exact .inl h
  · simpa using h

theorem mem_foldl_insert {vs : List Value} {s : ValueSet} {w : Value}
    (h : w ∈ (vs.foldl insert s).members) : w ∈ s.members ∨ w ∈ vs := by
  induction vs generalizing s with
  | nil => exact .inl h
  | cons v vs ih =>
    rcases ih h with h | h
    · rcases mem_insert h with h | rfl
      · exact .inl h
      · exact .inr List.mem_cons_self
    · exact .inr (List.mem_cons_of_mem _ h)

theorem mem_of_mem_ofList {vs : List Value} {w : Value} (h : w ∈ (ofList vs).members) :
    w ∈ vs :=
  (mem_foldl_insert h).resolve_left List.not_mem_nil

end ValueSet

end RecordQuery

import RecordQuery.Proofs.Predicate.Check
import RecordQuery.Coercion

/-!
# The type of a coerced operand

* `Operand.IsNull`, the operands that write null;
* `coerce_fits`, which shows that an operand is brought to the declared type or to null;
* `coerce_eq_null_iff`, which shows that nothing but null becomes null.
-/

namespace RecordQuery

open Outcome

/-- The operand writes null, with a type or as a literal. -/
def Operand.IsNull : Operand → Prop
  | .typed v => v = .null
  | .literal l => l.json = .null

/-- A value has the given type, and so is not null. -/
def Value.HasType (v : Value) (type : FieldType) : Prop :=
  v.type? = some type

theorem Value.HasType.ne_null {v : Value} {type : FieldType} (h : v.HasType type) : v ≠ .null := by
  rintro rfl
  cases h

section Literals

variable {json : Json} {v : Value}

theorem coerceText_hasType (h : coerceText json = .ok v) : v.HasType .text := by
  unfold coerceText at h
  split at h <;> cases h
  rfl

theorem coerceInteger_hasType (h : coerceInteger json = .ok v) : v.HasType .integer := by
  unfold coerceInteger at h
  split at h
  · split at h <;> cases h
    rfl
  · obtain ⟨n, -, rfl⟩ := map_eq_ok_iff.1 (mapError_eq_ok_iff.1 h)
    rfl
  · cases h

theorem finite_eq_ok_iff {x : Binary64} : finite x = .ok v ↔ x.isFinite = true ∧ .float x = v := by
  unfold finite
  by_cases h : x.isFinite = true <;> simp [h]

theorem finite_hasType {x : Binary64} (h : finite x = .ok v) : v.HasType .float := by
  obtain ⟨-, rfl⟩ := finite_eq_ok_iff.1 h
  rfl

theorem coerceFloat_hasType (h : coerceFloat json = .ok v) : v.HasType .float := by
  unfold coerceFloat at h
  split at h
  · split at h <;> cases h
    rfl
  · exact finite_hasType h
  · split at h
    · exact finite_hasType h
    · cases h
  · cases h

theorem coerceBool_hasType (h : coerceBool json = .ok v) : v.HasType .bool := by
  unfold coerceBool at h
  split at h
  · cases h
    rfl
  · split at h
    · cases h
      rfl
    · split at h <;> cases h
      rfl
  · cases h

theorem coerceTimestamp_hasType (h : coerceTimestamp json = .ok v) : v.HasType .timestamp := by
  unfold coerceTimestamp at h
  split at h
  · obtain ⟨t, -, rfl⟩ := map_eq_ok_iff.1 (mapError_eq_ok_iff.1 h)
    rfl
  · split at h <;> cases h
    rfl
  · cases h

theorem coerceUuid_hasType (h : coerceUuid json = .ok v) : v.HasType .uuid := by
  unfold coerceUuid at h
  split at h
  · obtain ⟨u, -, rfl⟩ := map_eq_ok_iff.1 (mapError_eq_ok_iff.1 h)
    rfl
  · cases h

/-- A literal becomes null if it is null, and else a value of the declared type. -/
theorem coerceJson_cases {declared : FieldType} (h : coerceJson declared json = .ok v) :
    json = .null ∧ v = .null ∨ json ≠ .null ∧ v.HasType declared := by
  unfold coerceJson at h
  split at h
  · cases h
    exact .inl ⟨rfl, rfl⟩
  case h_2 hne =>
    refine .inr ⟨hne, ?_⟩
    cases declared with
    | text => exact coerceText_hasType h
    | integer => exact coerceInteger_hasType h
    | float => exact coerceFloat_hasType h
    | bool => exact coerceBool_hasType h
    | timestamp => exact coerceTimestamp_hasType h
    | uuid => exact coerceUuid_hasType h

end Literals

/-- A value with a type becomes null if it is null, and else a value of the declared type. -/
theorem coerceValue_cases {declared : FieldType} {u v : Value}
    (h : coerceValue declared u = .ok v) :
    u = .null ∧ v = .null ∨ u ≠ .null ∧ v.HasType declared := by
  unfold coerceValue at h
  split at h
  · cases h
    exact .inl ⟨rfl, rfl⟩
  · refine .inr ⟨nofun, ?_⟩
    split at h <;> cases h
    rfl
  · refine .inr ⟨nofun, ?_⟩
    split at h <;> cases h
    rfl
  all_goals
    cases h <;> exact .inr ⟨nofun, rfl⟩

section Operands

variable {field : String} {declared : FieldType} {o : Operand} {v : Value}

/-- An operand becomes null if it writes null, and else a value of the declared type. -/
theorem coerce_cases (h : coerce field declared o = .ok v) :
    o.IsNull ∧ v = .null ∨ ¬o.IsNull ∧ v.HasType declared := by
  have h' := mapError_eq_ok_iff.1 h
  cases o with
  | typed u => exact coerceValue_cases h'
  | literal l => exact coerceJson_cases h'

theorem coerce_fits (h : coerce field declared o = .ok v) : v.Fits declared :=
  (coerce_cases h).imp And.right And.right

theorem coerce_eq_null_iff (h : coerce field declared o = .ok v) : v = .null ↔ o.IsNull := by
  rcases coerce_cases h with ⟨ho, hv⟩ | ⟨ho, hv⟩
  · exact iff_of_true hv ho
  · exact iff_of_false hv.ne_null ho

end Operands

end RecordQuery

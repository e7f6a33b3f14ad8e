import RecordQuery.Proofs.Coercion.Type
import RecordQuery.Proofs.Filter.RoundTrip
import RecordQuery.Proofs.Time.Rfc3339
import RecordQuery.Proofs.Uuid

/-!
# Operands that are written and coerced again

A value with a type is checked by type, the literal that is written for it is read by the rules for
literals.

* `Value.IsPlain` and `Operand.IsPlain`, the values whose texts the rules for literals read as these
  values;
* `coerceJson_toJson`, which shows for each type that both rules give the same value;
* `coerce_asLiteral`, the same for operands.
-/

namespace RecordQuery

open Outcome

/-- A timestamp lies in the years from 0 to 9999, which are written without a sign, and in no leap
second but one that ends a minute, which has a text of its own. -/
def Value.IsPlain (v : Value) : Prop :=
  ∀ t, v = .timestamp t → (0 ≤ t.date.year ∧ t.date.year ≤ 9999) ∧ t.LeapEndsMinute

/-- The same of a timestamp with a type. -/
def Operand.IsPlain (o : Operand) : Prop :=
  ∀ t, o = .typed (.timestamp t) → (0 ≤ t.date.year ∧ t.date.year ≤ 9999) ∧ t.LeapEndsMinute

section Values

variable {w : Value}

theorem int64?_toInt (n : Int64) : int64? (.integer n.toInt) = some n := by
  rw [int64?, Int64.ofInt_toInt, if_pos rfl]

theorem coerceInteger_toInt (n : Int64) :
    coerceInteger (.number (.integer n.toInt)) = .ok (.integer n) := by
  rw [coerceInteger, int64?_toInt]

theorem coerceTimestamp_render {t : Instant} (h : 0 ≤ t.date.year ∧ t.date.year ≤ 9999) :
    coerceTimestamp (.string (String.ofList t.render)) = .ok (.timestamp t.asWritten) := by
  rw [coerceTimestamp, String.toList_ofList, Instant.readStrict_render h]
  rfl

theorem coerceUuid_render (u : Uuid) :
    coerceUuid (.string (String.ofList u.render)) = .ok (.uuid u) := by
  rw [coerceUuid, String.toList_ofList, Uuid.read_render]
  rfl

/-- A value that a field may be compared with is also what its literal is for the field. -/
theorem coerceJson_toJson {declared : FieldType} {v : Value} (hplain : v.IsPlain)
    (h : coerceValue declared v = .ok w) : coerceJson declared v.toJson = .ok w := by
  cases v with
  | null => cases declared <;> exact h
  | text s =>
    cases declared with
    | text => exact h
    | _ => cases h
  | integer n =>
    cases declared with
    | integer =>
      rw [Value.toJson, Json.integer, coerceJson, coerceInteger_toInt]
      · exact h
      · rintro ⟨⟩
    | float => exact h
    | _ => cases h
  | float x =>
    cases declared with
    | float =>
      obtain ⟨hfinite, -⟩ := finite_eq_ok_iff.1 h
      rw [Value.toJson, if_pos hfinite]
      exact h
    | _ => cases h
  | bool b =>
    cases declared with
    | bool => exact h
    | _ => cases h
  | timestamp t =>
    cases declared with
    | timestamp =>
      obtain ⟨hyear, hleap⟩ := hplain t rfl
      rw [Value.toJson, coerceJson, coerceTimestamp_render hyear,
        Instant.asWritten_eq_self_iff.2 hleap]
      · exact h
      · rintro ⟨⟩
    | _ => cases h
  | uuid u =>
    cases declared with
    | uuid =>
      rw [Value.toJson, coerceJson, coerceUuid_render]
      · exact h
      · rintro ⟨⟩
    | _ => cases h

end Values

/-- An operand that a field may be compared with stands for the same value when it is read back. -/
theorem coerce_asLiteral {field : String} {declared : FieldType} {o : Operand} {v : Value}
    (hplain : o.IsPlain) (h : coerce field declared o = .ok v) :
    coerce field declared o.asLiteral = .ok v := by
  refine mapError_eq_ok_iff.2 ?_
  have h' := mapError_eq_ok_iff.1 h
  cases o with
  | typed u => exact coerceJson_toJson (fun t hu => hplain t (congrArg Operand.typed hu)) h'
  | literal l => exact h'

end RecordQuery

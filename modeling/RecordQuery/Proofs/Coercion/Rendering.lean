import RecordQuery.Proofs.Binary64.Nearest
import RecordQuery.Proofs.Coercion.Literal

/-!
# Accepted values are written and accepted again

What an operand becomes is written in messages and in requests, and coerced again when it is read.

* `coerce_isFinite`, which shows that no float is accepted that has no literal;
* `coerceValue_of_coerce`, which shows that an accepted value is accepted as it is;
* `coerce_literal_timestamp` and `coerce_literal_timestamp_signed`, what the literal of a timestamp
  is for a field;
* `coerce_literal_of_coerce`, which shows that the literal of an accepted value is accepted as this
  value, but for timestamps of years that are written with a sign and for leap seconds that do not
  end a minute.
-/

namespace RecordQuery

open Outcome

section Floats

variable {x : Binary64}

theorem coerceValue_isFinite {v : Value} (h : coerceValue .float v = .ok (.float x)) :
    x.isFinite = true := by
  cases v with
  | integer n =>
    rw [coerceValue] at h
    split at h
    case isTrue hn =>
      cases h
      exact (Binary64.ofInt_isInteger hn).1
    case isFalse => cases h
  | float y =>
    rw [coerceValue] at h
    split at h
    case isTrue hy =>
      cases h
      exact hy
    case isFalse => cases h
  | _ => cases h

theorem coerceFloat_isFinite {json : Json} (h : coerceFloat json = .ok (.float x)) :
    x.isFinite = true := by
  have hfinite : ∀ y, finite y = .ok (.float x) → x.isFinite = true := by
    intro y hy
    obtain ⟨hy, heq⟩ := finite_eq_ok_iff.1 hy
    exact Value.float.inj heq ▸ hy
  unfold coerceFloat at h
  split at h
  · split at h
    case isTrue hn =>
      cases h
      exact (Binary64.ofInt_isInteger hn).1
    case isFalse => cases h
  · exact hfinite _ h
  · split at h
    · exact hfinite _ h
    · cases h
  · cases h

end Floats

section Operands

variable {field : String} {declared : FieldType} {o : Operand} {v : Value}

/-- A float that is accepted is finite, so that it has a literal. -/
theorem coerce_isFinite {x : Binary64} (h : coerce field .float o = .ok (.float x)) :
    x.isFinite = true := by
  have h' := mapError_eq_ok_iff.1 h
  cases o with
  | typed u => exact coerceValue_isFinite h'
  | literal l =>
    have hjson : coerceJson .float l.json = .ok (.float x) := h'
    unfold coerceJson at hjson
    split at hjson
    · cases hjson
    · exact coerceFloat_isFinite hjson

/-- A value that an operand becomes is accepted with its type. -/
theorem coerceValue_of_coerce (h : coerce field declared o = .ok v) :
    coerceValue declared v = .ok v := by
  rcases coerce_cases h with ⟨-, rfl⟩ | ⟨-, htype⟩
  · cases declared <;> rfl
  · cases v with
    | null => cases htype
    | float x =>
      obtain rfl := Option.some.inj htype
      exact finite_eq_ok_iff.2 ⟨coerce_isFinite h, rfl⟩
    | _ =>
      obtain rfl := Option.some.inj htype
      rfl

/-- The literal of a timestamp is the instant that its text names. -/
theorem coerce_literal_timestamp {t : Instant} (h : 0 ≤ t.date.year ∧ t.date.year ≤ 9999) :
    coerce field .timestamp (.literal (Value.timestamp t).literal) =
      .ok (.timestamp t.asWritten) := by
  have hliteral : coerceJson .timestamp (Value.timestamp t).toJson =
      .ok (.timestamp t.asWritten) := by
    rw [Value.toJson, coerceJson, coerceTimestamp_render h]
    rintro ⟨⟩
  simp only [coerce, Value.literal, hliteral, Except.mapError]

theorem coerceTimestamp_render_signed {t : Instant}
    (h : ¬(0 ≤ t.date.year ∧ t.date.year ≤ 9999)) :
    coerceTimestamp (.string (String.ofList t.render)) = .error (.timestampText .invalid) := by
  rw [coerceTimestamp, String.toList_ofList, Instant.readStrict_render_signed h]
  rfl

/-- No timestamp may begin with a sign. -/
theorem coerce_literal_timestamp_signed {t : Instant}
    (h : ¬(0 ≤ t.date.year ∧ t.date.year ≤ 9999)) :
    coerce field .timestamp (.literal (Value.timestamp t).literal) = .error
      (.coercion field .timestamp (Value.timestamp t).describe (.timestampText .invalid)) := by
  have hliteral : coerceJson .timestamp (Value.timestamp t).toJson =
      .error (.timestampText .invalid) := by
    rw [Value.toJson, coerceJson, coerceTimestamp_render_signed h]
    rintro ⟨⟩
  simp only [coerce, Value.literal, hliteral, Except.mapError, Operand.describeRefused,
    Operand.describe, Operand.toJson, Operand.toLiteral, Value.describe]

/-- An accepted value is written as a literal that is accepted as the same value, with two kinds of
exceptions. Timestamps before the year 0 and after the year 9999 are written with a sign and refused.
A leap second that does not end a minute is written as the second after it and accepted as that. -/
theorem coerce_literal_of_coerce (h : coerce field declared o = .ok v) :
    (coerce field declared (.literal v.literal) = .ok v ↔
      ∀ t, v = .timestamp t → (0 ≤ t.date.year ∧ t.date.year ≤ 9999) ∧ t.LeapEndsMinute) ∧
    ∀ t, v = .timestamp t →
      (0 ≤ t.date.year ∧ t.date.year ≤ 9999 →
        coerce field declared (.literal v.literal) = .ok (.timestamp t.asWritten)) ∧
      (¬(0 ≤ t.date.year ∧ t.date.year ≤ 9999) →
        coerce field declared (.literal v.literal) =
          .error (.coercion field declared v.describe (.timestampText .invalid))) := by
  have hdeclared : ∀ t, v = .timestamp t → declared = .timestamp := by
    rintro t rfl
    rcases coerce_cases h with ⟨-, hnull⟩ | ⟨-, htype⟩
    · cases hnull
    · exact (Option.some.inj htype).symm
  refine ⟨⟨?_, fun hplain => ?_⟩, ?_⟩
  · rintro heq t rfl
    obtain rfl := hdeclared t rfl
    by_cases hyear : 0 ≤ t.date.year ∧ t.date.year ≤ 9999
    · rw [coerce_literal_timestamp hyear] at heq
      have hsame : t.asWritten = t := Value.timestamp.inj (Except.ok.inj heq)
      exact ⟨hyear, Instant.asWritten_eq_self_iff.1 hsame⟩
    · rw [coerce_literal_timestamp_signed hyear] at heq
      cases heq
  · have hliteral : coerceJson declared v.toJson = .ok v :=
      coerceJson_toJson hplain (coerceValue_of_coerce h)
    exact mapError_eq_ok_iff.2 hliteral
  · rintro t rfl
    obtain rfl := hdeclared t rfl
    exact ⟨coerce_literal_timestamp, coerce_literal_timestamp_signed⟩

/-- A leap second that ends a minute at an offset is written in universal time and accepted again.
One that follows second 4 is accepted again as second 5. -/
theorem coerce_literal_of_leap_second :
    let ending : Instant := ⟨1483228799, 1500000000, by decide, by decide⟩
    let within : Instant := ⟨1709283604, 1333333333, by decide, by decide⟩
    let next : Instant := ⟨1709283605, 333333333, by decide, by decide⟩
    let read : Operand := .literal ⟨.string "2017-01-01T00:59:60.5+01:00", trivial⟩
    let typed : Operand := .typed (.timestamp within)
    (coerce "at" .timestamp read = .ok (.timestamp ending) ∧
      coerce "at" .timestamp (.literal (Value.timestamp ending).literal) =
        .ok (.timestamp ending)) ∧
    coerce "at" .timestamp typed = .ok (.timestamp within) ∧
      coerce "at" .timestamp (.literal (Value.timestamp within).literal) =
        .ok (.timestamp next) := by
  intro ending within next read typed
  have hread : coerce "at" .timestamp read = .ok (.timestamp ending) := by decide +kernel
  have htyped : coerce "at" .timestamp typed = .ok (.timestamp within) := by rfl
  have hending : (0 ≤ ending.date.year ∧ ending.date.year ≤ 9999) ∧ ending.LeapEndsMinute := by
    decide
  have hwithin : 0 ≤ within.date.year ∧ within.date.year ≤ 9999 := by decide
  have hnext : within.asWritten = next := by decide
  refine ⟨⟨hread, (coerce_literal_of_coerce hread).1.2 ?_⟩, htyped, ?_⟩
  · rintro t ⟨⟩
    exact hending
  · rw [((coerce_literal_of_coerce htyped).2 within rfl).1 hwithin, hnext]

/-- The first instant of the year 10000 is accepted as a count of milliseconds, but what is written
for it is refused. -/
theorem coerce_literal_year_10000 :
    let t : Instant := ⟨253402300800, 0, by decide, by decide⟩
    coerce "at" .timestamp (.literal ⟨.number (.integer 253402300800000), rfl⟩) =
        .ok (.timestamp t) ∧
      (Value.timestamp t).toJson = .string "+10000-01-01T00:00:00Z" ∧
      coerce "at" .timestamp (.literal (Value.timestamp t).literal) = .error
        (.coercion "at" .timestamp "\"+10000-01-01T00:00:00Z\"" (.timestampText .invalid)) := by
  intro t
  refine ⟨by decide +kernel, congrArg Json.string (by decide +kernel), by decide +kernel⟩

end Operands

end RecordQuery

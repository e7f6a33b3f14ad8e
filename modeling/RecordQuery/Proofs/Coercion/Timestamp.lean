import RecordQuery.Proofs.Outcome
import RecordQuery.Proofs.Time.Offset
import RecordQuery.Proofs.Value.Comparison
import RecordQuery.Coercion

/-!
# The spellings of a timestamp

A timestamp of a whole number of milliseconds is accepted as that number or as a text at any offset.

* `Instant.IsPlainMillis`, the numbers of the years from 0 to 9999, and `Json.SpellsMillis`, the ways
  to spell one;
* `coerceJson_spellsMillis`, which shows that every spelling of a number is the same instant;
* `compare?_ofEpochMillis?`, the order of the instants of two numbers;
* `coerce_spelled_timestamp`, which sums these up.
-/

namespace RecordQuery

open Instant Outcome

/-- The number of milliseconds from 1970-01-01T00:00:00Z lies in the years from 0 to 9999. -/
def Instant.IsPlainMillis (ms : Int) : Prop :=
  ∃ date : Date, date.IsDay (ms / 86400000) ∧ 0 ≤ date.year ∧ date.year ≤ 9999

/-- A number of milliseconds is spelled as that number, or as a text that writes its instant as a
clock at some offset shows it. -/
inductive Json.SpellsMillis (ms : Int) : Json → Prop
  | number : SpellsMillis ms (.number (.integer ms))
  | text {s : String} {o : Offset} (h : WritesMillis ms o s.toList) : SpellsMillis ms (.string s)

theorem int64?_of_mem {n : Int} (h : -9223372036854775808 ≤ n ∧ n < 9223372036854775808) :
    int64? (.integer n) = some (Int64.ofInt n) ∧ (Int64.ofInt n).toInt = n := by
  have hn : (Int64.ofInt n).toInt = n := Int64.toInt_ofInt_of_le (by omega) (by omega)
  exact ⟨by rw [int64?, if_pos hn], hn⟩

section Spellings

variable {ms : Int} {t : Instant}

/-- Every spelling of a number of milliseconds is accepted as its instant. -/
theorem coerceJson_spellsMillis {json : Json} (h : json.SpellsMillis ms)
    (ht : ofEpochMillis? ms = some t) (hseconds : t.seconds = ms / 1000) :
    coerceJson .timestamp json = .ok (.timestamp t) := by
  cases h with
  | number =>
    have hmem := t.seconds_mem
    obtain ⟨hfits, htoInt⟩ := int64?_of_mem (n := ms) (by omega)
    rw [coerceJson, coerceTimestamp, hfits, Option.bind_some, htoInt, ht]
    rintro ⟨⟩
  | text h =>
    rw [coerceJson, coerceTimestamp, readStrict_writesMillis h ht]
    · rfl
    · rintro ⟨⟩

/-- The instant of a lesser number is before that of a greater one. -/
theorem compare?_ofEpochMillis? {ms' : Int} {t' : Instant} (hseconds : t.seconds = ms / 1000)
    (hnanos : t.nanos = (ms % 1000 * 1000000).toNat) (hseconds' : t'.seconds = ms' / 1000)
    (hnanos' : t'.nanos = (ms' % 1000 * 1000000).toNat) (hlt : ms < ms') :
    (Value.timestamp t).compare? (.timestamp t') = some .lt := by
  rw [Value.compare?_eq_lt_iff (by rfl)]
  show t.seconds < t'.seconds ∨ t.seconds = t'.seconds ∧ t.nanos < t'.nanos
  omega

end Spellings

/-- A literal that spells a number of milliseconds in the years from 0 to 9999 is accepted, whichever
way it spells it. Literals of one number become one timestamp, and the timestamp of a lesser number
is less than that of a greater one. -/
theorem coerce_spelled_timestamp {m n : Int} (hm : IsPlainMillis m) (hn : IsPlainMillis n)
    {k l : Literal} (hk : k.json.SpellsMillis m) (hl : l.json.SpellsMillis n) (field : String) :
    ∃ s t, coerce field .timestamp (.literal k) = .ok (.timestamp s) ∧
      coerce field .timestamp (.literal l) = .ok (.timestamp t) ∧
      (m = n → s = t) ∧ (m < n → (Value.timestamp s).compare? (.timestamp t) = some .lt) := by
  obtain ⟨mdate, hmday, hmyear⟩ := hm
  obtain ⟨ndate, hnday, hnyear⟩ := hn
  obtain ⟨s, hs, hsseconds, hsnanos⟩ := exists_ofEpochMillis? hmday hmyear
  obtain ⟨t, ht, htseconds, htnanos⟩ := exists_ofEpochMillis? hnday hnyear
  refine ⟨s, t, mapError_eq_ok_iff.2 (coerceJson_spellsMillis hk hs hsseconds),
    mapError_eq_ok_iff.2 (coerceJson_spellsMillis hl ht htseconds), ?_, ?_⟩
  · rintro rfl
    exact Option.some.inj (hs.symm.trans ht)
  · exact compare?_ofEpochMillis? hsseconds hsnanos htseconds htnanos

/-- An hour east of universal time the leap day of 2024 is over. An hour and a half west, the last
millisecond before 1970 is on the same day of 1969. -/
theorem coerce_spelled_timestamp_of_leap_day :
    let last : Literal := ⟨.string "1969-12-31T22:29:59.9990-01:30", trivial⟩
    let leap : Literal := ⟨.string "2024-03-01T00:30:00+01:00", trivial⟩
    let number : Literal := ⟨.number (.integer 1709249400000), rfl⟩
    (∃ t, coerce "at" .timestamp (.literal leap) = .ok (.timestamp t) ∧
      coerce "at" .timestamp (.literal number) = .ok (.timestamp t)) ∧
    ∃ s t, coerce "at" .timestamp (.literal last) = .ok (.timestamp s) ∧
      coerce "at" .timestamp (.literal leap) = .ok (.timestamp t) ∧
      (Value.timestamp s).compare? (.timestamp t) = some .lt := by
  intro last leap number
  have hlast : IsPlainMillis (-1) := ⟨⟨1969, 12, 31⟩, Date.isDay_iff.2 (by decide), by decide⟩
  have hleap : IsPlainMillis 1709249400000 :=
    ⟨⟨2024, 2, 29⟩, Date.isDay_iff.2 (by decide), by decide⟩
  let west : Offset := ⟨false, 1, 30, by decide, by decide⟩
  let east : Offset := ⟨true, 1, 0, by decide, by decide⟩
  have hwest : last.json.SpellsMillis (-1) := by
    refine .text (o := west) ?_
    have htext : "1969-12-31T22:29:59.9990-01:30".toList =
        (west.clockTime (-1) ⟨1969, 12, 31⟩).textWith (".9990".toList ++ west.text) := by
      decide +kernel
    rw [htext]
    exact .clock (Date.isDay_iff.2 (by decide)) (by decide) (.digits 999 1 (by decide))
  have heast : leap.json.SpellsMillis 1709249400000 := by
    refine .text (o := east) ?_
    have htext : "2024-03-01T00:30:00+01:00".toList =
        (east.clockTime 1709249400000 ⟨2024, 3, 1⟩).textWith ([] ++ east.text) := by
      decide +kernel
    rw [htext]
    exact .clock (Date.isDay_iff.2 (by decide)) (by decide) .none
  obtain ⟨t, t', ht, ht', heq, -⟩ :=
    coerce_spelled_timestamp (k := leap) (l := number) hleap hleap heast .number "at"
  obtain ⟨s, u, hs, hu, -, hlt⟩ :=
    coerce_spelled_timestamp (k := last) (l := leap) hlast hleap hwest heast "at"
  obtain rfl := heq rfl
  exact ⟨⟨t, ht, ht'⟩, s, u, hs, hu, hlt (by decide)⟩

end RecordQuery

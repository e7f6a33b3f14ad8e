import RecordQuery.Proofs.Time.Days
import RecordQuery.Proofs.Time.Rfc3339

/-!
# Instants written at an offset

An instant of a whole number of milliseconds is written with the date and the time of day that a
clock shows at some distance from universal time. The text is read as the instant that the number is.

* `Offset`, the distance of a clock from universal time, and `Offset.text`, how it is written;
* `WritesFraction`, the digits of milliseconds, and `WritesMillis`, the texts of an instant;
* `readFraction_writesFraction` and `readOffset_text`, which read what follows the seconds;
* `toInstant?_clockTime`, which takes the offset from the time on the clock;
* `readStrict_writesMillis`, which sums these up, and `exists_ofEpochMillis?`, the instant of a
  number in the years from 0 to 9999.
-/

namespace RecordQuery.Instant

open Text

/-! ### What is written -/

/-- The distance of a clock from universal time, less than a day in either direction. -/
structure Offset where
  east : Bool
  hours : Nat
  minutes : Nat
  hours_lt : hours < 24
  minutes_lt : minutes < 60

namespace Offset

/-- The minutes by which a clock is ahead of universal time. -/
def ahead (o : Offset) : Int :=
  if o.east then (o.hours * 60 + o.minutes : Nat) else -(o.hours * 60 + o.minutes : Nat)

/-- A sign, hours and minutes. -/
def text (o : Offset) : List Char :=
  (if o.east then '+' else '-') :: (decimalPadded 2 o.hours ++ ':' :: decimalPadded 2 o.minutes)

/-- The seconds from midnight of 1970-01-01 that a clock shows at a number of milliseconds from
1970-01-01T00:00:00Z. -/
def clockSeconds (o : Offset) (ms : Int) : Int :=
  ms / 1000 + o.ahead * 60

end Offset

/-- Milliseconds of a second are written with three to nine digits, and none of them if there are
none. -/
inductive WritesFraction : Nat → List Char → Prop
  | none : WritesFraction 0 []
  | digits (millis zeros : Nat) (h : zeros ≤ 6) :
    WritesFraction millis ('.' :: (decimalPadded 3 millis ++ List.replicate zeros '0'))

/-- The time of day that a clock shows on a date, with its milliseconds as nanoseconds. -/
def Offset.clockTime (o : Offset) (ms : Int) (date : Date) : Local where
  date := date
  hour := (o.clockSeconds ms % 86400).toNat / 3600
  minute := (o.clockSeconds ms % 86400).toNat / 60 % 60
  second := (o.clockSeconds ms % 86400).toNat % 60
  nanos := (ms % 1000).toNat * 1000000

/-- The text writes the instant of a number of milliseconds as a clock shows it: the date that is as
many days after 1970-01-01 as the clock has counted, in the years from 0 to 9999, the time of day,
the milliseconds and the offset of the clock. -/
inductive WritesMillis (ms : Int) (o : Offset) : List Char → Prop
  | clock {date : Date} {fraction : List Char} (hday : date.IsDay (o.clockSeconds ms / 86400))
    (hyear : 0 ≤ date.year ∧ date.year ≤ 9999)
    (hfraction : WritesFraction (ms % 1000).toNat fraction) :
    WritesMillis ms o ((o.clockTime ms date).textWith (fraction ++ o.text))

/-! ### What is read -/

theorem fractionNanos_append_zeros {ds : List Char} {zeros : Nat} (h : ds.length + zeros ≤ 9) :
    fractionNanos (ds ++ List.replicate zeros '0') = fractionNanos ds := by
  have hlength : (ds ++ List.replicate zeros '0').length = ds.length + zeros := by simp
  rw [fractionNanos, fractionNanos, hlength, List.take_of_length_le (by omega),
    List.take_of_length_le (by omega), List.append_assoc, List.replicate_append_replicate]
  congr 3
  omega

/-- The fraction is read in front of anything that begins with a sign. -/
theorem readFraction_writesFraction {millis : Nat} {fraction : List Char} (hlt : millis < 1000)
    (h : WritesFraction millis fraction) (o : Offset) :
    readFraction (fraction ++ o.text) = .ok (millis * 1000000, o.text) := by
  have hsign : ∀ c ∈ o.text.head?, c.isDigit = false := by
    rintro c ⟨⟩
    split <;> rfl
  cases h with
  | none =>
    unfold Offset.text
    cases o.east <;> rfl
  | digits _ zeros hzeros =>
    have hwidth : (decimal millis).length ≤ 3 := length_decimal_le (by omega) hlt
    have hlength := length_decimalPadded hwidth
    have hdigits : ∀ c ∈ decimalPadded 3 millis ++ List.replicate zeros '0', c.isDigit = true := by
      intro c hc
      rcases List.mem_append.1 hc with hc | hc
      · exact isDigit_of_mem_decimalPadded hc
      · rw [List.eq_of_mem_replicate hc]
        rfl
    have hne : decimalPadded 3 millis ++ List.replicate zeros '0' ≠ [] := by
      rw [← List.length_pos_iff, List.length_append, hlength]
      omega
    rw [List.cons_append, readFraction_append hdigits hne hsign,
      fractionNanos_append_zeros (by omega), fractionNanos_decimalPadded (by omega) hwidth]

theorem readPair_decimalPadded {n : Nat} (h : n < 100) (rest : List Char) :
    readPair (decimalPadded 2 n ++ rest) = .ok (n, rest) := by
  have hlong : ¬utf8Length (decimalPadded 2 n ++ rest) < 2 := by
    have hle := length_le_utf8Length (decimalPadded 2 n ++ rest)
    have hpair := le_length_decimalPadded 2 n
    rw [List.length_append] at hle
    omega
  rw [readPair, if_neg hlong, readDigits_decimalPadded (length_decimal_le Nat.two_pos h)]

/-- An offset is read from its text. -/
theorem readOffset_text (o : Offset) :
    readOffset (skipOneOf [':']) o.text = .ok (o.ahead, []) := by
  have hhours := o.hours_lt
  have hminutes := o.minutes_lt
  have hread : ∀ sign, sign = '+' ∨ sign = '-' →
      readSignedOffset (skipOneOf [':'])
        (sign :: (decimalPadded 2 o.hours ++ ':' :: decimalPadded 2 o.minutes)) =
      .ok (if sign = '+' then (o.hours * 60 + o.minutes : Nat)
        else -(o.hours * 60 + o.minutes : Nat), []) := by
    intro sign hsign
    have hminutes' := readPair_decimalPadded (n := o.minutes) (by omega) []
    rw [List.append_nil] at hminutes'
    rw [readSignedOffset, if_neg (by rcases hsign with rfl | rfl <;> decide),
      readPair_decimalPadded (by omega)]
    simp only [Outcome.ok_bind, skipOneOf, List.mem_singleton, if_true, hminutes',
      if_neg (Nat.not_le.2 hminutes)]
    rfl
  unfold Offset.text Offset.ahead
  cases o.east with
  | true => exact hread '+' (.inl rfl)
  | false => exact hread '-' (.inr rfl)

/-! ### The instant -/

section Clock

variable {ms : Int} {o : Offset} {date : Date}

theorem Offset.clockTime_timeIsValid : (o.clockTime ms date).timeIsValid = true := by
  rw [Local.timeIsValid_iff]
  simp only [clockTime]
  omega

/-- The offset is taken from what the clock shows, also where that leads to another day. -/
theorem toInstant?_clockTime (hday : date.IsDay (o.clockSeconds ms / 86400)) :
    (o.clockTime ms date).toInstant? o.ahead = ofEpochMillis? ms := by
  obtain ⟨-, hnumber⟩ := Date.isDay_iff.1 hday
  unfold Local.toInstant? Offset.clockTime ofEpochMillis?
  simp only [hnumber, Offset.clockSeconds]
  congr 1 <;> omega

/-- A text that writes an instant is read as that instant. -/
theorem readStrict_writesMillis {text : List Char} {t : Instant} (h : WritesMillis ms o text)
    (ht : ofEpochMillis? ms = some t) : readStrict text = .ok t := by
  obtain ⟨hday, hyear, hfraction⟩ := h
  have hsmall : ¬1440 ≤ o.ahead.natAbs := by
    have := o.hours_lt
    have := o.minutes_lt
    unfold Offset.ahead
    split <;> omega
  rw [readStrict_textWith hyear (Date.isDay_iff.1 hday).1 Offset.clockTime_timeIsValid
    (readFraction_writesFraction (by omega) hfraction o) (readOffset_text o), atOffset,
    if_neg hsmall, toInstant?_clockTime hday, ht]

end Clock

/-- A number of milliseconds in the years from 0 to 9999 is an instant. -/
theorem exists_ofEpochMillis? {ms : Int} {date : Date} (hday : date.IsDay (ms / 86400000))
    (hyear : 0 ≤ date.year ∧ date.year ≤ 9999) :
    ∃ t, ofEpochMillis? ms = some t ∧ t.seconds = ms / 1000 ∧
      t.nanos = (ms % 1000 * 1000000).toNat := by
  obtain ⟨hvalid, hnumber⟩ := Date.isDay_iff.1 hday
  have hmem := Date.dayNumber_mem hvalid hyear
  rw [hnumber] at hmem
  have hseconds : -8334601228800 ≤ ms / 1000 ∧ ms / 1000 ≤ 8210266876799 := by omega
  have hnanos : (ms % 1000 * 1000000).toNat < 2000000000 := by omega
  rw [ofEpochMillis?, ofParts?, dif_pos hseconds, dif_pos hnanos]
  exact ⟨_, rfl, rfl, rfl⟩

end RecordQuery.Instant

import RecordQuery.Proofs.Outcome
import RecordQuery.Proofs.Text.Digits
import RecordQuery.Proofs.Time.Calendar
import RecordQuery.Time.Rfc3339

/-!
# Timestamps are read back

* `readDigits_decimalPadded` and `readFraction_renderFraction`, which read the parts of a text;
* `readStrict_textWith` and `readStrict_text`, which read a valid date and time of day at any offset
  and in universal time;
* `Instant.asWritten`, the instant that the text of an instant names, and `asWritten_eq_self_iff`, by
  which it is another one exactly in the leap seconds that do not end a minute;
* `toInstant?_toLocal`, which puts the parts of an instant together again;
* `Instant.readStrict_render`, which reads the text of every instant in the years from 0 to 9999, and
  `Instant.readStrict_render_signed`, which shows that no other text of an instant can be read.
-/

namespace RecordQuery.Instant

open Text

theorem Local.timeIsValid_iff {l : Local} :
    l.timeIsValid = true ↔ l.hour < 24 ∧ l.minute < 60 ∧ l.second ≤ 60 := by
  simp [timeIsValid, and_assoc]

theorem readDigits_append {ds : List Char} (hds : ∀ c ∈ ds, c.isDigit = true) (rest : List Char) :
    readDigits ds.length (ds ++ rest) = .ok (ofDigits ds, rest) := by
  induction ds with
  | nil => rfl
  | cons d ds ih =>
    obtain ⟨hd, hds⟩ := List.forall_mem_cons.1 hds
    rw [List.length_cons, List.cons_append, readDigits, ofDigits_cons]
    simp only [digitValue?, if_pos hd, ih hds]
    rfl

theorem readDigits_decimalPadded {width n : Nat} (h : (decimal n).length ≤ width)
    (rest : List Char) : readDigits width (decimalPadded width n ++ rest) = .ok (n, rest) := by
  have hread := @readDigits_append (decimalPadded width n)
    (fun _ hc => isDigit_of_mem_decimalPadded hc) rest
  rwa [length_decimalPadded h, ofDigits_decimalPadded] at hread

/-! ### Fractions -/

/-- A fraction ends where no digit follows. -/
theorem readFraction_append {ds rest : List Char} (hds : ∀ c ∈ ds, c.isDigit = true) (hne : ds ≠ [])
    (hrest : ∀ c ∈ rest.head?, c.isDigit = false) :
    readFraction ('.' :: (ds ++ rest)) = .ok (fractionNanos ds, rest) := by
  have hend : rest.takeWhile Char.isDigit = [] ∧ rest.dropWhile Char.isDigit = rest := by
    cases rest with
    | nil => exact ⟨rfl, rfl⟩
    | cons c rest =>
      have hc : ¬c.isDigit = true := by simp [hrest c rfl]
      exact ⟨List.takeWhile_cons_of_neg hc, List.dropWhile_cons_of_neg hc⟩
  have htake : (ds ++ rest).takeWhile Char.isDigit = ds := by
    rw [List.takeWhile_append_of_pos hds, hend.1, List.append_nil]
  have hdrop : (ds ++ rest).dropWhile Char.isDigit = rest := by
    rw [List.dropWhile_append_of_pos hds, hend.2]
  rw [readFraction, htake, hdrop]
  simp [hne]

theorem fractionNanos_decimalPadded {width n : Nat} (hwidth : width ≤ 9)
    (h : (decimal n).length ≤ width) :
    fractionNanos (decimalPadded width n) = n * Nat.pow 10 (9 - width) := by
  have hlength := length_decimalPadded h
  rw [fractionNanos, List.take_of_length_le (by omega), ofDigits_append, ofDigits_decimalPadded,
    ofDigits_replicate_zero, List.length_replicate, hlength]
  rfl

theorem readFraction_decimalPadded {width n : Nat} (hpos : 0 < width) (hwidth : width ≤ 9)
    (h : n < Nat.pow 10 width) :
    readFraction ('.' :: decimalPadded width n ++ ['Z']) =
      .ok (n * Nat.pow 10 (9 - width), ['Z']) := by
  have hlength := length_decimal_le hpos h
  have hne : decimalPadded width n ≠ [] := by
    rw [← List.length_pos_iff, length_decimalPadded hlength]
    exact hpos
  rw [List.cons_append, readFraction_append (fun c hc => isDigit_of_mem_decimalPadded hc) hne
    (by simp), fractionNanos_decimalPadded hwidth hlength]

/-- The digits that are left out are zeros. -/
theorem readFraction_renderFraction {nanos : Nat} (h : nanos < 1000000000) :
    readFraction (renderFraction nanos ++ ['Z']) = .ok (nanos, ['Z']) := by
  unfold renderFraction
  split
  case isTrue hzero =>
    subst hzero
    rfl
  split
  case isTrue hmillis =>
    have hlt : nanos / 1000000 < 1000 := Nat.div_lt_of_lt_mul h
    rw [readFraction_decimalPadded (by omega) (by omega) hlt]
    show Except.ok (nanos / 1000000 * 1000000, _) = _
    rw [Nat.div_mul_cancel (Nat.dvd_of_mod_eq_zero hmillis)]
  split
  case isTrue hmicros =>
    have hlt : nanos / 1000 < 1000000 := Nat.div_lt_of_lt_mul h
    rw [readFraction_decimalPadded (by omega) (by omega) hlt]
    show Except.ok (nanos / 1000 * 1000, _) = _
    rw [Nat.div_mul_cancel (Nat.dvd_of_mod_eq_zero hmicros)]
  case isFalse =>
    rw [readFraction_decimalPadded (by omega) (by omega) h]
    show Except.ok (nanos * 1, _) = _
    rw [Nat.mul_one]

/-! ### Dates and times of day -/

/-- What is written behind the year: the other parts up to the second, and what follows. -/
def Local.textAfterYear (l : Local) (tail : List Char) : List Char :=
  '-' :: (decimalPadded 2 l.date.month ++ '-' :: (decimalPadded 2 l.date.day ++
    'T' :: (decimalPadded 2 l.hour ++ ':' :: (decimalPadded 2 l.minute ++
    ':' :: (decimalPadded 2 l.second ++ tail)))))

/-- A date and a time of day up to the second, and what follows. The sign of the year is left out. -/
def Local.textWith (l : Local) (tail : List Char) : List Char :=
  decimalPadded 4 l.date.year.natAbs ++ l.textAfterYear tail

/-- A date and a time of day as an instant is written, the sign of the year left out. -/
def Local.text (l : Local) : List Char :=
  l.textWith (renderFraction l.nanos ++ ['Z'])

theorem Local.le_utf8Length_textWith (l : Local) (tail : List Char) :
    19 ≤ utf8Length (l.textWith tail) := by
  have hle := length_le_utf8Length (l.textWith tail)
  have hyear := le_length_decimalPadded 4 l.date.year.natAbs
  have hpair := le_length_decimalPadded 2
  have hmonth := hpair l.date.month
  have hday := hpair l.date.day
  have hhour := hpair l.hour
  have hminute := hpair l.minute
  have hsecond := hpair l.second
  unfold textWith textAfterYear at hle ⊢
  simp only [List.length_append, List.length_cons] at hle
  omega

theorem Local.le_utf8Length_text (l : Local) : 19 ≤ utf8Length l.text :=
  l.le_utf8Length_textWith _

/-- A valid date and time of day are read from their text, with any fraction and any offset that can
be read. -/
theorem readStrict_textWith {l : Local} {tail rest : List Char} {offset : Int}
    (hyear : 0 ≤ l.date.year ∧ l.date.year ≤ 9999) (hdate : l.date.isValid = true)
    (htime : l.timeIsValid = true) (hfraction : readFraction tail = .ok (l.nanos, rest))
    (hoffset : readOffset (skipOneOf [':']) rest = .ok (offset, [])) :
    readStrict (l.textWith tail) = atOffset l offset := by
  have hyear' : (decimal l.date.year.natAbs).length ≤ 4 :=
    length_decimal_le (by omega) (show _ < 10000 by omega)
  have hpair : ∀ {n : Nat}, n < 100 → (decimal n).length ≤ 2 := length_decimal_le Nat.two_pos
  have hmonth := hpair (Nat.lt_of_le_of_lt (Date.month_le_of_isValid hdate) (by omega))
  have hday := hpair (Nat.lt_of_le_of_lt (Date.day_le_of_isValid hdate) (by omega))
  obtain ⟨hhour, hminute, hsecond⟩ := Local.timeIsValid_iff.1 htime
  replace hhour := hpair (by omega : l.hour < 100)
  replace hminute := hpair (by omega : l.minute < 100)
  replace hsecond := hpair (by omega : l.second < 100)
  have hlong : ¬utf8Length (l.textWith tail) < 19 := Nat.not_lt.2 (l.le_utf8Length_textWith tail)
  have hskip : ∀ {allowed : List Char} {c : Char} {rest : List Char}, c ∈ allowed →
    skipOneOf allowed (c :: rest) = .ok rest := fun hc => if_pos hc
  unfold readStrict
  rw [if_neg hlong, Local.textWith, Local.textAfterYear]
  simp only [readDigits_decimalPadded, hyear', hmonth, hday, hhour, hminute, hsecond, hskip,
    List.mem_cons, true_or, Outcome.ok_bind, Int.natAbs_of_nonneg hyear.1, hdate, htime, hfraction,
    hoffset]
  rfl

/-- A valid date and time of day are read from their text. -/
theorem readStrict_text {l : Local} (hyear : 0 ≤ l.date.year ∧ l.date.year ≤ 9999)
    (hdate : l.date.isValid = true) (htime : l.timeIsValid = true) (hnanos : l.nanos < 1000000000) :
    readStrict l.text = atOffset l 0 :=
  readStrict_textWith hyear hdate htime (readFraction_renderFraction hnanos) rfl

/-! ### Instants -/

theorem secondOfDay_lt (t : Instant) : t.secondOfDay < 86400 := by
  unfold secondOfDay
  omega

/-- The date and the time of day of an instant as they are written. -/
def toLocal (t : Instant) : Local where
  date := t.date
  hour := t.secondOfDay / 3600
  minute := t.secondOfDay / 60 % 60
  second := t.secondOfDay % 60 + t.nanos / 1000000000
  nanos := t.nanos % 1000000000

theorem toLocal_timeIsValid (t : Instant) : t.toLocal.timeIsValid = true := by
  have := t.secondOfDay_lt
  have := t.nanos_lt
  rw [Local.timeIsValid_iff]
  simp only [toLocal]
  omega

/-- The parts of a text, put together from the left or from the right. -/
theorem append_parts (year month day hour minute second fraction : List Char) :
    year ++ '-' :: month ++ '-' :: day ++ 'T' :: hour ++ ':' :: minute ++ ':' :: second ++
        fraction ++ ['Z'] =
      year ++ '-' :: (month ++ '-' :: (day ++ 'T' :: (hour ++ ':' :: (minute ++
        ':' :: (second ++ (fraction ++ ['Z'])))))) := by
  simp only [List.append_assoc, List.cons_append]

theorem render_eq (t : Instant) :
    t.render = renderYear t.date.year ++
      t.toLocal.textAfterYear (renderFraction t.toLocal.nanos ++ ['Z']) :=
  append_parts ..

theorem render_eq_text {t : Instant} (h : 0 ≤ t.date.year ∧ t.date.year ≤ 9999) :
    t.render = t.toLocal.text := by
  rw [render_eq, renderYear, if_pos h]
  rfl

/-- If the instant lies in a leap second, this ends a minute. -/
def LeapEndsMinute (t : Instant) : Prop :=
  1000000000 ≤ t.nanos → t.seconds % 60 = 59

instance (t : Instant) : Decidable t.LeapEndsMinute :=
  inferInstanceAs (Decidable (_ → _))

/-- The instant that the text of an instant names. A leap second that does not end a minute has no
text of its own: it is written as the second after it. -/
def asWritten (t : Instant) : Instant :=
  if h : 1000000000 ≤ t.nanos ∧ t.seconds % 60 ≠ 59 then
    ⟨t.seconds + 1, t.nanos - 1000000000, by have := t.seconds_mem; omega,
      Nat.lt_of_le_of_lt (Nat.sub_le ..) t.nanos_lt⟩
  else t

/-- An instant is another one as it is written exactly in a leap second that does not end a
minute. -/
theorem asWritten_eq_self_iff {t : Instant} : t.asWritten = t ↔ t.LeapEndsMinute := by
  constructor
  · intro heq hleap
    by_contra hsecond
    rw [asWritten, dif_pos ⟨hleap, hsecond⟩] at heq
    have hseconds : t.seconds + 1 = t.seconds := congrArg Instant.seconds heq
    omega
  · intro h
    exact dif_neg fun hleap => hleap.2 (h hleap.1)

/-- The parts of an instant make up the instant as it is written. Second 60 is split into second 59
and a thousand million nanoseconds, any other second is one of its own. -/
theorem toInstant?_toLocal (t : Instant) : t.toLocal.toInstant? 0 = some t.asWritten := by
  have hday : t.date.dayNumber = t.seconds / 86400 := Date.dayNumber_ofDayNumber _
  have hsecond : (t.secondOfDay : Int) = t.seconds % 86400 := by
    unfold secondOfDay
    omega
  have hnanos := t.nanos_lt
  have hparts : t.toLocal.toInstant? 0 = ofParts? t.asWritten.seconds t.asWritten.nanos := by
    unfold Local.toInstant? toLocal asWritten
    simp only [hday]
    split
    case isTrue hleap =>
      dsimp only
      exact congrArg₂ ofParts? (by omega) (by omega)
    case isFalse hleap => exact congrArg₂ ofParts? (by omega) (by omega)
  rw [hparts, ofParts?_self]

/-- The text of an instant in the years from 0 to 9999 is read as the instant that it names. -/
theorem readStrict_render {t : Instant} (h : 0 ≤ t.date.year ∧ t.date.year ≤ 9999) :
    readStrict t.render = .ok t.asWritten := by
  have hnanos : t.toLocal.nanos < 1000000000 := Nat.mod_lt _ (by omega)
  have hdate : t.toLocal.date.isValid = true := Date.isValid_ofDayNumber _
  rw [render_eq_text h, readStrict_text h hdate t.toLocal_timeIsValid hnanos, atOffset,
    if_neg (by decide), toInstant?_toLocal]

theorem render_eq_sign_cons {t : Instant} (h : ¬(0 ≤ t.date.year ∧ t.date.year ≤ 9999)) :
    t.render = (if t.date.year < 0 then '-' else '+') :: t.toLocal.text := by
  rw [render_eq, renderYear, if_neg h, List.cons_append]
  rfl

/-- A text that does not begin with a digit cannot be read. -/
theorem readStrict_cons_of_none {c : Char} {cs : List Char} (hc : digitValue? c = none)
    (hlong : 19 ≤ utf8Length (c :: cs)) : readStrict (c :: cs) = .error .invalid := by
  have hread : readDigits 4 (c :: cs) = .error .invalid := by
    simp only [readDigits, hc]
  rw [readStrict, if_neg (Nat.not_lt.2 hlong), hread]
  rfl

/-- The text of any other instant begins with a sign, where no digit is read. -/
theorem readStrict_render_signed {t : Instant} (h : ¬(0 ≤ t.date.year ∧ t.date.year ≤ 9999)) :
    readStrict t.render = .error .invalid := by
  have hsign : digitValue? (if t.date.year < 0 then '-' else '+') = none := by
    split <;> rfl
  have hlong := t.toLocal.le_utf8Length_text
  rw [render_eq_sign_cons h]
  refine readStrict_cons_of_none hsign ?_
  rw [utf8Length_cons]
  omega

/-- A leap second that ends a minute, in the middle of which an instant lies. -/
example : (⟨1483228799, 1500000000, by decide, by decide⟩ : Instant).render =
    "2016-12-31T23:59:60.500Z".toList := by
  decide

/-- A leap second after second 4, which is written as second 5. -/
example : (⟨1709283604, 1333333333, by decide, by decide⟩ : Instant).render =
    "2024-03-01T09:00:05.333333333Z".toList := by
  decide

end RecordQuery.Instant

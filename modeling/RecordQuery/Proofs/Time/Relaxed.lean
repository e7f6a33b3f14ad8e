import RecordQuery.Proofs.Time.Rfc3339
import RecordQuery.Time.Relaxed

/-!
# Timestamps are read back where records are read

What is lenient in the reading of records takes nothing away from the texts of instants.

* `readNumber_append` and `readPart_decimalPadded`, which read digits in front of anything else;
* `readYear_renderYear`, which reads a year with its sign;
* `Instant.readRelaxed_render`, which reads the text of every instant.
-/

namespace RecordQuery.Instant

open Text

/-- Nothing more of a number follows. -/
def EndsNumber (rest : List Char) : Prop :=
  ∀ c ∈ rest.head?, c.isDigit = false

theorem endsNumber_cons {c : Char} (hc : c.isDigit = false) (rest : List Char) :
    EndsNumber (c :: rest) := by
  rintro d ⟨⟩
  exact hc

theorem EndsNumber.takeWhile_take {rest : List Char} (h : EndsNumber rest) (n : Nat) :
    (rest.take n).takeWhile Char.isDigit = [] := by
  cases n with
  | zero => rfl
  | succ n =>
    cases rest with
    | nil => rfl
    | cons c rest => rw [List.take_succ_cons, List.takeWhile_cons, h c rfl, if_neg nofun]

/-- Digits are read up to where they end. -/
theorem readNumber_append {max : Nat} {ds rest : List Char} (hds : ∀ c ∈ ds, c.isDigit = true)
    (hne : ds ≠ []) (hmax : ds.length ≤ max) (hvalue : ofDigits ds ≤ 9223372036854775807)
    (hrest : EndsNumber rest) : readNumber max (ds ++ rest) = .ok (ofDigits ds, rest) := by
  have htake : ((ds ++ rest).take max).takeWhile Char.isDigit = ds := by
    rw [List.take_append, List.take_of_length_le hmax, List.takeWhile_append_of_pos hds,
      hrest.takeWhile_take, List.append_nil]
  have hlimit : ¬Int64.maxValue.toInt < (ofDigits ds : Int) := by
    show ¬(9223372036854775807 : Int) < _
    omega
  unfold readNumber
  simp only [htake, hlimit, List.drop_left]
  simp [hne]

theorem not_isBlank_of_isDigit {c : Char} (h : c.isDigit = true) : isBlank c = false := by
  have hbounds : 48 ≤ c.toNat ∧ c.toNat ≤ 57 := by
    simpa [Char.isDigit, UInt32.le_iff_toNat_le] using h
  simp only [isBlank, Bool.or_eq_false_iff, Bool.and_eq_false_iff, decide_eq_false_iff_not,
    beq_eq_false_iff_ne]
  omega

/-- No blanks are dropped in front of a digit. -/
theorem dropBlanks_append {ds : List Char} (hds : ∀ c ∈ ds, c.isDigit = true) (hne : ds ≠ [])
    (rest : List Char) : dropBlanks (ds ++ rest) = ds ++ rest := by
  obtain ⟨d, ds, rfl⟩ := List.exists_cons_of_ne_nil hne
  have hd : isBlank d = false := not_isBlank_of_isDigit (hds d List.mem_cons_self)
  rw [List.cons_append, dropBlanks, List.dropWhile_cons, hd, if_neg nofun]

theorem decimalPadded_ne_nil {width n : Nat} (h : 0 < width) : decimalPadded width n ≠ [] := by
  have hle := le_length_decimalPadded width n
  rw [← List.length_pos_iff]
  omega

theorem readNumber_decimalPadded {max width n : Nat} (hwidth : 0 < width)
    (hmax : (decimalPadded width n).length ≤ max) (hn : n ≤ 9223372036854775807)
    {rest : List Char} (hrest : EndsNumber rest) :
    readNumber max (decimalPadded width n ++ rest) = .ok (n, rest) := by
  have hread := readNumber_append (fun c hc => isDigit_of_mem_decimalPadded hc)
    (decimalPadded_ne_nil hwidth) hmax (by rwa [ofDigits_decimalPadded]) hrest
  rwa [ofDigits_decimalPadded] at hread

/-- A part of two digits is read if it is within its bounds. -/
theorem readPart_decimalPadded {low high n : Nat} (hlow : low ≤ n) (hhigh : n ≤ high)
    (hn : n < 100) {rest : List Char} (hrest : EndsNumber rest) :
    readPart low high (decimalPadded 2 n ++ rest) = .ok (n, rest) := by
  have hlength : (decimalPadded 2 n).length = 2 :=
    length_decimalPadded (length_decimal_le Nat.two_pos hn)
  have hread := readNumber_decimalPadded Nat.two_pos (Nat.le_of_eq hlength) (by omega) hrest
  have hbounds : (decide (n < low) || decide (high < n)) = false := by simp [hlow, hhigh]
  rw [readPart, dropBlanks_append (fun c hc => isDigit_of_mem_decimalPadded hc)
    (decimalPadded_ne_nil Nat.two_pos), hread]
  simp only [Outcome.ok_bind, hbounds]
  rfl

/-- Digits begin with no other character. -/
theorem decimalPadded_append_ne_cons {width n : Nat} (h : 0 < width) {c : Char}
    (hc : c.isDigit = false) {rest cs : List Char} : decimalPadded width n ++ rest ≠ c :: cs := by
  obtain ⟨d, ds, hcons⟩ := List.exists_cons_of_ne_nil (decimalPadded_ne_nil (n := n) h)
  have hd : d.isDigit = true :=
    isDigit_of_mem_decimalPadded (hcons ▸ List.mem_cons_self : d ∈ decimalPadded width n)
  rw [hcons]
  rintro ⟨⟩
  rw [hc] at hd
  cases hd

/-- A year is read with its sign, if it has one. -/
theorem readYear_renderYear {year : Int} (hmin : -2147483648 ≤ year) (hmax : year < 2147483648)
    {rest : List Char} (hrest : EndsNumber rest) :
    readYear (renderYear year ++ rest) = .ok (year, rest) := by
  have hfits : (Int32.ofInt year).toInt = year := Int32.toInt_ofInt_of_le hmin hmax
  have hsigned : readNumber (decimalPadded 4 year.natAbs ++ rest).length
      (decimalPadded 4 year.natAbs ++ rest) = .ok (year.natAbs, rest) :=
    readNumber_decimalPadded (by omega) (by rw [List.length_append]; omega) (by omega) hrest
  unfold readYear
  by_cases hplain : 0 ≤ year ∧ year ≤ 9999
  · have hlength : (decimalPadded 4 year.natAbs).length = 4 :=
      length_decimalPadded (length_decimal_le (by omega) (show _ < 10000 by omega))
    have hread := readNumber_decimalPadded (by omega) (Nat.le_of_eq hlength)
      (by omega : year.natAbs ≤ 9223372036854775807) hrest
    rw [renderYear, if_pos hplain, dropBlanks_append
      (fun c hc => isDigit_of_mem_decimalPadded hc) (decimalPadded_ne_nil (by omega))]
    split
    case h_1 heq => exact absurd heq (decimalPadded_append_ne_cons (by omega) rfl)
    case h_2 heq => exact absurd heq (decimalPadded_append_ne_cons (by omega) rfl)
    case h_3 =>
      have hvalue : (year.natAbs : Int) = year := Int.natAbs_of_nonneg hplain.1
      simp only [hread, Outcome.ok_bind, pure, Except.pure, hvalue, hfits, ne_eq,
        not_true_eq_false, if_false]
  rw [renderYear, if_neg hplain, List.cons_append]
  by_cases hneg : year < 0
  · have hvalue : -(year.natAbs : Int) = year := by omega
    rw [if_pos hneg, show dropBlanks ('-' :: (decimalPadded 4 year.natAbs ++ rest)) =
      '-' :: (decimalPadded 4 year.natAbs ++ rest) from rfl]
    simp only [hsigned, Outcome.ok_bind, pure, Except.pure, hvalue, hfits, ne_eq,
      not_true_eq_false, if_false]
  · have hvalue : (year.natAbs : Int) = year := by omega
    rw [if_neg hneg, show dropBlanks ('+' :: (decimalPadded 4 year.natAbs ++ rest)) =
      '+' :: (decimalPadded 4 year.natAbs ++ rest) from rfl]
    simp only [hsigned, Outcome.ok_bind, pure, Except.pure, hvalue, hfits, ne_eq,
      not_true_eq_false, if_false]

/-- A date and a time of day as an instant is written, the sign of the year included. -/
def Local.signedText (l : Local) : List Char :=
  renderYear l.date.year ++ l.textAfterYear (renderFraction l.nanos ++ ['Z'])

/-- After the seconds comes a point or the letter of universal time. -/
theorem endsNumber_renderFraction (nanos : Nat) : EndsNumber (renderFraction nanos ++ ['Z']) := by
  unfold renderFraction
  split
  · exact endsNumber_cons rfl _
  split
  · exact endsNumber_cons rfl _
  split
  · exact endsNumber_cons rfl _
  · exact endsNumber_cons rfl _

/-- A valid date and time of day are read from their text. -/
theorem readRelaxed_signedText {l : Local} (hmin : -2147483648 ≤ l.date.year)
    (hmax : l.date.year < 2147483648) (hdate : l.date.isValid = true)
    (htime : l.timeIsValid = true) (hnanos : l.nanos < 1000000000) :
    readRelaxed l.signedText = atOffset l 0 := by
  obtain ⟨hmonth, hday, -⟩ := Date.isValid_iff.1 hdate
  have hmonth' := Date.month_le_of_isValid hdate
  have hday' := Date.day_le_of_isValid hdate
  obtain ⟨hhour, hminute, hsecond⟩ := Local.timeIsValid_iff.1 htime
  have hends : ∀ {c : Char} {rest : List Char}, c.isDigit = false → EndsNumber (c :: rest) :=
    fun hc => endsNumber_cons hc _
  have hskip : ∀ {allowed : List Char} {c : Char} {rest : List Char}, c ∈ allowed →
    skipOneOf allowed (c :: rest) = .ok rest := fun hc => if_pos hc
  have hdash : ∀ rest, dropBlanks ('-' :: rest) = '-' :: rest := fun _ => rfl
  have hcolon : ∀ rest, dropBlanks (':' :: rest) = ':' :: rest := fun _ => rfl
  unfold readRelaxed Local.signedText Local.textAfterYear
  rw [readYear_renderYear hmin hmax (hends rfl)]
  simp only [Outcome.ok_bind, hdash, hskip List.mem_cons_self]
  rw [readPart_decimalPadded hmonth hmonth' (by omega) (hends rfl)]
  simp only [Outcome.ok_bind, hdash, hskip List.mem_cons_self]
  rw [readPart_decimalPadded hday hday' (by omega) (hends rfl)]
  simp only [Outcome.ok_bind, hskip List.mem_cons_self]
  rw [readPart_decimalPadded (Nat.zero_le _) (Nat.le_of_lt_succ hhour) (by omega) (hends rfl)]
  simp only [Outcome.ok_bind, hcolon, hskip List.mem_cons_self]
  rw [readPart_decimalPadded (Nat.zero_le _) (Nat.le_of_lt_succ hminute) (by omega) (hends rfl)]
  simp only [Outcome.ok_bind, hcolon, hskip List.mem_cons_self]
  rw [readPart_decimalPadded (Nat.zero_le _) hsecond (by omega) (endsNumber_renderFraction _)]
  simp only [Outcome.ok_bind, readFraction_renderFraction hnanos]
  rw [show readRelaxedOffset (dropBlanks ['Z']) = .ok (0, []) from rfl]
  simp only [Outcome.ok_bind, hdate]
  rfl

/-- The years of instants fit 32 bits. -/
theorem year_mem (t : Instant) : -2147483648 ≤ t.date.year ∧ t.date.year < 2147483648 := by
  obtain ⟨year, day, hdate, hday, hnumber⟩ := Date.exists_ofDayNumber (t.seconds / 86400)
  have hseconds := t.seconds_mem
  rw [sum_monthLengths] at hday
  have hday' : day < 366 := by
    split at hday <;> omega
  have hyear : t.date.year = year := congrArg Date.year hdate
  simp only [daysBeforeYear, Date.epoch] at hnumber
  omega

/-- The text of every instant is read as the instant that it names. -/
theorem readRelaxed_render (t : Instant) : readRelaxed t.render = .ok t.asWritten := by
  obtain ⟨hmin, hmax⟩ := t.year_mem
  have htext : t.render = t.toLocal.signedText := t.render_eq
  have hdate : t.toLocal.date.isValid = true := Date.isValid_ofDayNumber _
  have hnanos : t.toLocal.nanos < 1000000000 := Nat.mod_lt _ (by omega)
  rw [htext, readRelaxed_signedText hmin hmax hdate t.toLocal_timeIsValid hnanos, atOffset,
    if_neg (by decide), toInstant?_toLocal]

end RecordQuery.Instant

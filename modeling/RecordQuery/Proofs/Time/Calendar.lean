import Mathlib.Algebra.GroupWithZero.Nat
import RecordQuery.Time.Calendar

/-!
# Dates and day numbers

* `exists_monthAndDay`, where a day of the year stands among the months;
* `Date.exists_ofDayNumber`, the year of a day number and the day within that year;
* `Date.isValid_ofDayNumber` and `Date.dayNumber_ofDayNumber`, which show that every day number has a
  valid date, whose day number it is;
* `Date.month_le_of_isValid` and `Date.day_le_of_isValid`, the bounds of valid dates.
-/

namespace RecordQuery

theorem foldl_add (ls : List Nat) (n : Nat) : ls.foldl (· + ·) n = n + ls.sum :=
  List.foldl_eq_apply_foldr

theorem sum_monthLengths (leap : Bool) : (monthLengths leap).sum = if leap then 366 else 365 := by
  cases leap <;> rfl

theorem le_of_mem_monthLengths {leap : Bool} {l : Nat} (h : l ∈ monthLengths leap) : l ≤ 31 := by
  revert l
  cases leap <;> decide

/-- A day of the year lies in a month and, with the months before it, gives the day. -/
theorem exists_monthAndDay {ls : List Nat} {d : Nat} (h : d < ls.sum) :
    ∃ m k, monthAndDay ls d = (m + 1, k + 1) ∧ k < ls.getD m 0 ∧ (ls.take m).sum + k = d := by
  induction ls generalizing d with
  | nil => exact absurd h (Nat.not_lt_zero d)
  | cons l ls ih =>
    rw [List.sum_cons] at h
    rw [monthAndDay]
    split
    case isTrue hd => exact ⟨0, d, rfl, hd, Nat.zero_add d⟩
    case isFalse hd =>
      obtain ⟨m, k, hmk, hk, hsum⟩ := ih (d := d - l) (by omega)
      refine ⟨m + 1, k, by rw [hmk], hk, ?_⟩
      rw [List.take_succ_cons, List.sum_cons]
      omega

section Spans

variable {era : Int} {century four single : Nat}

/-- A year after so many spans of 400, 100, 4 and 1 years is a leap year if it is the last of four,
but of those that end a century only the last. -/
theorem isLeapYear_ofSpans_iff (hcentury : century ≤ 3) (hfour : four ≤ 24) (hsingle : single ≤ 3) :
    isLeapYear (era * 400 + (century * 100 + four * 4 + single : Nat) + 1) = true ↔
      single = 3 ∧ (four = 24 → century = 3) := by
  generalize hyear : era * 400 + (century * 100 + four * 4 + single : Nat) + 1 = year
  have h4 : year % 4 = 0 ↔ single = 3 := by omega
  have h100 : year % 100 = 0 ↔ single = 3 ∧ four = 24 := by omega
  have h400 : year % 400 = 0 ↔ single = 3 ∧ four = 24 ∧ century = 3 := by omega
  clear hyear
  simp only [isLeapYear, Bool.and_eq_true, Bool.or_eq_true, beq_iff_eq, bne_iff_ne, ne_eq, h4, h100,
    h400]
  omega

theorem daysBeforeYear_ofSpans (hcentury : century ≤ 3) (hfour : four ≤ 24) (hsingle : single ≤ 3) :
    daysBeforeYear (era * 400 + (century * 100 + four * 4 + single : Nat) + 1) =
      era * 146097 + (century * 36524 + four * 1461 + single * 365 : Nat) := by
  simp only [daysBeforeYear]
  omega

end Spans

namespace Date

/-- The year of a day number and the day within that year. -/
theorem exists_ofDayNumber (n : Int) : ∃ (year : Int) (day : Nat),
    ofDayNumber n = ⟨year, (monthAndDay (monthLengths (isLeapYear year)) day).1,
      (monthAndDay (monthLengths (isLeapYear year)) day).2⟩ ∧
    day < (monthLengths (isLeapYear year)).sum ∧ daysBeforeYear year + day = n + epoch := by
  refine ⟨_, _, rfl, ?_⟩
  -- The spans are cut off one after the other. Only the last century of 400 years and the last year
  -- of four have a day more than the others.
  generalize hera : (n + epoch) / 146097 = era
  generalize hinEra : ((n + epoch) % 146097).toNat = inEra
  obtain ⟨hn, hlt⟩ : n + epoch = era * 146097 + inEra ∧ inEra < 146097 := by omega
  clear hera hinEra
  generalize hcentury' : min (inEra / 36524) 3 = century
  generalize hinCentury' : inEra - century * 36524 = inCentury
  obtain ⟨hinEra, hcentury, hle, hlast⟩ : inEra = century * 36524 + inCentury ∧ century ≤ 3 ∧
      inCentury ≤ 36524 ∧ (inCentury = 36524 → century = 3) := by omega
  clear hcentury' hinCentury'
  generalize hfour' : inCentury / 1461 = four
  generalize hinFour' : inCentury % 1461 = inFour
  obtain ⟨hinCentury, hfour, hlt'⟩ : inCentury = four * 1461 + inFour ∧ four ≤ 24 ∧
      inFour < 1461 := by omega
  clear hfour' hinFour'
  generalize hsingle' : min (inFour / 365) 3 = single
  generalize hday' : inFour - single * 365 = day
  obtain ⟨hinFour, hsingle, hle', hlast'⟩ : inFour = single * 365 + day ∧ single ≤ 3 ∧
      day ≤ 365 ∧ (day = 365 → single = 3) := by omega
  clear hsingle' hday'
  rw [daysBeforeYear_ofSpans hcentury hfour hsingle, sum_monthLengths]
  refine ⟨?_, by omega⟩
  split
  case isTrue => omega
  case isFalse h =>
    rw [isLeapYear_ofSpans_iff hcentury hfour hsingle] at h
    omega

theorem isValid_iff {d : Date} : d.isValid = true ↔
    1 ≤ d.month ∧ 1 ≤ d.day ∧ d.day ≤ (monthLengths (isLeapYear d.year)).getD (d.month - 1) 0 := by
  simp [isValid, and_assoc]

/-- Every day number has a valid date. -/
theorem isValid_ofDayNumber (n : Int) : (ofDayNumber n).isValid = true := by
  obtain ⟨year, day, hdate, hday, -⟩ := exists_ofDayNumber n
  obtain ⟨m, k, hmk, hk, -⟩ := exists_monthAndDay hday
  rw [hdate, hmk]
  exact isValid_iff.2 ⟨Nat.le_add_left .., Nat.le_add_left .., hk⟩

/-- The date of a day number has that number. -/
theorem dayNumber_ofDayNumber (n : Int) : (ofDayNumber n).dayNumber = n := by
  obtain ⟨year, day, hdate, hday, hn⟩ := exists_ofDayNumber n
  obtain ⟨m, k, hmk, -, hsum⟩ := exists_monthAndDay hday
  rw [hdate, hmk]
  simp only [dayNumber, dayOfYear, foldl_add, Nat.add_sub_cancel]
  omega

example : Date.ofDayNumber 19782 = ⟨2024, 2, 29⟩ := by decide

/-- A valid date has a month of its year. -/
theorem exists_getElem?_of_isValid {d : Date} (h : d.isValid = true) :
    ∃ l, (monthLengths (isLeapYear d.year))[d.month - 1]? = some l ∧ d.day ≤ l := by
  obtain ⟨-, hday, hle⟩ := isValid_iff.1 h
  rw [List.getD_eq_getElem?_getD] at hle
  cases hl : (monthLengths (isLeapYear d.year))[d.month - 1]? with
  | none =>
    rw [hl] at hle
    exact absurd (Nat.le_trans hday hle) (Nat.not_succ_le_zero 0)
  | some l =>
    rw [hl] at hle
    exact ⟨l, rfl, hle⟩

theorem month_le_of_isValid {d : Date} (h : d.isValid = true) : d.month ≤ 12 := by
  obtain ⟨l, hl, -⟩ := exists_getElem?_of_isValid h
  have hlt : d.month - 1 < 12 := (List.getElem?_eq_some_iff.1 hl).1
  omega

theorem day_le_of_isValid {d : Date} (h : d.isValid = true) : d.day ≤ 31 := by
  obtain ⟨l, hl, hle⟩ := exists_getElem?_of_isValid h
  exact Nat.le_trans hle (le_of_mem_monthLengths (List.mem_of_getElem? hl))

end Date

end RecordQuery

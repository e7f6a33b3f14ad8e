import Mathlib.Data.Int.Init
import RecordQuery.Proofs.Time.Calendar

/-!
# Dates counted day by day

Dates and day numbers are told from each other by arithmetic on years. To count the days one by one,
month after month and year after year, gives the same.

* `Date.next`, the day after a date, and `Date.IsDay`, the dates counted from 1970-01-01 in both
  directions;
* `Date.isValid_next` and `Date.dayNumber_next`, what one step keeps and what it adds;
* `Date.monthAndDay_dayOfYear` and `Date.ofDayNumber_dayNumber`, which show that no two valid dates
  share a day number;
* `Date.isDay_iff`, which shows that the count is the day number.
-/

namespace RecordQuery

/-! ### Months and years -/

theorem one_le_getD_monthLengths {leap : Bool} {m : Nat} (h : m < 12) :
    1 ≤ (monthLengths leap).getD m 0 := by
  revert m
  cases leap <;> decide

/-- A day of a month, together with the months before it, gives a day of the year from which the
month and the day are told. -/
theorem monthAndDay_sum_take {ls : List Nat} {m k : Nat} (h : k < ls.getD m 0) :
    (ls.take m).sum + k < ls.sum ∧ monthAndDay ls ((ls.take m).sum + k) = (m + 1, k + 1) := by
  induction ls generalizing m with
  | nil => exact absurd h (Nat.not_lt_zero k)
  | cons l ls ih =>
    rw [List.sum_cons, monthAndDay]
    cases m with
    | zero =>
      have hk : k < l := h
      rw [List.take_zero, List.sum_nil, Nat.zero_add, if_pos hk]
      exact ⟨by omega, rfl⟩
    | succ m =>
      obtain ⟨hlt, hmonth⟩ := ih (m := m) h
      have hrest : (ls.take m).sum + k = l + (ls.take m).sum + k - l := by omega
      rw [List.take_succ_cons, List.sum_cons, if_neg (by omega), ← hrest, hmonth]
      exact ⟨by omega, rfl⟩

/-- A year has the days of its months. -/
theorem daysBeforeYear_succ (year : Int) :
    daysBeforeYear (year + 1) = daysBeforeYear year + (monthLengths (isLeapYear year)).sum := by
  rw [sum_monthLengths]
  have hleap : isLeapYear year = true ↔ year % 4 = 0 ∧ (year % 100 ≠ 0 ∨ year % 400 = 0) := by
    simp [isLeapYear]
  simp only [daysBeforeYear, hleap]
  split <;> omega

theorem daysBeforeYear_mono {year later : Int} (h : year ≤ later) :
    daysBeforeYear year ≤ daysBeforeYear later := by
  simp only [daysBeforeYear]
  omega

/-- No day lies in two years. -/
theorem year_eq_of_daysBeforeYear {year later : Int} {day day' : Nat}
    (hday : day < (monthLengths (isLeapYear year)).sum)
    (hday' : day' < (monthLengths (isLeapYear later)).sum)
    (h : daysBeforeYear year + day = daysBeforeYear later + day') : year = later := by
  have hyear := daysBeforeYear_succ year
  have hlater := daysBeforeYear_succ later
  rcases Int.lt_trichotomy year later with hlt | heq | hgt
  · have := daysBeforeYear_mono (Int.add_one_le_of_lt hlt)
    omega
  · exact heq
  · have := daysBeforeYear_mono (Int.add_one_le_of_lt hgt)
    omega

namespace Date

variable {d : Date} {n : Int}

theorem dayOfYear_eq (d : Date) :
    d.dayOfYear = ((monthLengths (isLeapYear d.year)).take (d.month - 1)).sum + (d.day - 1) := by
  rw [dayOfYear, foldl_add, Nat.add_comm]

/-- A valid date is told from its year and its day within the year. -/
theorem monthAndDay_dayOfYear (h : d.isValid = true) :
    d.dayOfYear < (monthLengths (isLeapYear d.year)).sum ∧
      monthAndDay (monthLengths (isLeapYear d.year)) d.dayOfYear = (d.month, d.day) := by
  obtain ⟨hmonth, hday, hle⟩ := isValid_iff.1 h
  have hk : d.day - 1 < (monthLengths (isLeapYear d.year)).getD (d.month - 1) 0 := by omega
  have hparts := monthAndDay_sum_take hk
  rwa [← dayOfYear_eq, Nat.sub_add_cancel hmonth, Nat.sub_add_cancel hday] at hparts

/-- The dates of the years from 0 to 9999. -/
theorem dayNumber_mem (h : d.isValid = true) (hyear : 0 ≤ d.year ∧ d.year ≤ 9999) :
    -719528 ≤ d.dayNumber ∧ d.dayNumber ≤ 2932896 := by
  have hlt := (monthAndDay_dayOfYear h).1
  have hfirst : -366 ≤ daysBeforeYear d.year := daysBeforeYear_mono hyear.1
  have hlast : daysBeforeYear (d.year + 1) ≤ 3652059 :=
    daysBeforeYear_mono (show d.year + 1 ≤ 10000 by omega)
  rw [daysBeforeYear_succ] at hlast
  simp only [dayNumber, epoch]
  omega

/-- No two valid dates share a day number. -/
theorem ofDayNumber_dayNumber (h : d.isValid = true) : ofDayNumber d.dayNumber = d := by
  obtain ⟨hlt, hparts⟩ := monthAndDay_dayOfYear h
  obtain ⟨year, day, hdate, hlt', hnumber⟩ := exists_ofDayNumber d.dayNumber
  have hyear : year = d.year := by
    refine year_eq_of_daysBeforeYear hlt' hlt ?_
    simp only [dayNumber] at hnumber
    omega
  subst hyear
  have hday : day = d.dayOfYear := by
    simp only [dayNumber] at hnumber
    omega
  rw [hdate, hday, hparts]

/-! ### One day after the other -/

/-- The last day of the month of a date. -/
def lastDay (d : Date) : Nat :=
  (monthLengths (isLeapYear d.year)).getD (d.month - 1) 0

/-- The day after a date: the next day of the month, the first of the next month or the first of the
next year. -/
def next (d : Date) : Date :=
  if d.day < d.lastDay then ⟨d.year, d.month, d.day + 1⟩
  else if d.month < 12 then ⟨d.year, d.month + 1, 1⟩
  else ⟨d.year + 1, 1, 1⟩

/-- The date is reached when days are counted from 1970-01-01, which is day 0, forwards or
backwards. -/
inductive IsDay : Int → Date → Prop
  | epoch : IsDay 0 ⟨1970, 1, 1⟩
  | next {n : Int} {d : Date} (h : IsDay n d) : IsDay (n + 1) d.next
  | previous {n : Int} {d : Date} (hvalid : d.isValid = true) (h : IsDay (n + 1) d.next) : IsDay n d

theorem isValid_next (h : d.isValid = true) : d.next.isValid = true := by
  obtain ⟨hmonth, hday, -⟩ := isValid_iff.1 h
  unfold next
  split
  case isTrue hlt => exact isValid_iff.2 ⟨hmonth, Nat.le_add_left .., hlt⟩
  split
  case isTrue hlt =>
    exact isValid_iff.2 ⟨Nat.le_add_left .., Nat.le_refl 1, one_le_getD_monthLengths hlt⟩
  case isFalse =>
    exact isValid_iff.2 ⟨Nat.le_refl 1, Nat.le_refl 1, one_le_getD_monthLengths (m := 0) (by omega)⟩

/-- The last day of a month is the last before the months that follow. -/
theorem dayOfYear_of_lastDay (h : d.isValid = true) (hlast : ¬d.day < d.lastDay) :
    d.dayOfYear + 1 = ((monthLengths (isLeapYear d.year)).take d.month).sum := by
  obtain ⟨hmonth, hday, hle⟩ := isValid_iff.1 h
  obtain ⟨l, hl, -⟩ := exists_getElem?_of_isValid h
  have hlength : d.lastDay = l := by
    rw [lastDay, List.getD_eq_getElem?_getD, hl]
    rfl
  have htake := @List.take_add_one _ (monthLengths (isLeapYear d.year)) (d.month - 1)
  rw [Nat.sub_add_cancel hmonth, hl] at htake
  rw [dayOfYear_eq, htake, List.sum_append]
  show _ = _ + (l + 0)
  change d.day ≤ d.lastDay at hle
  omega

/-- The day after a date has the next number. -/
theorem dayNumber_next (h : d.isValid = true) : d.next.dayNumber = d.dayNumber + 1 := by
  obtain ⟨-, hday, -⟩ := isValid_iff.1 h
  have hmonth := month_le_of_isValid h
  unfold next
  split
  case isTrue =>
    simp only [dayNumber, dayOfYear_eq]
    omega
  case isFalse hlast =>
    have hdays := dayOfYear_of_lastDay h hlast
    split
    case isTrue =>
      simp only [dayNumber, dayOfYear_eq ⟨d.year, d.month + 1, 1⟩, Nat.add_sub_cancel]
      omega
    case isFalse hdecember =>
      -- The twelfth month is the last of the year.
      rw [List.take_of_length_le (show 12 ≤ d.month by omega)] at hdays
      have hyear := daysBeforeYear_succ d.year
      simp only [dayNumber, dayOfYear_eq ⟨d.year + 1, 1, 1⟩]
      show daysBeforeYear (d.year + 1) + (0 : Nat) - epoch = _
      omega

theorem ofDayNumber_succ (n : Int) : ofDayNumber (n + 1) = (ofDayNumber n).next := by
  have hvalid := isValid_ofDayNumber n
  rw [← ofDayNumber_dayNumber (isValid_next hvalid), dayNumber_next hvalid,
    dayNumber_ofDayNumber]

theorem isDay_ofDayNumber (n : Int) : IsDay n (ofDayNumber n) := by
  induction n using Int.induction_on with
  | zero => exact .epoch
  | succ k ih =>
    rw [ofDayNumber_succ]
    exact ih.next
  | pred k ih =>
    refine .previous (isValid_ofDayNumber _) ?_
    rw [← ofDayNumber_succ, Int.sub_add_cancel]
    exact ih

/-- The date that is reached by counting is the valid date with the day number. -/
theorem isDay_iff : IsDay n d ↔ d.isValid = true ∧ d.dayNumber = n := by
  constructor
  · intro h
    induction h with
    | epoch => decide
    | next _ ih => exact ⟨isValid_next ih.1, by rw [dayNumber_next ih.1, ih.2]⟩
    | previous hvalid _ ih =>
      have hnext := ih.2
      rw [dayNumber_next hvalid] at hnext
      exact ⟨hvalid, by omega⟩
  · rintro ⟨hvalid, rfl⟩
    have h := isDay_ofDayNumber d.dayNumber
    rwa [ofDayNumber_dayNumber hvalid] at h

end Date

end RecordQuery

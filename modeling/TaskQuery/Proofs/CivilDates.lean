/-
# The month and the day of a date

A date is kept as the number of a day, and a table names its month and the day in it. Both are
won back from the number alone: first the day in its year, by what is left after cycles of four
hundred, a hundred, four years and one, and from it the month. Years count from March, so the
leap day is the last of its year. It is what a cycle of a hundred years has too few of, and one
of four hundred years does not, and so the two places at which a cycle is counted three times
at most.
-/

import Mathlib.Tactic.IntervalCases
import TaskQuery.Proofs.DateScans
import TaskQuery.Report.Cell

namespace TaskQuery

open Text

/-! ## Cycles of years -/

/-- A year is told by the cycles in front of it. -/
theorem exists_cycles (year : Int) :
    ∃ (era : Int) (century fourth single : Nat), century ≤ 3 ∧ fourth ≤ 24 ∧ single ≤ 3 ∧
      year = 400 * era + 100 * century + 4 * fourth + single := by
  refine ⟨year / 400, (year % 400 / 100).toNat, (year % 100 / 4).toNat, (year % 4).toNat, ?_⟩
  omega

variable {era : Int} {century fourth single : Nat}

/-- The days in front of a year are those of its cycles. -/
theorem daysBeforeYear_cycles (centuries : century ≤ 3) (fourths : fourth ≤ 24)
    (singles : single ≤ 3) :
    daysBeforeYear (400 * era + 100 * century + 4 * fourth + single) =
      146097 * era + 36524 * century + 1461 * fourth + 365 * single := by
  rw [daysBeforeYear]
  omega

/-- The year after the last one of a cycle of four is a leap year, except at the end of the
first three cycles of a hundred. -/
theorem isLeapYear_cycles_iff (centuries : century ≤ 3) (fourths : fourth ≤ 24)
    (singles : single ≤ 3) :
    isLeapYear (400 * era + 100 * century + 4 * fourth + single + 1) = true ↔
      single = 3 ∧ (fourth = 24 → century = 3) := by
  simp only [isLeapYear, Bool.and_eq_true, Bool.or_eq_true, beq_iff_eq, bne_iff_ne]
  omega

/-! ## The day of a year and the month -/

/-- The day in its year is found again from the number of a date. -/
theorem Date.dayOfMarchYear_eq {date : Date} (year : Int) {day : Nat} (inYear : day ≤ 365)
    (leapDay : day = 365 → isLeapYear (year + 1) = true)
    (isDay : date.number = daysBeforeYear year + day) : date.dayOfMarchYear = day := by
  obtain ⟨era, century, fourth, single, centuries, fourths, singles, rfl⟩ := exists_cycles year
  rw [daysBeforeYear_cycles centuries fourths singles] at isDay
  rw [isLeapYear_cycles_iff centuries fourths singles] at leapDay
  have inEra : (date.number % 146097).toNat =
      36524 * century + 1461 * fourth + 365 * single + day := by
    omega
  have century_eq :
      min ((36524 * century + 1461 * fourth + 365 * single + day) / 36524) 3 = century := by
    omega
  have inFourth : (36524 * century + 1461 * fourth + 365 * single + day - 36524 * century) % 1461 =
      365 * single + day := by
    omega
  have single_eq : min ((365 * single + day) / 365) 3 = single := by
    omega
  simp only [dayOfMarchYear, inEra, century_eq, inFourth, single_eq]
  omega

/-- A month that counts from January, counted from March. -/
def marchMonth (month : Nat) : Nat :=
  (month + 9) % 12

/-- No month is longer than the days up to the start of the next one. -/
theorem monthLength_le (year : Int) {month : Nat} (first : 1 ≤ month) (last : month ≤ 12) :
    daysBeforeMonth (marchMonth month) + monthLength year month ≤
      daysBeforeMonth (marchMonth month + 1) := by
  rw [monthLength]
  interval_cases month <;> simp [marchMonth, daysBeforeMonth]
  split <;> decide

/-- The month is found again from the day in the year. -/
theorem marchMonth_of_day {month day : Nat} (fromStart : daysBeforeMonth month ≤ day)
    (beforeNext : day < daysBeforeMonth (month + 1)) : (5 * day + 2) / 153 = month := by
  rw [daysBeforeMonth] at fromStart beforeNext
  omega

/-- A year that counts from March has no more than 366 days, and the 366th is a leap day. -/
theorem dayOfYear_le {year : Int} {month day : Nat} (first : 1 ≤ month) (last : month ≤ 12)
    (atMost : day ≤ monthLength year month) :
    daysBeforeMonth (marchMonth month) + day ≤ 366 ∧
      (daysBeforeMonth (marchMonth month) + day = 366 → month = 2 ∧ isLeapYear year = true) := by
  by_cases isFebruary : month = 2
  · subst isFebruary
    have before : daysBeforeMonth (marchMonth 2) = 337 := by decide
    by_cases isLeap : isLeapYear year = true <;> simp [monthLength, isLeap] at atMost ⊢ <;> omega
  · have earlier : marchMonth month ≤ 10 := by
      rw [marchMonth]
      omega
    have length := monthLength_le year first last
    simp only [daysBeforeMonth] at length ⊢
    omega

namespace Date

variable {date : Date} {year : Int} {month day : Nat}

theorem inside_of_ofCivil? (isDate : ofCivil? year month day = some date) :
    1 ≤ month ∧ month ≤ 12 ∧ 1 ≤ day ∧ day ≤ monthLength year month := by
  unfold ofCivil? at isDate
  split at isDate
  · assumption
  · cases isDate

/-- The month of a date and the day in it are those that the date was made of. -/
theorem marchMonthAndDay_of_ofCivil? (isDate : ofCivil? year month day = some date) :
    date.marchMonthAndDay = (marchMonth month, day) := by
  obtain ⟨first, last, positive, atMost⟩ := inside_of_ofCivil? isDate
  have beforeNext := monthLength_le year first last
  obtain ⟨inYear, leapDay⟩ := dayOfYear_le first last atMost
  have number := number_of_ofCivil? isDate
  rw [dayNumber, ← marchMonth] at number
  have isDay : date.dayOfMarchYear = daysBeforeMonth (marchMonth month) + day - 1 := by
    apply dayOfMarchYear_eq (if month ≤ 2 then year - 1 else year)
    · omega
    · intro isLast
      obtain ⟨rfl, isLeap⟩ := leapDay (by omega)
      simpa using isLeap
    · simp only [number]
      omega
  have isMonth : (5 * (daysBeforeMonth (marchMonth month) + day - 1) + 2) / 153 =
      marchMonth month :=
    marchMonth_of_day (by omega) (by omega)
  simp only [marchMonthAndDay, isDay, isMonth, Prod.mk.injEq, true_and]
  omega

end Date

/-! ## The text of a date -/

/-- The short name of a month that counts from January. -/
def shortMonth : (month : Nat) → String
  | 1 => "Jan"
  | 2 => "Feb"
  | 3 => "Mar"
  | 4 => "Apr"
  | 5 => "May"
  | 6 => "Jun"
  | 7 => "Jul"
  | 8 => "Aug"
  | 9 => "Sep"
  | 10 => "Oct"
  | 11 => "Nov"
  | _ => "Dec"

theorem monthName_marchMonth {month : Nat} (first : 1 ≤ month) (last : month ≤ 12) :
    monthName (marchMonth month) = shortMonth month := by
  interval_cases month <;> rfl

/-- A month that counts from January and a day in it, as they are shown. -/
def monthDayText (month day : Nat) : String :=
  shortMonth month ++ " " ++ zeroPadded 2 day

namespace Date

/-- A date is shown by its month and its day. -/
theorem shortText_of_ofCivil? {date : Date} {year : Int} {month day : Nat}
    (isDate : ofCivil? year month day = some date) :
    date.shortText = monthDayText month day := by
  obtain ⟨first, last, -, -⟩ := inside_of_ofCivil? isDate
  rw [shortText, marchMonthAndDay_of_ofCivil? isDate, monthDayText,
    ← monthName_marchMonth first last]

/-- The date of a text has a year, a month and a day. -/
theorem exists_ofCivil?_of_ofField? {text : String} {date : Date}
    (isDate : ofField? text = some date) :
    ∃ year month day, ofCivil? year month day = some date := by
  obtain ⟨head, more, -, -, reads⟩ := ofField?_eq_some_iff.mp isDate
  obtain ⟨year, month, behind, day, -, -, isCivil⟩ := PlainScan.yields_date_iff.mp reads
  exact ⟨year, month, day, isCivil⟩

end Date

end TaskQuery

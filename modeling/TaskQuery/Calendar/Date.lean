/-
# Calendar dates

Dates of the Gregorian calendar, which is carried on without a break before its
introduction; the year 0 comes before the year 1. A date is kept as the number of
days since 1 March of the year 0, so the next day is the next number and the
distance between two dates is a difference. Years count from March inside the
arithmetic, which puts a leap day at the end of its year.

The calendar ends on both sides. The first date has no day before it and the last
none after it, and whoever asks for such a day has to say what happens then.
-/

namespace TaskQuery

/-- Whether a year has 366 days. -/
def isLeapYear (year : Int) : Bool :=
  year % 4 == 0 && (year % 100 != 0 || year % 400 == 0)

/-- The number of days of a month, which counts from 1. -/
def monthLength (year : Int) (month : Nat) : Nat :=
  if month = 2 then (if isLeapYear year then 29 else 28)
  else if month = 4 ∨ month = 6 ∨ month = 9 ∨ month = 11 then 30
  else 31

/-- The days between 1 March and the start of a month that counts from March. Five
months in a row have 153 days. -/
def daysBeforeMonth (month : Nat) : Nat :=
  (153 * month + 2) / 5

/-- The days between 1 March of the year 0 and 1 March of a year. -/
def daysBeforeYear (year : Int) : Int :=
  365 * year + year / 4 - year / 100 + year / 400

/-- The number of a day that is given by year, month and day. -/
def dayNumber (year : Int) (month day : Nat) : Int :=
  let marchYear := if month ≤ 2 then year - 1 else year
  daysBeforeYear marchYear + daysBeforeMonth ((month + 9) % 12) + day - 1

/-- The number of the first date, 1 January of the year -262143. -/
def firstDayNumber : Int :=
  dayNumber (-262143) 1 1

/-- The number of the last date, 31 December of the year 262142. -/
def lastDayNumber : Int :=
  dayNumber 262142 12 31

/-- A date. -/
@[ext]
structure Date where
  number : Int
  first_le : firstDayNumber ≤ number
  le_last : number ≤ lastDayNumber
  deriving DecidableEq, Repr

namespace Date

/-- The date with a number, if there is one. -/
def ofNumber? (number : Int) : Option Date :=
  if inside : firstDayNumber ≤ number ∧ number ≤ lastDayNumber then
    some ⟨number, inside.1, inside.2⟩
  else none

theorem number_of_ofNumber? {number : Int} {date : Date} (found : ofNumber? number = some date) :
    date.number = number := by
  unfold ofNumber? at found
  split at found
  · rw [← Option.some.inj found]
  · contradiction

/-- The date of a year, month and day, if the calendar has it. -/
def ofCivil? (year : Int) (month day : Nat) : Option Date :=
  if 1 ≤ month ∧ month ≤ 12 ∧ 1 ≤ day ∧ day ≤ monthLength year month then
    ofNumber? (dayNumber year month day)
  else none

/-- The first date of the calendar. -/
def first : Date :=
  ⟨firstDayNumber, by decide, by decide⟩

/-- The last date of the calendar. -/
def last : Date :=
  ⟨lastDayNumber, by decide, by decide⟩

/-- The day after a date. -/
def next? (date : Date) : Option Date :=
  ofNumber? (date.number + 1)

/-- The day before a date. -/
def previous? (date : Date) : Option Date :=
  ofNumber? (date.number - 1)

instance : LT Date where
  lt a b := a.number < b.number

instance : LE Date where
  le a b := a.number ≤ b.number

instance (a b : Date) : Decidable (a < b) :=
  inferInstanceAs (Decidable (a.number < b.number))

instance (a b : Date) : Decidable (a ≤ b) :=
  inferInstanceAs (Decidable (a.number ≤ b.number))

instance : Ord Date where
  compare a b := compare a.number b.number

/-- The day of a date in its year, with the years counted from March. Four hundred
years have 146097 days, a hundred 36524 or one more at the end of four hundred, and
four 1461 or one less at the end of a hundred. -/
def dayOfMarchYear (date : Date) : Nat :=
  let day := (date.number % 146097).toNat
  let day := day - 36524 * min (day / 36524) 3
  let day := day % 1461
  day - 365 * min (day / 365) 3

/-- The month of a date, counted from March, and the day in it, counted from 1. -/
def marchMonthAndDay (date : Date) : Nat × Nat :=
  let day := date.dayOfMarchYear
  let month := (5 * day + 2) / 153
  (month, day - daysBeforeMonth month + 1)

end Date

end TaskQuery

/-
# Comparing dates

`before` and `after` need a date on both sides. The field has to hold one text that begins with
a date, and the value has to be a date or one of the words for the days around today. Where one
side has no date, both are false. That is so of a field without a value, of a list, and of the
word for a day that the calendar does not have.

`is` compares dates too, where the field is one that holds dates, and otherwise texts. So for
such a field, with a date on both sides, the three are told by the order of the two dates, and
one of them is true and no other.
-/

import TaskQuery.Proofs.DueDates
import TaskQuery.Proofs.FieldDates

namespace TaskQuery

open Text

/-! ## Days around today -/

namespace Setting

variable {setting : Setting} {value : String}

theorem dateOf_of_today (word : lowercase value = "today") :
    setting.dateOf value = some setting.today := by
  simp [dateOf, word]

theorem dateOf_of_tomorrow (word : lowercase value = "tomorrow") :
    setting.dateOf value = setting.today.next? := by
  simp [dateOf, word]

theorem dateOf_of_yesterday (word : lowercase value = "yesterday") :
    setting.dateOf value = setting.today.previous? := by
  simp [dateOf, word]

theorem dateOf_today : setting.dateOf "today" = some setting.today :=
  dateOf_of_today (by decide +kernel)

theorem dateOf_tomorrow : setting.dateOf "tomorrow" = setting.today.next? :=
  dateOf_of_tomorrow (by decide +kernel)

theorem dateOf_yesterday : setting.dateOf "yesterday" = setting.today.previous? :=
  dateOf_of_yesterday (by decide +kernel)

end Setting

namespace Date

variable {date neighbour : Date}

theorem number_of_next? (isNext : date.next? = some neighbour) :
    neighbour.number = date.number + 1 :=
  number_of_ofNumber? isNext

theorem number_of_previous? (isPrevious : date.previous? = some neighbour) :
    neighbour.number = date.number - 1 :=
  number_of_ofNumber? isPrevious

theorem lt_iff {first second : Date} : first < second ↔ first.number < second.number :=
  Iff.rfl

end Date

/-! ## The three comparisons -/

namespace Evaluator

variable {evaluator : Evaluator} {task : Task} {field value : String} {date limit : Date}

/-- The field of a task and a value have these dates. -/
structure ComparesDates (evaluator : Evaluator) (task : Task) (field value : String)
    (date limit : Date) : Prop where
  ofField : evaluator.vocabulary.filterDate? task field = some date
  ofValue : evaluator.dateOf value = some limit

theorem ComparesDates.datePair_eq (dates : evaluator.ComparesDates task field value date limit) :
    evaluator.datePair (evaluator.vocabulary.resolve task field) value = some (date, limit) := by
  rw [Vocabulary.datePair_resolve, dates.ofField, dates.ofValue]
  rfl

theorem datePair_eq_none
    (apart : ∀ date limit, ¬ evaluator.ComparesDates task field value date limit) :
    evaluator.datePair (evaluator.vocabulary.resolve task field) value = none := by
  rw [Vocabulary.datePair_resolve]
  cases ofField : evaluator.vocabulary.filterDate? task field with
  | none => rfl
  | some date =>
      cases ofValue : evaluator.dateOf value with
      | none => rfl
      | some limit => exact absurd ⟨ofField, ofValue⟩ (apart date limit)

theorem evaluate_before_eq :
    evaluator.evaluate task (.comparison field .before value) =
      (evaluator.datePair (evaluator.vocabulary.resolve task field) value).any
        fun (date, limit) => decide (date < limit) := by
  simp [evaluate, compare, Setting.relates, Operator.splitNegation]

theorem evaluate_after_eq :
    evaluator.evaluate task (.comparison field .after value) =
      (evaluator.datePair (evaluator.vocabulary.resolve task field) value).any
        fun (date, limit) => decide (limit < date) := by
  simp [evaluate, compare, Setting.relates, Operator.splitNegation]

theorem evaluate_is_eq :
    evaluator.evaluate task (.comparison field .is value) =
      evaluator.isEqual field (evaluator.vocabulary.resolve task field) value := by
  simp [evaluate, compare, Setting.relates, Operator.splitNegation]

namespace ComparesDates

variable (dates : evaluator.ComparesDates task field value date limit)
include dates

theorem evaluate_before_iff :
    evaluator.evaluate task (.comparison field .before value) = true ↔ date < limit := by
  simp [evaluate_before_eq, dates.datePair_eq]

theorem evaluate_after_iff :
    evaluator.evaluate task (.comparison field .after value) = true ↔ limit < date := by
  simp [evaluate_after_eq, dates.datePair_eq]

theorem evaluate_is_iff (holdsDates : evaluator.vocabulary.isDateField
    (evaluator.vocabulary.canonicalField field) = true) :
    evaluator.evaluate task (.comparison field .is value) = true ↔ date = limit := by
  simp [evaluate_is_eq, Setting.isEqual, holdsDates, dates.datePair_eq]

/-- With a date on both sides, one of the three comparisons is true and no other. -/
theorem countP_evaluate_eq_one (holdsDates : evaluator.vocabulary.isDateField
    (evaluator.vocabulary.canonicalField field) = true) :
    [Operator.before, .is, .after].countP
      (fun operator => evaluator.evaluate task (.comparison field operator value)) = 1 := by
  simp only [List.countP_cons, List.countP_nil, dates.evaluate_before_iff,
    dates.evaluate_is_iff holdsDates, dates.evaluate_after_iff]
  simp only [Date.lt_iff, Date.ext_iff]
  split <;> split <;> split <;> omega

end ComparesDates

/-! ## Comparisons with the days around today -/

/-- The field of a task has a date, and a value stands for the day with a number. -/
def ComparesDay (evaluator : Evaluator) (task : Task) (field value : String) (date : Date)
    (number : Int) : Prop :=
  ∃ limit, evaluator.ComparesDates task field value date limit ∧ limit.number = number

namespace ComparesDay

variable {number : Int} (compares : evaluator.ComparesDay task field value date number)
include compares

theorem evaluate_before_iff :
    evaluator.evaluate task (.comparison field .before value) = true ↔ date.number < number := by
  obtain ⟨limit, dates, rfl⟩ := compares
  exact dates.evaluate_before_iff.trans Date.lt_iff

theorem evaluate_after_iff :
    evaluator.evaluate task (.comparison field .after value) = true ↔ number < date.number := by
  obtain ⟨limit, dates, rfl⟩ := compares
  exact dates.evaluate_after_iff.trans Date.lt_iff

theorem evaluate_is_iff (holdsDates : evaluator.vocabulary.isDateField
    (evaluator.vocabulary.canonicalField field) = true) :
    evaluator.evaluate task (.comparison field .is value) = true ↔ date.number = number := by
  obtain ⟨limit, dates, rfl⟩ := compares
  exact (dates.evaluate_is_iff holdsDates).trans Date.ext_iff

end ComparesDay

section

variable (ofField : evaluator.vocabulary.filterDate? task field = some date)
include ofField

theorem comparesDay_today :
    evaluator.ComparesDay task field "today" date evaluator.today.number :=
  ⟨evaluator.today, ⟨ofField, Setting.dateOf_today⟩, rfl⟩

theorem comparesDay_tomorrow (hasNext : evaluator.today.next?.isSome) :
    evaluator.ComparesDay task field "tomorrow" date (evaluator.today.number + 1) := by
  obtain ⟨next, isNext⟩ := Option.isSome_iff_exists.mp hasNext
  exact ⟨next, ⟨ofField, Setting.dateOf_tomorrow.trans isNext⟩, Date.number_of_next? isNext⟩

theorem comparesDay_yesterday (hasPrevious : evaluator.today.previous?.isSome) :
    evaluator.ComparesDay task field "yesterday" date (evaluator.today.number - 1) := by
  obtain ⟨previous, isPrevious⟩ := Option.isSome_iff_exists.mp hasPrevious
  exact ⟨previous, ⟨ofField, Setting.dateOf_yesterday.trans isPrevious⟩,
    Date.number_of_previous? isPrevious⟩

/-- Today is the day between yesterday and tomorrow. -/
theorem evaluate_is_today_iff (holdsDates : evaluator.vocabulary.isDateField
      (evaluator.vocabulary.canonicalField field) = true)
    (hasNext : evaluator.today.next?.isSome) (hasPrevious : evaluator.today.previous?.isSome) :
    evaluator.evaluate task (.comparison field .is "today") = true ↔
      evaluator.evaluate task (.comparison field .after "yesterday") = true ∧
        evaluator.evaluate task (.comparison field .before "tomorrow") = true := by
  rw [(comparesDay_today ofField).evaluate_is_iff holdsDates,
    (comparesDay_yesterday ofField hasPrevious).evaluate_after_iff,
    (comparesDay_tomorrow ofField hasNext).evaluate_before_iff]
  omega

end

/-! ## Comparisons without a date -/

theorem evaluate_before_and_after_of_apart
    (apart : ∀ date limit, ¬ evaluator.ComparesDates task field value date limit) :
    evaluator.evaluate task (.comparison field .before value) = false ∧
      evaluator.evaluate task (.comparison field .after value) = false := by
  simp [evaluate_before_eq, evaluate_after_eq, datePair_eq_none apart]

/-- A field without one text has no date. -/
theorem not_comparesDates_of_no_text
    (noText : ∀ text, evaluator.vocabulary.resolve task field ≠ .text text) :
    ¬ evaluator.ComparesDates task field value date limit := by
  intro dates
  obtain ⟨text, isText, -⟩ := Vocabulary.resolve_of_filterDate? dates.ofField
  exact noText text isText

/-- A word for a day that the calendar does not have is no date. -/
theorem not_comparesDates_of_no_day
    (noDay : lowercase value = "tomorrow" ∧ evaluator.today = .last ∨
      lowercase value = "yesterday" ∧ evaluator.today = .first) :
    ¬ evaluator.ComparesDates task field value date limit := by
  intro dates
  have ofValue := dates.ofValue
  rcases noDay with ⟨word, isLast⟩ | ⟨word, isFirst⟩
  · have isNext := evaluator.today.isSome_next?_iff.mp
      (Option.isSome_of_mem ((Setting.dateOf_of_tomorrow word).symm.trans ofValue))
    exact isNext isLast
  · have isPrevious := evaluator.today.isSome_previous?_iff.mp
      (Option.isSome_of_mem ((Setting.dateOf_of_yesterday word).symm.trans ofValue))
    exact isPrevious isFirst

/-- Where a field of dates and a value both have a date, `before`, `is` and `after` say that the
first date is earlier, the same and later than the second, and exactly one of them is true. On
any field, `before` and `after` are false when a side has no date, and so for a field without a
value or with a list, and for the word of a day that does not exist. And a date is today exactly
if it is after yesterday and before tomorrow. -/
theorem countP_dateComparisons_eq_one (evaluator : Evaluator) (task : Task) (field : String) :
    let holdsDates : Bool :=
      evaluator.vocabulary.isDateField (evaluator.vocabulary.canonicalField field)
    let holds (operator : Operator) (value : String) : Bool :=
      evaluator.evaluate task (.comparison field operator value)
    (holdsDates = true → ∀ value date limit, evaluator.ComparesDates task field value date limit →
      [Operator.before, .is, .after].countP (holds · value) = 1 ∧
      (holds .before value = true ↔ date < limit) ∧
      (holds .is value = true ↔ date = limit) ∧
      (holds .after value = true ↔ limit < date)) ∧
    (∀ value, (∀ date limit, ¬ evaluator.ComparesDates task field value date limit) →
      holds .before value = false ∧ holds .after value = false) ∧
    (∀ value, (∀ text, evaluator.vocabulary.resolve task field ≠ .text text) →
      holds .before value = false ∧ holds .after value = false) ∧
    (∀ value, (lowercase value = "tomorrow" ∧ evaluator.today = .last ∨
        lowercase value = "yesterday" ∧ evaluator.today = .first) →
      holds .before value = false ∧ holds .after value = false) ∧
    (holdsDates = true → evaluator.today.next?.isSome → evaluator.today.previous?.isSome →
      (evaluator.vocabulary.filterDate? task field).isSome →
      (holds .is "today" = true ↔
        holds .after "yesterday" = true ∧ holds .before "tomorrow" = true)) := by
  intro holdsDates holds
  refine ⟨fun isDateField value date limit dates => ?_,
    fun value apart => evaluate_before_and_after_of_apart apart,
    fun value noText => ?_, fun value noDay => ?_,
    fun isDateField hasNext hasPrevious hasDate => ?_⟩
  · exact ⟨dates.countP_evaluate_eq_one isDateField, dates.evaluate_before_iff,
      dates.evaluate_is_iff isDateField, dates.evaluate_after_iff⟩
  · apply evaluate_before_and_after_of_apart
    intro date limit
    exact not_comparesDates_of_no_text noText
  · apply evaluate_before_and_after_of_apart
    intro date limit
    exact not_comparesDates_of_no_day noDay
  · obtain ⟨date, ofField⟩ := Option.isSome_iff_exists.mp hasDate
    exact evaluate_is_today_iff ofField isDateField hasNext hasPrevious

/-- A date with a time of day, under another name of its field, and tomorrow in capitals. -/
theorem countP_dateComparisons_eq_one_tomorrow :
    let today : Date := ⟨dayNumber 2025 1 15, by decide, by decide⟩
    let evaluator : Evaluator := .of ⟨.default, .empty, today⟩ none
    let task : Task := { id := "a", due := some "2025-01-16T10:00" }
    [Operator.before, .is, .after].countP (fun operator =>
        evaluator.evaluate task (.comparison "Due_Date" operator "TOMORROW")) = 1 ∧
      evaluator.evaluate task (.comparison "Due_Date" .is "TOMORROW") = true := by
  intro today evaluator task
  have isDateField : evaluator.vocabulary.isDateField
      (evaluator.vocabulary.canonicalField "Due_Date") = true := by
    decide +kernel
  let tomorrow : Date := ⟨dayNumber 2025 1 16, by decide, by decide⟩
  have dates : evaluator.ComparesDates task "Due_Date" "TOMORROW" tomorrow tomorrow :=
    ⟨by decide +kernel, by decide +kernel⟩
  obtain ⟨one, -, same, -⟩ := (evaluator.countP_dateComparisons_eq_one task "Due_Date").1
    isDateField "TOMORROW" tomorrow tomorrow dates
  exact ⟨one, same.mpr rfl⟩

end Evaluator

end TaskQuery

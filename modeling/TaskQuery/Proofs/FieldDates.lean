/-
# The day of a field

A filter takes the day of a field from the first ten bytes of its text, and sorting reads
the text as a whole before it falls back on those ten bytes. The two read the same day
unless the text as a whole is a date with a time of day and that date does not take up just
ten bytes. A sign, a blank or a missing zero makes a date longer or shorter than that; then
the filter finds no date, or one whose day has lost its second digit.
-/

import TaskQuery.Proofs.DateScans
import TaskQuery.Proofs.StableSorting
import TaskQuery.Query.Evaluation

namespace TaskQuery

open Text

/-! ## Days of filters and of sorting -/

/-- A text is a date with a time of day, written in one of the ways that sorting knows. -/
def HasTimeOfDay (text : String) : Prop :=
  ∃ blank seconds, ((PlainScan.instant blank seconds).whole? text.toList).isSome = true

/-- The date that a text begins with takes up ten bytes. -/
def DateTakesTenBytes (text : String) : Prop :=
  ∃ front rest date, text.toList = front ++ rest ∧ byteLength front = 10 ∧
    PlainScan.date.Yields text.toList date rest

variable {text : String}

/-- Sorting reads the whole text, or the text has no time of day and it reads the first ten
bytes. -/
theorem Instant.ofText?_cases (text : String) :
    (∃ blank seconds instant, (PlainScan.instant blank seconds).Yields text.toList instant [] ∧
      Instant.ofText? text = some instant) ∨
    ¬ HasTimeOfDay text ∧ Instant.ofText? text = (Date.ofField? text).map startOf := by
  -- The four ways in the order in which they are tried.
  cases first : (PlainScan.instant false true).whole? text.toList with
  | some instant =>
      exact Or.inl ⟨_, _, instant, PlainScan.whole?_eq_some_iff.mp first, by simp [ofText?, first]⟩
  | none =>
  cases second : (PlainScan.instant false false).whole? text.toList with
  | some instant =>
      exact Or.inl ⟨_, _, instant, PlainScan.whole?_eq_some_iff.mp second,
        by simp [ofText?, first, second]⟩
  | none =>
  cases third : (PlainScan.instant true true).whole? text.toList with
  | some instant =>
      exact Or.inl ⟨_, _, instant, PlainScan.whole?_eq_some_iff.mp third,
        by simp [ofText?, first, second, third]⟩
  | none =>
  cases fourth : (PlainScan.instant true false).whole? text.toList with
  | some instant =>
      exact Or.inl ⟨_, _, instant, PlainScan.whole?_eq_some_iff.mp fourth,
        by simp [ofText?, first, second, third, fourth]⟩
  | none =>
      refine Or.inr ⟨?_, by simp [ofText?, first, second, third, fourth]⟩
      rintro ⟨blank, seconds, reads⟩
      cases blank <;> cases seconds <;> simp [first, second, third, fourth] at reads

/-- Wherever a filter finds a date, sorting finds an instant, and their days are the same or
the filter has lost a digit. -/
theorem exists_instant_of_ofField? {date : Date} (found : Date.ofField? text = some date) :
    ∃ instant, Instant.ofText? text = some instant ∧
      (instant.date = date ∨ PlainScan.LosesDigit date instant.date) := by
  rcases Instant.ofText?_cases text with ⟨_, _, instant, reads, same⟩ | ⟨-, same⟩
  · obtain ⟨head, more, cut, -, alone⟩ := Date.ofField?_eq_some_iff.mp found
    obtain ⟨rest, isDate⟩ := PlainScan.exists_yields_date_of_instant reads
    rw [cut] at isDate
    refine ⟨instant, same, ?_⟩
    rcases PlainScan.eq_or_losesDigit_of_yields_date alone isDate with ⟨rfl, -⟩ | loses
    · exact Or.inl rfl
    · exact Or.inr loses
  · rw [found] at same
    exact ⟨Instant.startOf date, same, Or.inl rfl⟩

/-- Filters and sorting read the same day exactly from the texts that are no date with a time
of day, or whose date takes up ten bytes. -/
theorem date_ofText?_eq_ofField?_iff :
    (Instant.ofText? text).map Instant.date = Date.ofField? text ↔
      (HasTimeOfDay text → DateTakesTenBytes text) := by
  rcases Instant.ofText?_cases text with ⟨blank, seconds, instant, reads, same⟩ | ⟨untimed, same⟩
  · have timed : HasTimeOfDay text :=
      ⟨blank, seconds, Option.isSome_of_mem (PlainScan.whole?_eq_some_iff.mpr reads)⟩
    obtain ⟨rest, isDate⟩ := PlainScan.exists_yields_date_of_instant reads
    obtain ⟨front, whole, again⟩ := PlainScan.isLocal_date isDate
    rw [same, Option.map_some, eq_comm, Date.ofField?_eq_some_iff]
    constructor
    · rintro ⟨head, more, cut, size, alone⟩ -
      rw [cut] at isDate
      rcases PlainScan.eq_or_losesDigit_of_yields_date alone isDate with ⟨-, rfl⟩ | loses
      · exact ⟨head, rest, instant.date, cut, size, cut ▸ isDate⟩
      · exact absurd loses.lt (Int.lt_irrefl _)
    · intro takes
      obtain ⟨front', rest', date', whole', size, isDate'⟩ := takes timed
      obtain ⟨rfl, rfl⟩ := isDate.unique isDate'
      obtain rfl := List.append_cancel_right (whole.symm.trans whole')
      have ends := again [] (fun _ isHead => nomatch isHead)
      rw [List.append_nil] at ends
      exact ⟨front, rest, whole, size, ends⟩
  · refine iff_of_true ?_ fun timed => absurd timed untimed
    rw [same, Option.map_map]
    exact congrFun Option.map_id _

/-- A padded date is read alike. -/
theorem date_ofText?_of_startsPadded (padded : PlainScan.StartsPadded text.toList) :
    (Instant.ofText? text).map Instant.date = Date.ofField? text := by
  refine date_ofText?_eq_ofField?_iff.mpr fun timed => ?_
  obtain ⟨blank, seconds, some⟩ := timed
  obtain ⟨instant, reads⟩ := Option.isSome_iff_exists.mp some
  obtain ⟨rest, isDate⟩ :=
    PlainScan.exists_yields_date_of_instant (PlainScan.whole?_eq_some_iff.mp reads)
  obtain ⟨front, whole, size⟩ := PlainScan.byteLength_of_startsPadded padded isDate
  exact ⟨front, rest, instant.date, whole, size, isDate⟩

theorem Instant.compare_eq_lt_of_date_lt {first second : Instant}
    (before : first.date < second.date) : compare first second = .lt := by
  have days : compare first.date second.date = .lt := Int.compare_eq_lt.mpr before
  change (compare first.date second.date).then _ = .lt
  rw [days]
  rfl

namespace Vocabulary

variable {vocabulary : Vocabulary} {field : String} {task a b : Task}

/-- The date that filters take from a field of a task. -/
def filterDate? (vocabulary : Vocabulary) (task : Task) (field : String) : Option Date :=
  match vocabulary.resolve task field with
  | .text text => Date.ofField? text
  | .missing | .list _ => none

/-- Filters and sorting take the same day from a field of a task. -/
def HasOneDay (vocabulary : Vocabulary) (task : Task) (field : String) : Prop :=
  HasTimeOfDay (vocabulary.fieldText task field) →
    DateTakesTenBytes (vocabulary.fieldText task field)

/-- What a comparison with a date reads from a field of a task. -/
theorem datePair_resolve (setting : Setting) (task : Task) (field value : String) :
    setting.datePair (setting.vocabulary.resolve task field) value =
      (setting.vocabulary.filterDate? task field).bind fun date =>
        (setting.dateOf value).map fun limit => (date, limit) := by
  rw [filterDate?]
  cases setting.vocabulary.resolve task field with
  | missing => rfl
  | list items => rfl
  | text text =>
      simp only [Setting.datePair]
      cases Date.ofField? text <;> cases setting.dateOf value <;> rfl

theorem ofField?_empty : Date.ofField? "" = none := by
  decide +kernel

/-- A date of a filter is in a text that is not empty. -/
theorem resolve_of_filterDate? {date : Date}
    (found : vocabulary.filterDate? task field = some date) :
    ∃ text, vocabulary.resolve task field = .text text ∧ text ≠ "" ∧
      Date.ofField? text = some date := by
  rw [filterDate?] at found
  split at found
  · rename_i text isText
    refine ⟨text, isText, ?_, found⟩
    rintro rfl
    rw [ofField?_empty] at found
    cases found
  · cases found
  · cases found

/-- A task with a date for filters has a value to be ordered by under a field of dates. -/
theorem exists_instant_of_filterDate? {date : Date}
    (found : vocabulary.filterDate? task field = some date) :
    ¬ vocabulary.LacksValue field task ∧
      Date.ofField? (vocabulary.fieldText task field) = some date ∧
      ∃ instant, Instant.ofText? (vocabulary.fieldText task field) = some instant ∧
        (instant.date = date ∨ PlainScan.LosesDigit date instant.date) := by
  obtain ⟨text, isText, nonempty, isDate⟩ := resolve_of_filterDate? found
  have fieldText : vocabulary.fieldText task field = text := by
    rw [Vocabulary.fieldText, isText, FieldValue.toText]
  obtain ⟨instant, isInstant, day⟩ := exists_instant_of_ofField? isDate
  rw [fieldText]
  refine ⟨?_, isDate, instant, isInstant, day⟩
  rintro (value | value | value | ⟨-, unread⟩)
  · rw [isText] at value
    cases value
  · rw [isText] at value
    exact nonempty (FieldValue.text.inj value)
  · rw [isText] at value
    cases value
  · rw [fieldText, isInstant] at unread
    cases unread

/-- A task that filters place on an earlier day precedes, if that is also its day for sorting.
For sorting the other task can only be on a later day than for filters. -/
theorem precedes_of_filterDate?_lt {keys : List SortKey} {earlier later : Date}
    (ordersByInstant : vocabulary.OrdersByInstant field)
    (oneDay : vocabulary.HasOneDay a field)
    (isEarlier : vocabulary.filterDate? a field = some earlier)
    (isLater : vocabulary.filterDate? b field = some later) (before : earlier < later) :
    vocabulary.Precedes (⟨field, .asc⟩ :: keys) a b := by
  obtain ⟨first, isDate, firstInstant, isFirst, -⟩ := exists_instant_of_filterDate? isEarlier
  obtain ⟨second, -, secondInstant, isSecond, secondDay⟩ := exists_instant_of_filterDate? isLater
  have firstDay : firstInstant.date = earlier := by
    have same := date_ofText?_eq_ofField?_iff.mpr oneDay
    rw [isFirst, isDate, Option.map_some] at same
    exact Option.some.inj same
  have days : firstInstant.date < secondInstant.date := by
    rw [firstDay]
    rcases secondDay with same | loses
    · exact same ▸ before
    · exact Int.lt_trans before loses.lt
  have compares := Compares.byInstant first second ordersByInstant isFirst isSecond
  rw [Instant.compare_eq_lt_of_date_lt days] at compares
  exact precedes_cons_iff.mpr (Or.inl compares)

end Vocabulary

namespace Setting

/-- Where filters find a day in a text sorting finds one too, the same or the one that the
filters' day has lost a digit of. Their days agree exactly for texts without a time of day and
for those whose date takes up ten bytes, and so for padded dates. Comparisons take their day
from a field of a task in that way, and an ascending sort puts no task whose days agree behind
one that they place on a later day. -/
theorem days_of_filters_and_sorting (setting : Setting) (field : String)
    (keys : List SortKey) (tasks : List Task)
    (ordersByInstant : setting.vocabulary.OrdersByInstant field) :
    (∀ text,
      (∀ date, Date.ofField? text = some date →
        ∃ instant, Instant.ofText? text = some instant ∧
          (instant.date = date ∨ PlainScan.LosesDigit date instant.date)) ∧
      ((Instant.ofText? text).map Instant.date = Date.ofField? text ↔
        (HasTimeOfDay text → DateTakesTenBytes text)) ∧
      (PlainScan.StartsPadded text.toList →
        (Instant.ofText? text).map Instant.date = Date.ofField? text)) ∧
    (∀ task value, setting.datePair (setting.vocabulary.resolve task field) value =
      (setting.vocabulary.filterDate? task field).bind fun date =>
        (setting.dateOf value).map fun limit => (date, limit)) ∧
    (setting.vocabulary.sortTasks (⟨field, .asc⟩ :: keys) tasks).Pairwise fun first second =>
      ¬ (setting.vocabulary.HasOneDay second field ∧
        ∃ earlier later, setting.vocabulary.filterDate? second field = some earlier ∧
          setting.vocabulary.filterDate? first field = some later ∧ earlier < later) := by
  refine ⟨fun text => ⟨fun date => exists_instant_of_ofField?, date_ofText?_eq_ofField?_iff,
    date_ofText?_of_startsPadded⟩,
    fun task value => Vocabulary.datePair_resolve setting task field value, ?_⟩
  refine (setting.vocabulary.pairwise_sortTasks (⟨field, .asc⟩ :: keys) tasks).imp ?_
  rintro first second inOrder ⟨oneDay, earlier, later, isEarlier, isLater, before⟩
  have precedes : setting.vocabulary.Precedes (⟨field, .asc⟩ :: keys) second first :=
    Vocabulary.precedes_of_filterDate?_lt ordersByInstant oneDay isEarlier isLater before
  rw [Vocabulary.not_inOrder_of_precedes precedes] at inOrder
  cases inOrder

/-- Sorting by the date when a task is due, under one of its other names. -/
theorem days_of_filters_and_sorting_due :
    let setting : Setting := ⟨.default, .empty, Date.first⟩
    let tasks : List Task := [{ id := "a", due := some "2025-01-15T10:00" },
      { id := "b", due := some "2025-01-10" }]
    setting.vocabulary.OrdersByInstant "Due_Date" ∧
    (setting.vocabulary.sortTasks [⟨"Due_Date", .asc⟩] tasks).Pairwise fun first second =>
      ¬ (setting.vocabulary.HasOneDay second "Due_Date" ∧
        ∃ earlier later, setting.vocabulary.filterDate? second "Due_Date" = some earlier ∧
          setting.vocabulary.filterDate? first "Due_Date" = some later ∧ earlier < later) := by
  intro setting tasks
  have ordersByInstant : setting.vocabulary.OrdersByInstant "Due_Date" := by
    unfold Vocabulary.OrdersByInstant Vocabulary.OrdersByRank
    decide +kernel
  obtain ⟨-, -, sorted⟩ := days_of_filters_and_sorting setting "Due_Date" [] tasks ordersByInstant
  exact ⟨ordersByInstant, sorted⟩

/-- With a sign or without a zero a date has another day for filters than for sorting, or no
day, and a task that filters place first is sorted last. -/
theorem signed_year_sorts_behind_later_day :
    let signed : Task := { id := "a", due := some "+2025-01-15T10:00" }
    let plain : Task := { id := "b", due := some "2025-01-10" }
    ((Instant.ofText? "2025-1-5T10:00").map Instant.date = Date.ofCivil? 2025 1 5 ∧
      Date.ofField? "2025-1-5T10:00" = none) ∧
    ((Instant.ofText? "+2025-01-15T10:00").map Instant.date = Date.ofCivil? 2025 1 15 ∧
      Date.ofField? "+2025-01-15T10:00" = Date.ofCivil? 2025 1 1) ∧
    Vocabulary.default.filterDate? signed "due" = Date.ofCivil? 2025 1 1 ∧
    Vocabulary.default.filterDate? plain "due" = Date.ofCivil? 2025 1 10 ∧
    Vocabulary.default.sortTasks [⟨"due", .asc⟩] [signed, plain] = [plain, signed] := by
  intro signed plain
  have outOfOrder : Vocabulary.default.inOrder [⟨"due", .asc⟩] signed plain = false := by
    decide +kernel
  refine ⟨by decide +kernel, by decide +kernel, by decide +kernel, by decide +kernel, ?_⟩
  rw [Vocabulary.sortTasks_pair, outOfOrder]
  rfl

end Setting

end TaskQuery

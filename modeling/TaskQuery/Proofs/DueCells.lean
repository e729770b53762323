/-
# Due dates in tables and in filters

A table tells a due date by its distance from today, and filters compare it with the words for
the days around today. The two have nothing in common but the reading of the date: the table
asks for the day on both sides of today whatever the date is, a filter for the one day that it
names. Here they are brought together over the five places that a date can have as seen from
today.

What a table shows is a text, and it says something about the date only because no two places
have one text in common. A number of days and a month with its day have a blank in them, the
words have none, and a letter tells the first two apart.
-/

import TaskQuery.Proofs.CivilDates
import TaskQuery.Proofs.DateComparisons

namespace TaskQuery

open Text

/-! ## Places of dates -/

namespace DueDay

/-- A date lies where it is said to lie, as seen from today. -/
inductive Places (today date : Date) : DueDay → Prop
  | today (same : date.number = today.number) : Places today date .today
  | tomorrow (next : date.number = today.number + 1) : Places today date .tomorrow
  | yesterday (previous : date.number = today.number - 1) : Places today date .yesterday
  | past {days : Nat} (several : 2 ≤ days) (distance : today.number - date.number = days) :
      Places today date (.past days)
  | later (distant : today.number + 1 < date.number) : Places today date (.later date)

/-- A date has a place as seen from a day with neighbours on both sides. -/
theorem exists_of?_eq {today : Date} (date : Date) (hasNext : today.next?.isSome)
    (hasPrevious : today.previous?.isSome) :
    ∃ day, of? today date = some day ∧ day.Places today date := by
  obtain ⟨next, isNext⟩ := Option.isSome_iff_exists.mp hasNext
  obtain ⟨previous, isPrevious⟩ := Option.isSome_iff_exists.mp hasPrevious
  have nextNumber := Date.number_of_next? isNext
  have previousNumber := Date.number_of_previous? isPrevious
  refine ⟨_, by simp [of?, isNext, isPrevious]; rfl, ?_⟩
  simp only [Date.ext_iff, Date.lt_iff]
  split
  · exact .today ‹_›
  split
  · exact .tomorrow (by omega)
  split
  · exact .yesterday (by omega)
  split
  · exact .past (by omega) (by omega)
  · exact .later (by omega)

end DueDay

/-! ## Texts of places -/

theorem not_mem_zeroPadded {c : Char} (other : c.isDigit = false) (width n : Nat) :
    c ∉ (zeroPadded width n).toList := by
  rw [zeroPadded, String.toList_ofList, List.mem_append, not_or]
  constructor
  · intro member
    obtain rfl := List.eq_of_mem_replicate member
    cases other
  · intro member
    rw [Nat.isDigit_of_mem_toDigits (by decide) (by decide) member] at other
    cases other

/-- The letter that tells a number of days from a month and a day. -/
theorem not_mem_monthDayText (month day : Nat) : 'd' ∉ (monthDayText month day).toList := by
  have noMonth : 'd' ∉ (shortMonth month).toList := by
    fun_cases shortMonth month <;> decide
  simp [monthDayText, noMonth, not_mem_zeroPadded]

theorem blank_mem_monthDayText (month day : Nat) : ' ' ∈ (monthDayText month day).toList := by
  simp [monthDayText]

theorem blank_mem_daysAgo (days : Nat) : ' ' ∈ (toString days ++ " days ago").toList := by
  simp

/-- A month and a day are no number of days. -/
theorem monthDayText_ne_daysAgo (month day days : Nat) :
    monthDayText month day ≠ toString days ++ " days ago" := by
  intro same
  apply not_mem_monthDayText month day
  simp [same]

theorem ne_of_blank_mem {text word : String} (blank : ' ' ∈ text.toList)
    (noBlank : ' ' ∉ word.toList) : text ≠ word := by
  rintro rfl
  exact noBlank blank

/-- Different numbers of days are shown by different texts. -/
theorem daysAgo_inj {first second : Nat} :
    toString first ++ " days ago" = toString second ++ " days ago" ↔ first = second := by
  rw [String.append_left_inj]
  constructor
  · intro same
    rw [Nat.toString_eq_ofList_toDigits, Nat.toString_eq_ofList_toDigits] at same
    have digits := congrArg (Nat.ofDigitChars 10 · 0) (String.ofList_injective same)
    simpa only [Nat.ofDigitChars_ten_toDigits] using digits
  · exact congrArg toString

namespace DueDay.Places

variable {today date : Date} {day : DueDay} {year : Int} {month dayOfMonth : Nat}
  (places : day.Places today date)
  (isCivil : Date.ofCivil? year month dayOfMonth = some date)
include places isCivil

/-- A word without a blank is shown for the day that it is the word for. -/
theorem text_eq_word_iff {word : String} (noBlank : ' ' ∉ word.toList) :
    day.text = word ↔
      date.number = today.number ∧ word = "Today" ∨
        date.number = today.number + 1 ∧ word = "Tomorrow" ∨
        date.number = today.number - 1 ∧ word = "Yesterday" := by
  cases places with
  | today same => grind [text]
  | tomorrow next => grind [text]
  | yesterday previous => grind [text]
  | past several distance =>
      apply iff_of_false
      · exact ne_of_blank_mem (blank_mem_daysAgo _) noBlank
      · omega
  | later distant =>
      apply iff_of_false
      · rw [text, Date.shortText_of_ofCivil? isCivil]
        exact ne_of_blank_mem (blank_mem_monthDayText month dayOfMonth) noBlank
      · omega

/-- A number of days is shown for the day that lies so many days back, which are two or more. -/
theorem text_eq_daysAgo_iff {days : Nat} :
    day.text = toString days ++ " days ago" ↔ 2 ≤ days ∧ today.number - date.number = days := by
  constructor
  · intro shown
    have blank : ' ' ∈ day.text.toList := shown ▸ blank_mem_daysAgo days
    cases places with
    | today | tomorrow | yesterday => exact absurd blank (by decide)
    | past several distance =>
        obtain rfl := daysAgo_inj.mp shown
        exact ⟨several, distance⟩
    | later distant =>
        rw [text, Date.shortText_of_ofCivil? isCivil] at shown
        exact absurd shown (monthDayText_ne_daysAgo month dayOfMonth days)
  · rintro ⟨several, distance⟩
    cases places with
    | today | tomorrow | yesterday | later => omega
    | past _ sameDistance => exact daysAgo_inj.mpr (by omega)

/-- A day after tomorrow is shown by the month and the day of the date. -/
theorem text_eq_monthDayText (distant : today.number + 1 < date.number) :
    day.text = monthDayText month dayOfMonth := by
  cases places with
  | today | tomorrow | yesterday | past => omega
  | later => exact Date.shortText_of_ofCivil? isCivil

/-- A month and a day are shown for the days after tomorrow only. -/
theorem exists_text_eq_monthDayText_iff :
    (∃ shownMonth shownDay, day.text = monthDayText shownMonth shownDay) ↔
      today.number + 1 < date.number := by
  constructor
  · rintro ⟨shownMonth, shownDay, shown⟩
    have blank : ' ' ∈ day.text.toList := shown ▸ blank_mem_monthDayText shownMonth shownDay
    cases places with
    | today | tomorrow | yesterday => exact absurd blank (by decide)
    | past => exact absurd shown.symm (monthDayText_ne_daysAgo shownMonth shownDay _)
    | later distant => exact distant
  · intro distant
    exact ⟨month, dayOfMonth, places.text_eq_monthDayText isCivil distant⟩

end DueDay.Places

/-! ## Colours of places -/

namespace Style

theorem paint_ne (style : Style) (text : String) : style.paint text ≠ text := by
  intro same
  have lengths := congrArg String.length same
  have opening : "\x1b[".length = 2 := rfl
  simp only [paint, control, String.length_append, opening] at lengths
  omega

theorem red_paint_ne_yellow_paint (text : String) : red.paint text ≠ yellow.paint text := by
  intro same
  have characters := congrArg String.toList same
  simp [paint, control, codes] at characters

end Style

namespace DueDay.Places

variable {today date : Date} {day : DueDay} (places : day.Places today date)
include places

/-- The days before today are red. -/
theorem styled_eq_red_iff :
    styled true day.styles day.text = Style.red.paint day.text ↔ date.number < today.number := by
  cases places with
  | today same =>
      exact iff_of_false (Style.red_paint_ne_yellow_paint _).symm (by omega)
  | tomorrow next => exact iff_of_false (Style.paint_ne _ _).symm (by omega)
  | yesterday previous => exact iff_of_true rfl (by omega)
  | past several distance => exact iff_of_true rfl (by omega)
  | later distant => exact iff_of_false (Style.paint_ne _ _).symm (by omega)

/-- Today is yellow. -/
theorem styled_eq_yellow_iff :
    styled true day.styles day.text = Style.yellow.paint day.text ↔
      date.number = today.number := by
  cases places with
  | today same => exact iff_of_true rfl same
  | tomorrow next => exact iff_of_false (Style.paint_ne _ _).symm (by omega)
  | yesterday previous => exact iff_of_false (Style.red_paint_ne_yellow_paint _) (by omega)
  | past several distance => exact iff_of_false (Style.red_paint_ne_yellow_paint _) (by omega)
  | later distant => exact iff_of_false (Style.paint_ne _ _).symm (by omega)

end DueDay.Places

/-! ## Cells and filters -/

theorem filterDate?_due {task : Task} {text : String} (isDue : task.due = some text) :
    Vocabulary.default.filterDate? task "due" = Date.ofField? text := by
  have canonical : Vocabulary.default.canonicalField "due" = "due" := by decide +kernel
  simp [Vocabulary.filterDate?, Vocabulary.resolve, canonical, Task.fieldValue,
    Task.recordField?, FieldValue.ofOption, isDue]

theorem dueCell?_of_day {today date : Date} {text : String} {day : DueDay}
    (isDate : Date.ofField? text = some date) (isDay : DueDay.of? today date = some day)
    (colors : Bool) :
    dueCell? colors today (some text) = some (styled colors day.styles day.text) := by
  simp [dueCell?, isDate, isDay]

namespace Evaluator

/-- A table and the filters of the default vocabulary tell the same about a due date, on every
day that has a day on both sides. Without colours a cell says `Today`, `Tomorrow` or `Yesterday`
exactly if the filter with this word keeps the task. It says how many days ago the date was
exactly if the date is before yesterday, and these are the days between the date and today. It
names a month and a day exactly if the date is after tomorrow, and they are those of the date.
With colours it is red exactly if the date is before today, and yellow if it is today. -/
theorem dueCell?_agrees_with_filters (evaluator : Evaluator) (task : Task) {text : String}
    {date : Date} (isDefault : evaluator.vocabulary = .default)
    (isDue : task.due = some text) (isDate : Date.ofField? text = some date)
    (hasNext : evaluator.today.next?.isSome) (hasPrevious : evaluator.today.previous?.isSome) :
    let due (operator : Operator) (value : String) : Prop :=
      evaluator.evaluate task (.comparison "due" operator value) = true
    ∃ plain colored, dueCell? false evaluator.today task.due = some plain ∧
      dueCell? true evaluator.today task.due = some colored ∧
      (plain = "Today" ↔ due .is "today") ∧
      (plain = "Tomorrow" ↔ due .is "tomorrow") ∧
      (plain = "Yesterday" ↔ due .is "yesterday") ∧
      ((∃ days : Nat, plain = toString days ++ " days ago") ↔ due .before "yesterday") ∧
      (∀ days : Nat, plain = toString days ++ " days ago" →
        2 ≤ days ∧ evaluator.today.number - date.number = days) ∧
      ((∃ month day, plain = monthDayText month day) ↔ due .after "tomorrow") ∧
      (∀ year month day, Date.ofCivil? year month day = some date →
        due .after "tomorrow" → plain = monthDayText month day) ∧
      (colored = Style.red.paint plain ↔ due .before "today") ∧
      (colored = Style.yellow.paint plain ↔ due .is "today") := by
  intro due
  have holdsDates : evaluator.vocabulary.isDateField
      (evaluator.vocabulary.canonicalField "due") = true := by
    rw [isDefault]
    decide +kernel
  have ofField : evaluator.vocabulary.filterDate? task "due" = some date := by
    rw [isDefault, filterDate?_due isDue, isDate]
  have today := comparesDay_today ofField
  have tomorrow := comparesDay_tomorrow ofField hasNext
  have yesterday := comparesDay_yesterday ofField hasPrevious
  -- the filters in numbers of days
  have isToday : due .is "today" ↔ date.number = evaluator.today.number :=
    today.evaluate_is_iff holdsDates
  have isTomorrow : due .is "tomorrow" ↔ date.number = evaluator.today.number + 1 :=
    tomorrow.evaluate_is_iff holdsDates
  have isYesterday : due .is "yesterday" ↔ date.number = evaluator.today.number - 1 :=
    yesterday.evaluate_is_iff holdsDates
  have beforeToday : due .before "today" ↔ date.number < evaluator.today.number :=
    today.evaluate_before_iff
  have beforeYesterday : due .before "yesterday" ↔ date.number < evaluator.today.number - 1 :=
    yesterday.evaluate_before_iff
  have afterTomorrow : due .after "tomorrow" ↔ evaluator.today.number + 1 < date.number :=
    tomorrow.evaluate_after_iff
  -- the cell by the place of the date
  obtain ⟨day, isDay, places⟩ := DueDay.exists_of?_eq date hasNext hasPrevious
  obtain ⟨year, month, dayOfMonth, isCivil⟩ := Date.exists_ofCivil?_of_ofField? isDate
  have cell := dueCell?_of_day isDate isDay
  rw [isDue]
  refine ⟨day.text, _, cell false, cell true, ?_, ?_, ?_, ?_, ?_, ?_, ?_, ?_, ?_⟩
  · rw [isToday, places.text_eq_word_iff isCivil (by decide)]
    simp
  · rw [isTomorrow, places.text_eq_word_iff isCivil (by decide)]
    simp
  · rw [isYesterday, places.text_eq_word_iff isCivil (by decide)]
    simp
  · simp only [beforeYesterday, places.text_eq_daysAgo_iff isCivil]
    constructor
    · rintro ⟨days, several, distance⟩
      omega
    · intro before
      exact ⟨(evaluator.today.number - date.number).toNat, by omega, by omega⟩
  · intro days
    exact (places.text_eq_daysAgo_iff isCivil).mp
  · rw [afterTomorrow, places.exists_text_eq_monthDayText_iff isCivil]
  · intro shownYear shownMonth shownDay shownCivil after
    exact places.text_eq_monthDayText shownCivil (afterTomorrow.mp after)
  · rw [beforeToday, places.styled_eq_red_iff]
  · rw [isToday, places.styled_eq_yellow_iff]

/-- A date of the next month, which has a time of day. -/
theorem dueCell?_agrees_with_filters_february :
    let today : Date := ⟨dayNumber 2025 1 15, by decide, by decide⟩
    let evaluator : Evaluator := .of ⟨.default, .empty, today⟩ none
    let task : Task := { id := "a", due := some "2025-02-03T10:00" }
    evaluator.evaluate task (.comparison "due" .after "tomorrow") = true ∧
      dueCell? false today task.due = some (monthDayText 2 3) := by
  intro today evaluator task
  let february : Date := ⟨dayNumber 2025 2 3, by decide, by decide⟩
  have isDate : Date.ofField? "2025-02-03T10:00" = some february := by
    decide +kernel
  have hasNext : evaluator.today.next?.isSome := by
    decide +kernel
  have hasPrevious : evaluator.today.previous?.isSome := by
    decide +kernel
  have after : evaluator.evaluate task (.comparison "due" .after "tomorrow") = true := by
    decide +kernel
  obtain ⟨plain, -, isPlain, -, -, -, -, -, -, -, monthAndDay, -⟩ :=
    evaluator.dueCell?_agrees_with_filters task rfl rfl isDate hasNext hasPrevious
  rw [← monthAndDay 2025 2 3 (by decide +kernel) after]
  exact ⟨after, isPlain⟩

end Evaluator

end TaskQuery

/-
# Columns of task tables

A table has a line with the names of its columns and then a line for each task. A line is the
cells of its columns, each with blanks behind it up to the width of the column, and a blank
between them. So a cell begins where its column does, and further right by as much as the cells
in front of it are wider than their columns.

Cells of identifiers and tags are cut to the widths of their columns, and those of priorities
and statuses are never wider. What is left is the due date: a text that is no date is shown as
it was written, and pushes the two columns behind it to the right by what it has too much.
-/

import TaskQuery.Proofs.DueCells
import TaskQuery.Proofs.Lines
import TaskQuery.Proofs.PlainText
import TaskQuery.Report.Table

namespace TaskQuery

open Text

/-! ## Columns -/

/-- The columns of a table. -/
inductive TableColumn
  | id
  | priority
  | status
  | due
  | tags
  | description
  deriving DecidableEq, Repr

namespace TableColumn

/-- The columns up to the due date, from left to right. -/
def upToDue : List TableColumn :=
  [id, priority, status, due]

/-- The columns behind the due date, from left to right. -/
def behindDue : List TableColumn :=
  [tags, description]

/-- The columns from left to right. -/
def all : List TableColumn :=
  upToDue ++ behindDue

/-- The least width of a column. The last one needs none. -/
def width : TableColumn → Nat
  | id => 10
  | priority => 8
  | status | due => 12
  | tags => 18
  | description => 0

/-- The cell of a line in a column. -/
def cell (row : TableRow) : TableColumn → String
  | id => row.id
  | priority => row.priority
  | status => row.status
  | due => row.due
  | tags => row.tags
  | description => row.description

/-- The columns to the left of a column. -/
def before (column : TableColumn) : List TableColumn :=
  all.takeWhile (· ≠ column)

/-- Where a column begins if no cell to the left of it is wider than its column. -/
def start (column : TableColumn) : Nat :=
  (column.before.map fun other => other.width + 1).sum

theorem exists_all_eq (column : TableColumn) : ∃ after, all = column.before ++ column :: after := by
  cases column <;> exact ⟨_, rfl⟩

end TableColumn

namespace TableRow

/-- A cell with the blanks that fill its column up. -/
def padded (row : TableRow) (column : TableColumn) : String :=
  padRight column.width (column.cell row)

/-- By how much the cells to the left of a column are wider than their columns. -/
def overflow (row : TableRow) (column : TableColumn) : Nat :=
  (column.before.map fun other => (other.cell row).length - other.width).sum

/-- The characters of a line in some columns, with a blank behind each. -/
def front (row : TableRow) (columns : List TableColumn) : List Char :=
  columns.flatMap fun column => (row.padded column).toList ++ [' ']

theorem text_eq_intercalate (row : TableRow) :
    row.text = " ".intercalate (TableColumn.all.map row.padded) := by
  have unpadded : padRight 0 row.description = row.description := by
    simp [padRight, spaces]
  simp [TableColumn.all, TableColumn.upToDue, TableColumn.behindDue, padded, TableColumn.width,
    TableColumn.cell, unpadded, text, String.intercalate_cons_cons, String.append_assoc]

theorem length_padded (row : TableRow) (column : TableColumn) :
    (row.padded column).length = column.width + ((column.cell row).length - column.width) := by
  rw [padded, padRight, String.length_append, length_spaces]
  omega

theorem front_cons (row : TableRow) (column : TableColumn) (columns : List TableColumn) :
    row.front (column :: columns) = (row.padded column).toList ++ ' ' :: row.front columns := by
  simp [front]

theorem length_front (row : TableRow) (columns : List TableColumn) :
    (row.front columns).length = (columns.map fun column => column.width + 1).sum +
      (columns.map fun column => (column.cell row).length - column.width).sum := by
  induction columns with
  | nil => rfl
  | cons column columns ih =>
      rw [front_cons, List.length_append, String.length_toList, List.length_cons, length_padded, ih,
        List.map_cons, List.map_cons, List.sum_cons, List.sum_cons]
      omega

theorem getLastD_front (row : TableRow) (columns : List TableColumn) :
    (row.front columns).getLastD ' ' = ' ' := by
  rcases List.eq_nil_or_concat columns with rfl | ⟨others, column, rfl⟩
  · rfl
  · rw [front, List.concat_eq_append, List.flatMap_append, List.flatMap_singleton,
      ← List.append_assoc, List.getLastD_concat]

/-- A line begins with the cells to the left of a column, and then comes the cell of the column. -/
theorem exists_toList_intercalate_eq (row : TableRow) (columns after : List TableColumn)
    (column : TableColumn) :
    ∃ rest, (" ".intercalate ((columns ++ column :: after).map row.padded)).toList =
      row.front columns ++ (row.padded column).toList ++ rest := by
  induction columns with
  | nil =>
      cases after with
      | nil => exact ⟨[], by simp [front]⟩
      | cons next after =>
          refine ⟨' ' :: (" ".intercalate ((next :: after).map row.padded)).toList, ?_⟩
          simp [front, String.intercalate_cons_cons]
  | cons first columns ih =>
      obtain ⟨rest, same⟩ := ih
      have others : (columns ++ column :: after).map row.padded ≠ [] := by simp
      refine ⟨rest, ?_⟩
      rw [List.cons_append, List.map_cons, String.intercalate_cons_of_ne_nil others,
        String.toList_append, String.toList_append, same, front_cons]
      simp

end TableRow

/-- A cell stands in a line from an offset on, with the blanks that fill its column up, and
there is a blank in front of it unless it is the first. -/
def TableColumn.BeginsAt (column : TableColumn) (row : TableRow) (line : String) (offset : Nat) :
    Prop :=
  (row.padded column).toList <+: line.toList.drop offset ∧
    (line.toList.take offset).getLastD ' ' = ' '

instance (column : TableColumn) (row : TableRow) (line : String) (offset : Nat) :
    Decidable (column.BeginsAt row line offset) :=
  inferInstanceAs (Decidable (_ ∧ _))

/-- A cell begins where its column does, and further right by what the cells to the left of it
have too much. -/
theorem TableRow.beginsAt (row : TableRow) (column : TableColumn) :
    column.BeginsAt row row.text (column.start + row.overflow column) := by
  obtain ⟨after, isAll⟩ := column.exists_all_eq
  obtain ⟨rest, isText⟩ := row.exists_toList_intercalate_eq column.before after column
  have isOffset : column.start + row.overflow column = (row.front column.before).length :=
    (row.length_front column.before).symm
  rw [TableColumn.BeginsAt, text_eq_intercalate, isAll, isText, List.append_assoc, isOffset,
    List.drop_left, List.take_left]
  exact ⟨List.prefix_append _ _, row.getLastD_front column.before⟩

theorem TableRow.overflow_header (column : TableColumn) : header.overflow column = 0 := by
  cases column <;> rfl

/-! ## Widths of cells -/

theorem length_priorityCell_le (priority : Priority) :
    (priorityCell false priority).length ≤ 8 := by
  cases priority <;> decide

theorem length_statusCell_le (status : Status) : (statusCell false status).length ≤ 12 := by
  cases status <;> decide

theorem length_zeroPadded_le {width n : Nat} (some : 0 < width) (small : n < 10 ^ width) :
    (zeroPadded width n).length ≤ width := by
  have digits := (Nat.length_toDigits_le_iff (by decide) some).mpr small
  rw [zeroPadded, String.length_ofList, List.length_append, List.length_replicate]
  omega

theorem length_monthDayText_le (month : Nat) {day : Nat} (inMonth : day ≤ 31) :
    (monthDayText month day).length ≤ 12 := by
  have monthLength : (shortMonth month).length = 3 := by
    fun_cases shortMonth month <;> rfl
  have dayLength : (zeroPadded 2 day).length ≤ 2 := length_zeroPadded_le (by decide) (by omega)
  have blankLength : " ".length = 1 := rfl
  rw [monthDayText, String.length_append, String.length_append, monthLength, blankLength]
  omega

/-- The text of a day fits its column, unless the day lies a thousand days back or more. -/
theorem DueDay.Places.length_text_le {today date : Date} {day : DueDay}
    (places : day.Places today date) {text : String} (isDate : Date.ofField? text = some date)
    (recent : today.number - date.number ≤ 999) : day.text.length ≤ 12 := by
  cases places with
  | today | tomorrow | yesterday => decide
  | @past days several distance =>
      have digits := (Nat.length_toDigits_le_iff (b := 10) (n := days) (k := 3) (by decide)
        (by decide)).mpr (by omega)
      have wordsLength : " days ago".length = 9 := rfl
      rw [DueDay.text, String.length_append, Nat.toString_eq_ofList_toDigits, String.length_ofList,
        wordsLength]
      omega
  | later =>
      obtain ⟨year, month, dayOfMonth, isCivil⟩ := Date.exists_ofCivil?_of_ofField? isDate
      obtain ⟨first, last, -, inMonth⟩ := Date.inside_of_ofCivil? isCivil
      have monthLength := monthLength_le year first last
      rw [daysBeforeMonth, daysBeforeMonth] at monthLength
      rw [DueDay.text, Date.shortText_of_ofCivil? isCivil]
      exact length_monthDayText_le month (by omega)

/-- How far a due date pushes the columns behind it to the right. A text that is no date pushes
them by what it has above the width of its column. A date does not, if it is not a thousand days
back or more. -/
inductive DueShift (today : Date) : Option String → Nat → Prop
  | absent : DueShift today none 0
  | written {text : String} (noDate : Date.ofField? text = none) :
      DueShift today (some text) (text.length - TableColumn.due.width)
  | date {text : String} {date : Date} (isDate : Date.ofField? text = some date)
      (recent : today.number - date.number ≤ 999) : DueShift today (some text) 0

theorem DueShift.eq {today : Date} {due : Option String} {shift : Nat} {cell : String}
    (shifts : DueShift today due shift) (isCell : dueCell? false today due = some cell)
    (hasNext : today.next?.isSome) (hasPrevious : today.previous?.isSome) :
    cell.length - TableColumn.due.width = shift := by
  cases shifts with
  | absent =>
      obtain rfl := Option.some.inj isCell
      rfl
  | written noDate =>
      rw [dueCell?, noDate] at isCell
      obtain rfl := Option.some.inj isCell
      rfl
  | @date text date isDate recent =>
      obtain ⟨day, isDay, places⟩ := DueDay.exists_of?_eq date hasNext hasPrevious
      rw [dueCell?_of_day isDate isDay] at isCell
      obtain rfl := Option.some.inj isCell
      exact Nat.sub_eq_zero_of_le (places.length_text_le isDate recent)

/-! ## Lines of tasks -/

theorem TableRow.exists_due_of_ofTask {today : Date} {task : Task} {row : TableRow}
    (isRow : ofTask? false today task = some row) :
    ∃ due, dueCell? false today task.due = some due ∧
      row = ⟨truncate 10 task.id, priorityCell false task.priority, statusCell false task.status,
        due, tagsCell 18 task.tags, task.description⟩ := by
  obtain ⟨due, isDue, same⟩ := Option.bind_eq_some_iff.mp isRow
  exact ⟨due, isDue, (Option.some.inj same).symm⟩

section

variable {today : Date} {task : Task} {row : TableRow}
  (isRow : TableRow.ofTask? false today task = some row)
include isRow

/-- No cell but the due date's is wider than its column, apart from the last one. -/
theorem TableRow.length_cell_le_width {column : TableColumn}
    (other : column ≠ .due) (notLast : column ≠ .description) :
    (column.cell row).length ≤ column.width := by
  obtain ⟨due, -, rfl⟩ := exists_due_of_ofTask isRow
  cases column with
  | id => exact length_truncate_le 10 task.id
  | priority => exact length_priorityCell_le task.priority
  | status => exact length_statusCell_le task.status
  | tags => exact length_truncate_le 18 (" ".intercalate task.tags)
  | due => exact absurd rfl other
  | description => exact absurd rfl notLast

/-- The columns up to the due date are not pushed to the right. -/
theorem TableRow.overflow_eq_zero {column : TableColumn}
    (front : column ∈ TableColumn.upToDue) : row.overflow column = 0 := by
  have left : ∀ other ∈ column.before, other ≠ .due ∧ other ≠ .description := by
    revert front
    cases column <;> decide
  rw [overflow, List.sum_eq_zero_iff_forall_eq_nat, List.forall_mem_map]
  intro other isLeft
  have ⟨notDue, notLast⟩ := left other isLeft
  exact Nat.sub_eq_zero_of_le (length_cell_le_width isRow notDue notLast)

/-- The columns behind the due date are pushed to the right by what it has too much. -/
theorem TableRow.overflow_eq_due {column : TableColumn} (behind : column ∈ TableColumn.behindDue) :
    row.overflow column = row.due.length - TableColumn.due.width := by
  have fits (other : TableColumn) (notDue : other ≠ .due) (notLast : other ≠ .description) :
      (other.cell row).length - other.width = 0 :=
    Nat.sub_eq_zero_of_le (length_cell_le_width isRow notDue notLast)
  have toDue : (TableColumn.upToDue.map fun other => (other.cell row).length - other.width).sum =
      (TableColumn.due.cell row).length - TableColumn.due.width := by
    simp [TableColumn.upToDue, fits]
  cases column with
  | tags => exact toDue
  | description =>
      have isBefore : TableColumn.description.before = TableColumn.upToDue ++ [.tags] := rfl
      have tagsFit := fits .tags (by decide) (by decide)
      rw [overflow, isBefore, List.map_append, List.sum_append, toDue, List.map_singleton,
        List.sum_singleton, tagsFit]
      rfl
  | id | priority | status | due => exact absurd behind (by decide)

end

/-! ## Characters of lines -/

/-- The texts of a task that a table shows. -/
def Task.shownTexts (task : Task) : List String :=
  task.id :: task.description :: (task.due.toList ++ task.tags)

/-- The characters that a table writes on its own. -/
def isTableChar (c : Char) : Bool :=
  c == ' ' || isWordChar c

theorem isTableChar_of_isDigit {c : Char} (isDigit : c.isDigit = true) : isTableChar c = true := by
  rw [isTableChar, isWordChar_of_isDigit isDigit, Bool.or_true]

theorem all_isTableChar_toDigits (n : Nat) : (Nat.toDigits 10 n).all isTableChar = true :=
  List.all_eq_true.mpr fun _ member =>
    isTableChar_of_isDigit (Nat.isDigit_of_mem_toDigits (by decide) (by decide) member)

theorem all_isTableChar_priorityCell (priority : Priority) :
    (priorityCell false priority).toList.all isTableChar = true := by
  cases priority <;> decide

theorem all_isTableChar_statusCell (status : Status) :
    (statusCell false status).toList.all isTableChar = true := by
  cases status <;> decide

theorem DueDay.all_isTableChar (day : DueDay) : day.text.toList.all isTableChar = true := by
  cases day with
  | today | tomorrow | yesterday => rfl
  | past days =>
      have words : " days ago".toList.all isTableChar = true := rfl
      rw [text, String.toList_append, List.all_append, Nat.toString_eq_ofList_toDigits,
        String.toList_ofList, all_isTableChar_toDigits, words, Bool.and_self]
  | later date =>
      have month (marchMonth : Nat) : (monthName marchMonth).toList.all isTableChar = true := by
        fun_cases monthName marchMonth <;> rfl
      have blank : isTableChar ' ' = true := rfl
      have zero : isTableChar '0' = true := rfl
      simp [text, Date.shortText, month, zeroPadded, all_isTableChar_toDigits, blank, zero]

section

variable {c : Char} (foreign : isTableChar c = false)
include foreign

theorem not_mem_truncate (width : Nat) {text : String} (absent : c ∉ text.toList) :
    c ∉ (truncate width text).toList := by
  have noPoint : c ∉ "...".toList := not_mem_of_all foreign rfl
  rw [truncate]
  split
  · rw [String.toList_append, String.toList_ofList, List.mem_append]
    exact not_or.mpr ⟨mt List.mem_of_mem_take absent, noPoint⟩
  · exact absent

theorem not_mem_padRight (width : Nat) {text : String} (absent : c ∉ text.toList) :
    c ∉ (padRight width text).toList := by
  have noBlank (count : Nat) : c ∉ List.replicate count ' ' :=
    not_mem_of_all foreign (by simp [isTableChar])
  rw [padRight, spaces, String.toList_append, String.toList_ofList, List.mem_append]
  exact not_or.mpr ⟨absent, noBlank _⟩

theorem not_mem_dueCell {today : Date} {due : Option String} {cell : String}
    (absent : ∀ text ∈ due, c ∉ text.toList) (isCell : dueCell? false today due = some cell) :
    c ∉ cell.toList := by
  cases due with
  | none =>
      obtain rfl := Option.some.inj isCell
      exact List.not_mem_nil
  | some text =>
      rw [dueCell?] at isCell
      split at isCell
      · obtain rfl := Option.some.inj isCell
        exact absent _ rfl
      · obtain ⟨day, -, rfl⟩ := Option.map_eq_some_iff.mp isCell
        exact not_mem_of_all foreign day.all_isTableChar

/-- A cell of a task holds its own characters and those of the task. -/
theorem TableRow.not_mem_cell_of_ofTask {today : Date} {task : Task} {row : TableRow}
    (absent : ∀ text ∈ task.shownTexts, c ∉ text.toList)
    (isRow : ofTask? false today task = some row) (column : TableColumn) :
    c ∉ (column.cell row).toList := by
  obtain ⟨due, isDue, rfl⟩ := exists_due_of_ofTask isRow
  rw [Task.shownTexts, List.forall_mem_cons, List.forall_mem_cons, List.forall_mem_append] at absent
  obtain ⟨notId, notDescription, notDue, notTag⟩ := absent
  have noBlank : c ∉ " ".toList := not_mem_of_all foreign rfl
  cases column with
  | id => exact not_mem_truncate foreign 10 notId
  | priority => exact not_mem_of_all foreign (all_isTableChar_priorityCell task.priority)
  | status => exact not_mem_of_all foreign (all_isTableChar_statusCell task.status)
  | due =>
      refine not_mem_dueCell foreign (fun text isText => notDue text ?_) isDue
      exact Option.mem_toList.mpr isText
  | tags => exact not_mem_truncate foreign 18 (not_mem_intercalate noBlank notTag)
  | description => exact notDescription

/-- A line shows nothing that is not of a table or of its task. -/
theorem TableRow.not_mem_text_of_ofTask {today : Date} {task : Task} {row : TableRow}
    (absent : ∀ text ∈ task.shownTexts, c ∉ text.toList)
    (isRow : ofTask? false today task = some row) : c ∉ row.text.toList := by
  rw [text_eq_intercalate]
  refine not_mem_intercalate (not_mem_of_all foreign rfl) (List.forall_mem_map.mpr ?_)
  intro column _
  exact not_mem_padRight foreign _ (not_mem_cell_of_ofTask foreign absent isRow column)

end

/-! ## Tables -/

theorem forall₂_of_mapM {α β : Type} {f : α → Option β} {items : List α} {results : List β}
    (mapped : items.mapM f = some results) :
    List.Forall₂ (fun item result => f item = some result) items results := by
  induction items generalizing results with
  | nil =>
      obtain rfl := Option.some.inj mapped
      exact .nil
  | cons item items ih =>
      rw [List.mapM_cons] at mapped
      obtain ⟨first, made, more⟩ := Option.bind_eq_some_iff.mp mapped
      obtain ⟨rest, madeRest, same⟩ := Option.bind_eq_some_iff.mp more
      obtain rfl := Option.some.inj same
      exact .cons made (ih madeRest)

theorem forall_mem_of_mapM {α β : Type} {f : α → Option β} {good : β → Prop} {items : List α}
    {results : List β} (each : ∀ item ∈ items, ∀ result, f item = some result → good result)
    (mapped : items.mapM f = some results) : ∀ result ∈ results, good result := by
  have related := (List.forall₂_and_left _ _).mpr ⟨each, forall₂_of_mapM mapped⟩
  have areGood : List.Forall₂ (fun result _ => good result ∧ True) results items :=
    (related.imp fun item result made => ⟨made.1 result made.2, trivial⟩).flip
  exact ((List.forall₂_and_left _ _).mp areGood).1

/-- A day with neighbours on both sides has rows for all tasks. -/
theorem TableRow.exists_mapM_ofTask?_eq {today : Date} (hasNext : today.next?.isSome)
    (hasPrevious : today.previous?.isSome) (tasks : List Task) :
    ∃ rows, tasks.mapM (ofTask? false today) = some rows := by
  rw [← Option.isSome_iff_exists, isSome_mapM_iff]
  intro task _
  rw [isSome_ofTask?_iff]
  rintro ⟨isFirst | isLast, -⟩
  · exact today.isSome_previous?_iff.mp hasPrevious isFirst
  · exact today.isSome_next?_iff.mp hasNext isLast

/-- A line shows a task. The cells up to the due date begin where their columns do, and those
behind it further right by what the due date pushes them. -/
def ShowsTask (today : Date) (task : Task) (line : String) : Prop :=
  ∃ row, TableRow.ofTask? false today task = some row ∧ line = row.text ∧
    (∀ column ∈ TableColumn.upToDue, column.BeginsAt row line column.start) ∧
    ∀ shift, DueShift today task.due shift →
      ∀ column ∈ TableColumn.behindDue, column.BeginsAt row line (column.start + shift)

theorem ShowsTask.of_ofTask {today : Date} (hasNext : today.next?.isSome)
    (hasPrevious : today.previous?.isSome) {task : Task} {row : TableRow}
    (isRow : TableRow.ofTask? false today task = some row) : ShowsTask today task row.text := by
  refine ⟨row, isRow, rfl, fun column front => ?_, fun shift shifts column behind => ?_⟩
  · have begins := row.beginsAt column
    rwa [TableRow.overflow_eq_zero isRow front] at begins
  · obtain ⟨due, isDue, isCells⟩ := TableRow.exists_due_of_ofTask isRow
    have dueWidth : row.due.length - TableColumn.due.width = shift := by
      rw [isCells]
      exact shifts.eq isDue hasNext hasPrevious
    have begins := row.beginsAt column
    rwa [TableRow.overflow_eq_due isRow behind, dueWidth] at begins

/-- A table without colours of tasks without line breaks, on a day with neighbours on both
sides, is the line of the column names and a line for each task in order, and the cells of a
line are below the names of their columns, unless a due text that is no date is too long for its
column. Then tags and description stand further right by what it has too much. -/
theorem lines_tasksTable? (today : Date) (tasks : List Task) (notEmpty : tasks ≠ [])
    (hasNext : today.next?.isSome) (hasPrevious : today.previous?.isSome)
    (whole : ∀ task ∈ tasks, ∀ text ∈ task.shownTexts, '\n' ∉ text.toList) :
    ∃ table shown, tasksTable? false today tasks = some table ∧
      lines table = TableRow.header.text :: shown ∧
      (∀ column : TableColumn, column.BeginsAt .header TableRow.header.text column.start) ∧
      List.Forall₂ (ShowsTask today) tasks shown := by
  obtain ⟨rows, areRows⟩ := TableRow.exists_mapM_ofTask?_eq hasNext hasPrevious tasks
  have noBreaks : ∀ line ∈ TableRow.header.text :: rows.map TableRow.text, '\n' ∉ line.toList := by
    refine List.forall_mem_cons.mpr ⟨by decide +kernel, List.forall_mem_map.mpr ?_⟩
    exact forall_mem_of_mapM (fun task member row =>
      TableRow.not_mem_text_of_ofTask (by decide) (whole task member)) areRows
  refine ⟨unlines (TableRow.header.text :: rows.map TableRow.text), rows.map TableRow.text, ?_,
    lines_unlines noBreaks, fun column => ?_, ?_⟩
  · have hasTasks : tasks.isEmpty = false := by simpa using notEmpty
    rw [tasksTable?, hasTasks, areRows]
    rfl
  · have begins := TableRow.header.beginsAt column
    rwa [TableRow.overflow_header] at begins
  · rw [List.forall₂_map_right_iff]
    exact (forall₂_of_mapM areRows).imp fun task row isRow =>
      .of_ofTask hasNext hasPrevious isRow

/-- A task that is late, and one whose due text is no date and has 14 characters too much. -/
theorem lines_tasksTable?_someday :
    let today : Date := ⟨dayNumber 2025 1 15, by decide, by decide⟩
    let late : Task :=
      { id := "a-long-identifier", description := "Report", due := some "2025-01-10T09:30"
        tags := ["#work", "#deadline/march"], priority := .highest, status := .inProgress }
    let someday : Task :=
      { id := "b", due := some "someday after the holidays", tags := ["#home"] }
    ∃ table first second lateRow somedayRow,
      tasksTable? false today [late, someday] = some table ∧
      lines table = [TableRow.header.text, first, second] ∧
      lateRow.due = "5 days ago" ∧ TableColumn.tags.BeginsAt lateRow first 46 ∧
      TableColumn.description.BeginsAt lateRow first 65 ∧
      somedayRow.due = "someday after the holidays" ∧
      TableColumn.tags.BeginsAt somedayRow second 60 ∧
      TableColumn.description.BeginsAt somedayRow second 79 := by
  intro today late someday
  let tenth : Date := ⟨dayNumber 2025 1 10, by decide, by decide⟩
  have hasNext : today.next?.isSome := by decide +kernel
  have hasPrevious : today.previous?.isSome := by decide +kernel
  have whole : ∀ task ∈ [late, someday], ∀ text ∈ task.shownTexts, '\n' ∉ text.toList := by
    decide +kernel
  have isTenth : Date.ofField? "2025-01-10T09:30" = some tenth := by decide +kernel
  have lateShift : DueShift today late.due 0 := .date isTenth (by decide)
  have somedayShift : DueShift today someday.due 14 :=
    @DueShift.written today "someday after the holidays" (by decide +kernel)
  obtain ⟨table, shown, isTable, areLines, -, related⟩ :=
    lines_tasksTable? today [late, someday] (List.cons_ne_nil _ _) hasNext hasPrevious whole
  obtain ⟨_, _, ⟨lateRow, isLate, -, -, lateColumns⟩, others, rfl⟩ :=
    List.forall₂_cons_left_iff.mp related
  obtain ⟨_, _, ⟨somedayRow, isSomeday, -, -, somedayColumns⟩, none, rfl⟩ :=
    List.forall₂_cons_left_iff.mp others
  obtain rfl := List.forall₂_nil_left_iff.mp none
  obtain ⟨lateDue, isLateDue, rfl⟩ := TableRow.exists_due_of_ofTask isLate
  obtain ⟨somedayDue, isSomedayDue, rfl⟩ := TableRow.exists_due_of_ofTask isSomeday
  have fiveDays : dueCell? false today late.due = some "5 days ago" := by decide +kernel
  have asWritten : dueCell? false today someday.due = some "someday after the holidays" := by
    decide +kernel
  obtain rfl := Option.some.inj (isLateDue.symm.trans fiveDays)
  obtain rfl := Option.some.inj (isSomedayDue.symm.trans asWritten)
  exact ⟨table, _, _, _, _, isTable, areLines, rfl,
    lateColumns 0 lateShift .tags (by decide), lateColumns 0 lateShift .description (by decide),
    rfl, somedayColumns 14 somedayShift .tags (by decide),
    somedayColumns 14 somedayShift .description (by decide)⟩

/-- Below a due text that is no date, tags and description do not stand below their names. -/
theorem not_beginsAt_start_someday :
    let today : Date := ⟨dayNumber 2025 1 15, by decide, by decide⟩
    let task : Task :=
      { id := "a", description := "Rest", due := some "someday after the holidays", tags := ["#x"] }
    let row : TableRow := ⟨"a", "", "todo", "someday after the holidays", "#x", "Rest"⟩
    today.next?.isSome ∧ today.previous?.isSome ∧
      (∀ text ∈ task.shownTexts, '\n' ∉ text.toList) ∧
      TableRow.ofTask? false today task = some row ∧
      (tasksTable? false today [task]).map lines = some [TableRow.header.text, row.text] ∧
      TableColumn.tags.BeginsAt .header TableRow.header.text TableColumn.tags.start ∧
      ¬ TableColumn.tags.BeginsAt row row.text TableColumn.tags.start ∧
      TableColumn.description.BeginsAt .header TableRow.header.text TableColumn.description.start ∧
      ¬ TableColumn.description.BeginsAt row row.text TableColumn.description.start := by
  intro today task row
  have isRow : TableRow.ofTask? false today task = some row := by decide +kernel
  have noBreaks : ∀ line ∈ [TableRow.header.text, row.text], '\n' ∉ line.toList := by
    decide +kernel
  have isTable : tasksTable? false today [task] =
      some (unlines [TableRow.header.text, row.text]) := by
    rw [tasksTable?, List.mapM_cons, isRow]
    rfl
  refine ⟨by decide +kernel, by decide +kernel, by decide +kernel, isRow, ?_,
    by decide +kernel, by decide +kernel, by decide +kernel, by decide +kernel⟩
  rw [isTable, Option.map_some, lines_unlines noBreaks]

end TaskQuery

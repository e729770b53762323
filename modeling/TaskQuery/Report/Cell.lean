/-
# Cells of a task table

What a table shows of a task's fields. A due date is told by its distance from
today; that needs the days on both sides of today, so on the first and on the last
day of the calendar there is no such text, and `dueCell?` says so by giving none.
-/

import TaskQuery.Calendar.Reading
import TaskQuery.Report.Style
import TaskQuery.Task.Basic
import TaskQuery.Text.Padding

namespace TaskQuery

open Text

/-- The styles of a priority. -/
def Priority.styles : Priority → List Style
  | highest => [.red, .bold]
  | high => [.red]
  | medium => [.yellow]
  | none => []
  | low | lowest => [.dimmed]

/-- A priority in a table, where having none shows as nothing. -/
def priorityCell (colors : Bool) (priority : Priority) : String :=
  if priority = .none then "" else styled colors priority.styles priority.text

/-- The styles of a status. -/
def Status.styles : Status → List Style
  | todo => []
  | inProgress => [.cyan]
  | done => [.green]
  | cancelled => [.dimmed]

/-- A status in a table. -/
def statusCell (colors : Bool) (status : Status) : String :=
  styled colors status.styles status.text

/-- The short name of a month, counted from March. -/
def monthName : (marchMonth : Nat) → String
  | 0 => "Mar"
  | 1 => "Apr"
  | 2 => "May"
  | 3 => "Jun"
  | 4 => "Jul"
  | 5 => "Aug"
  | 6 => "Sep"
  | 7 => "Oct"
  | 8 => "Nov"
  | 9 => "Dec"
  | 10 => "Jan"
  | _ => "Feb"

/-- A date by its month and the day in it. -/
def Date.shortText (date : Date) : String :=
  let (month, day) := date.marchMonthAndDay
  monthName month ++ " " ++ zeroPadded 2 day

/-- Where a date lies as seen from today. -/
inductive DueDay
  | today
  | tomorrow
  | yesterday
  | past (days : Nat)
  | later (date : Date)
  deriving DecidableEq, Repr

namespace DueDay

/-- Where a date lies as seen from today, if today has a day on both sides. -/
def of? (today date : Date) : Option DueDay := do
  let tomorrow ← today.next?
  let yesterday ← today.previous?
  return if date = today then .today
    else if date = tomorrow then .tomorrow
    else if date = yesterday then .yesterday
    else if date < today then .past (today.number - date.number).toNat
    else .later date

/-- The wording of a due date. -/
def text : DueDay → String
  | today => "Today"
  | tomorrow => "Tomorrow"
  | yesterday => "Yesterday"
  | past days => toString days ++ " days ago"
  | later date => date.shortText

/-- The styles of a due date. -/
def styles : DueDay → List Style
  | today => [.yellow]
  | yesterday | past _ => [.red]
  | tomorrow | later _ => []

end DueDay

/-- A due date in a table. A text that is no date is shown as it was written. -/
def dueCell? (colors : Bool) (today : Date) (due : Option String) : Option String :=
  match due with
  | none => some ""
  | some text =>
      match Date.ofField? text with
      | none => some text
      | some date => (DueDay.of? today date).map fun day => styled colors day.styles day.text

/-- Tags in a table, cut to a width. -/
def tagsCell (width : Nat) (tags : List String) : String :=
  truncate width (" ".intercalate tags)

end TaskQuery

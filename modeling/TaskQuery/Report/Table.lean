/-
# Task tables

Tasks one below the other, each on a line with its fields in columns, under a line
with the names of the columns. Grouped tasks stand in tables of their own, each
below its label and the number of its tasks.

Columns are padded with everything in them counted, codes for colours included. A
table can only be shown if the due dates in it can be told.
-/

import TaskQuery.Query.Grouping
import TaskQuery.Report.Cell

namespace TaskQuery

open Text

/-- The cells of a line. -/
structure TableRow where
  id : String
  priority : String
  status : String
  due : String
  tags : String
  description : String
  deriving DecidableEq, Repr

namespace TableRow

/-- The names of the columns. -/
def header : TableRow :=
  ⟨"ID", "Pri", "Status", "Due", "Tags", "Description"⟩

/-- A line of a table. The last column is not padded. -/
def text (row : TableRow) : String :=
  padRight 10 row.id ++ " " ++ padRight 8 row.priority ++ " " ++ padRight 12 row.status ++ " "
    ++ padRight 12 row.due ++ " " ++ padRight 18 row.tags ++ " " ++ row.description

/-- The cells of a task, if its due date can be told. -/
def ofTask? (colors : Bool) (today : Date) (task : Task) : Option TableRow := do
  return {
    id := truncate 10 task.id
    priority := priorityCell colors task.priority
    status := statusCell colors task.status
    due := ← dueCell? colors today task.due
    tags := tagsCell 18 task.tags
    description := task.description }

end TableRow

/-- What is shown instead of a table without lines. -/
def noTasksText : String := "No tasks found.\n"

/-- A table of tasks. -/
def tasksTable? (colors : Bool) (today : Date) (tasks : List Task) : Option String := do
  if tasks.isEmpty then return noTasksText
  let rows ← tasks.mapM (TableRow.ofTask? colors today)
  let lines := styled colors [.dimmed] TableRow.header.text :: rows.map TableRow.text
  return String.join (lines.map (· ++ "\n"))

/-- The line above the table of a group. -/
def TaskGroup.title (colors : Bool) (group : TaskGroup) : String :=
  styled colors [.bold] (group.label ++ " (" ++ toString group.tasks.length ++ ")") ++ "\n"

/-- A table for each group, with blank lines between them. -/
def groupsTable? (colors : Bool) (today : Date) (groups : List TaskGroup) : Option String := do
  if groups.isEmpty then return noTasksText
  let tables ← groups.mapM fun group => do
    return group.title colors ++ (← tasksTable? colors today group.tasks)
  return "\n".intercalate tables

end TaskQuery

/-
# Query results as JSON

The query in its normal form, how many tasks were found and the tasks themselves,
together or by group. What a task does not have is left out, and so are the problems
of a query without any.
-/

import TaskQuery.Query.Diagnostic
import TaskQuery.Query.Grouping
import TaskQuery.Task.Record

namespace TaskQuery

variable [Pattern.Wording]

/-- What a listing tells of a task. -/
def Task.listing (task : Task) : Json :=
  .object
    ([("id", .string task.id), ("description", .string task.description),
      ("status", .string task.status.text), ("priority", .string task.priority.text)]
    ++ Task.optionalMember "due" task.due
    ++ Task.listMember "tags" task.tags
    ++ (if task.path.isEmpty then [] else [("path", .string task.path)])
    ++ Task.listMember "depends_on" task.dependsOn)

/-- The number of some tasks and the tasks. -/
def tasksMembers (tasks : List Task) : List (String × Json) :=
  [("count", .ofNat tasks.length), ("tasks", .array (tasks.map Task.listing))]

/-- The wordings of problems. -/
def diagnosticTexts (diagnostics : List Diagnostic) : List String :=
  diagnostics.map Diagnostic.message

/-- A result that is not grouped. -/
def tasksListing (query : String) (tasks : List Task) (diagnostics : List Diagnostic) : Json :=
  .object
    ([("query", .string query)] ++ tasksMembers tasks
    ++ Task.listMember "diagnostics" (diagnosticTexts diagnostics))

/-- A group of a result. -/
def TaskGroup.listing (group : TaskGroup) : Json :=
  .object (("label", .string group.label) :: tasksMembers group.tasks)

/-- A grouped result. -/
def groupsListing (query : String) (groups : List TaskGroup) (diagnostics : List Diagnostic) :
    Json :=
  .object
    ([("query", .string query), ("groups", .array (groups.map TaskGroup.listing))]
    ++ Task.listMember "diagnostics" (diagnosticTexts diagnostics))

end TaskQuery

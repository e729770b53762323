/-
# Task records

The records that queries run against. A record has fourteen fields of its own; what
else a document says about a task is kept as its properties, each name once and
the names increasing.
-/

import TaskQuery.Json.Basic

namespace TaskQuery

/-- The fields of a task record. -/
def recordFields : List String :=
  ["id", "description", "status", "priority", "due", "scheduled", "start", "created", "done",
   "tags", "path", "dependency_id", "depends_on", "recurrence"]

/-- How far a task has come. -/
inductive Status
  | todo
  | inProgress
  | done
  | cancelled
  deriving DecidableEq, Repr

namespace Status

/-- The status as queries and records write it. -/
def text : Status → String
  | todo => "todo"
  | inProgress => "in-progress"
  | done => "done"
  | cancelled => "cancelled"

/-- Every status. -/
def all : List Status :=
  [todo, inProgress, done, cancelled]

/-- Whether nothing is left to do. A complete task blocks no other. -/
def isComplete : Status → Bool
  | done | cancelled => true
  | todo | inProgress => false

/-- The status that a word stands for. -/
def ofText? (word : String) : Option Status :=
  all.find? fun status => status.text == word

end Status

/-- How urgent a task is. -/
inductive Priority
  | highest
  | high
  | medium
  | none
  | low
  | lowest
  deriving DecidableEq, Repr

namespace Priority

/-- The priority as queries and records write it. -/
def text : Priority → String
  | highest => "highest"
  | high => "high"
  | medium => "medium"
  | none => "none"
  | low => "low"
  | lowest => "lowest"

/-- Every priority, the most urgent first. -/
def all : List Priority :=
  [highest, high, medium, none, low, lowest]

/-- The priority that a word stands for. -/
def ofText? (word : String) : Option Priority :=
  all.find? fun priority => priority.text == word

end Priority

/-- A task. Dates are kept as they were written, with or without a time of day.
Other tasks refer to this one in their `dependsOn` by `dependencyId` or by `id`. -/
structure Task where
  id : String
  description : String := ""
  status : Status := .todo
  priority : Priority := .none
  due : Option String := none
  scheduled : Option String := none
  start : Option String := none
  created : Option String := none
  done : Option String := none
  tags : List String := []
  path : String := ""
  dependencyId : Option String := none
  dependsOn : List String := []
  recurrence : Option String := none
  properties : List (String × Json) := []
  deriving Repr

/-- Whether a task is done or cancelled. -/
def Task.isComplete (task : Task) : Bool :=
  task.status.isComplete

end TaskQuery

/-
# Running queries

A query is run by filtering the tasks, then sorting what is left and then, if it
asks for that, grouping. A query that does not group has all its tasks in one group.
-/

import TaskQuery.Query.Evaluation
import TaskQuery.Query.Grouping
import TaskQuery.Query.Order

namespace TaskQuery.Query

/-- The tasks that a query finds, in its order. -/
def execute (query : Query) (setting : Setting) (tasks : List Task) : List Task :=
  setting.vocabulary.sortTasks query.sort ((Evaluator.of setting query.filter).kept tasks)

/-- Groups tasks as a query asks for. -/
def groupsOf (query : Query) (vocabulary : Vocabulary) (tasks : List Task) : TaskGroups :=
  match query.group with
  | some field => vocabulary.groupTasks field tasks
  | none => .single allLabel tasks

/-- The tasks that a query finds, in its order and its groups. -/
def executeGrouped (query : Query) (setting : Setting) (tasks : List Task) : TaskGroups :=
  query.groupsOf setting.vocabulary (query.execute setting tasks)

end TaskQuery.Query

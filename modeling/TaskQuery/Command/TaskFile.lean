/-
# Task files

A task file is a JSON document: an array of task records, or an object with such an
array under `tasks` and whatever else. A document of another shape is refused for
its shape also when text follows it.
-/

import TaskQuery.Json.Reader
import TaskQuery.Task.Record

namespace TaskQuery.TaskFile

/-- Why a text is no task file. -/
inductive Fault
  | malformed (fault : Json.Fault)
  | wrongShape
  deriving DecidableEq, Repr

/-- The wording of a fault. -/
def Fault.message : Fault → String
  | malformed fault => fault.message
  | wrongShape => "data did not match any variant of untagged enum TaskFile"

/-- The tasks of an array. -/
def ofItems? : Json → Option (List Task)
  | .array items => items.mapM Task.ofJson?
  | _ => none

/-- The tasks of a document. -/
def ofJson? : Json → Option (List Task)
  | .object members =>
      match members.filter fun member => member.1 == "tasks" with
      | [(_, items)] => ofItems? items
      | _ => none
  | value => ofItems? value

/-- Reads a task file. -/
def read (document : String) : Except Fault (List Task) :=
  match Json.readFront document with
  | .error fault => .error (.malformed fault)
  | .ok (value, rest) =>
      match ofJson? value with
      | none => .error .wrongShape
      | some tasks =>
          if rest.all Json.isJsonBlank then .ok tasks else .error (.malformed .trailingText)

end TaskQuery.TaskFile

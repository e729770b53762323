/-
# The values of fields

What a field of a task holds, the same for filtering, sorting and grouping. A name
that is not a field of the record is a path into the properties, one segment
between dots for each level. A path into a field of the record leads nowhere, also
where a property has the name.
-/

import TaskQuery.Task.Basic

namespace TaskQuery

/-- What a field holds: nothing, one text, or several. -/
inductive FieldValue
  | missing
  | text (value : String)
  | list (items : List String)
  deriving DecidableEq, Repr

namespace FieldValue

/-- Whether a field counts as absent: an empty text and an empty list do. -/
def isMissing : FieldValue → Bool
  | missing => true
  | text value => value.isEmpty
  | list items => items.isEmpty

/-- The value as one text, with commas between the items of a list. -/
def toText : FieldValue → String
  | missing => ""
  | text value => value
  | list items => ", ".intercalate items

/-- The value of a field that may be absent. -/
def ofOption : Option String → FieldValue
  | none => missing
  | some value => text value

/-- The text of a value that is neither null nor made of other values. -/
def scalarText? : Json → Option String
  | .string value => some value
  | .bool value => some (if value then "true" else "false")
  | .number value => some value.text
  | .null | .array _ | .object _ => none

/-- The value that a property stands for. Of an array only the scalars count. -/
def ofJson (value : Json) : FieldValue :=
  match value with
  | .array items => list (items.filterMap scalarText?)
  | _ => ofOption (scalarText? value)

end FieldValue

/-- The segments of a dotted name. -/
def pathSegments (name : String) : List String :=
  (name.toList.splitOn '.').map String.ofList

/-- Follows a path through nested objects. -/
def Json.follow? (value : Json) : List String → Option Json
  | [] => some value
  | name :: path => (value.get? name).bind fun inner => inner.follow? path

namespace Task

/-- The value of a field of the record. -/
def recordField? (task : Task) : String → Option FieldValue
  | "id" => some (.text task.id)
  | "description" => some (.text task.description)
  | "status" => some (.text task.status.text)
  | "priority" => some (.text task.priority.text)
  | "due" => some (.ofOption task.due)
  | "scheduled" => some (.ofOption task.scheduled)
  | "start" => some (.ofOption task.start)
  | "created" => some (.ofOption task.created)
  | "done" => some (.ofOption task.done)
  | "tags" => some (.list task.tags)
  | "path" => some (.text task.path)
  | "dependency_id" => some (.ofOption task.dependencyId)
  | "depends_on" => some (.list task.dependsOn)
  | "recurrence" => some (.ofOption task.recurrence)
  | _ => none

/-- The value at a path into the properties. -/
def property (task : Task) (path : List String) : FieldValue :=
  match path with
  | [] => .missing
  | first :: _ =>
      if recordFields.contains first then .missing
      else (((Json.object task.properties).follow? path).map FieldValue.ofJson).getD .missing

/-- The value of a field by its canonical name. -/
def fieldValue (task : Task) (canonical : String) : FieldValue :=
  match task.recordField? canonical with
  | some value => value
  | none => task.property (pathSegments canonical)

end Task

end TaskQuery

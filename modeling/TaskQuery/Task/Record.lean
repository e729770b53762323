/-
# Task records as JSON

A record is an object with a text for its `id`; every other field may be left out
and then has its default. Fields that may be absent are absent also when they are
null. A field occurs at most once, while of a repeated property the last value
counts. A record is written with its fields in a fixed order and with absent fields
and empty lists left out, so it reads back as the same record.
-/

import TaskQuery.Task.Basic

namespace TaskQuery

namespace Json

/-- The text that a value is. -/
def text? : Json → Option String
  | string value => some value
  | _ => none

/-- The items of the array that a value is. -/
def items? : Json → Option (List Json)
  | array items => some items
  | _ => none

/-- The texts of the array of texts that a value is. -/
def texts? (value : Json) : Option (List String) :=
  value.items?.bind fun items => items.mapM text?

/-- A text or null. -/
def optionalText? : Json → Option (Option String)
  | null => some none
  | string value => some (some value)
  | _ => none

/-- A choice between words: one of them, or an object with it as its only name and
nothing as its value. -/
def choice? (ofText? : String → Option α) : Json → Option α
  | string word => ofText? word
  | object [(word, null)] => ofText? word
  | _ => none

end Json

namespace Task

/-- Whether no field of a record occurs twice among the members of an object. -/
def fieldsOccurOnce (members : List (String × Json)) : Bool :=
  recordFields.all fun name => (members.filter fun member => member.1 == name).length ≤ 1

/-- Reads a field, which has a default when it is left out. -/
def readField (members : List (String × Json)) (name : String) (read : Json → Option α)
    (default : α) : Option α :=
  match members.lookup name with
  | some value => read value
  | none => some default

/-- The members that are not fields of a record, each name once and in order. -/
def propertiesOf (members : List (String × Json)) : List (String × Json) :=
  Json.sortMembers
    (Json.normalMembers (members.filter fun member => !recordFields.contains member.1))

/-- The task that the members of an object describe. -/
def ofMembers? (members : List (String × Json)) : Option Task := do
  guard (fieldsOccurOnce members)
  let text := fun name => readField members name Json.text? ""
  let optional := fun name => readField members name Json.optionalText? none
  let texts := fun name => readField members name Json.texts? []
  return {
    id := ← (members.lookup "id").bind Json.text?
    description := ← text "description"
    status := ← readField members "status" (Json.choice? Status.ofText?) .todo
    priority := ← readField members "priority" (Json.choice? Priority.ofText?) .none
    due := ← optional "due"
    scheduled := ← optional "scheduled"
    start := ← optional "start"
    created := ← optional "created"
    done := ← optional "done"
    tags := ← texts "tags"
    path := ← text "path"
    dependencyId := ← optional "dependency_id"
    dependsOn := ← texts "depends_on"
    recurrence := ← optional "recurrence"
    properties := propertiesOf members }

/-- The task that a value describes. -/
def ofJson? : Json → Option Task
  | .object members => ofMembers? members
  | _ => none

/-- A field that is left out when it is absent. -/
def optionalMember (name : String) (value : Option String) : List (String × Json) :=
  (value.map fun text => (name, Json.string text)).toList

/-- A field that is left out when its list is empty. -/
def listMember (name : String) (texts : List String) : List (String × Json) :=
  if texts.isEmpty then [] else [(name, Json.ofTexts texts)]

/-- A task as a record. -/
def json (task : Task) : Json :=
  .object
    ([("id", .string task.id), ("description", .string task.description),
      ("status", .string task.status.text), ("priority", .string task.priority.text)]
    ++ optionalMember "due" task.due
    ++ optionalMember "scheduled" task.scheduled
    ++ optionalMember "start" task.start
    ++ optionalMember "created" task.created
    ++ optionalMember "done" task.done
    ++ listMember "tags" task.tags
    ++ [("path", .string task.path)]
    ++ optionalMember "dependency_id" task.dependencyId
    ++ listMember "depends_on" task.dependsOn
    ++ optionalMember "recurrence" task.recurrence
    ++ task.properties)

end Task

end TaskQuery

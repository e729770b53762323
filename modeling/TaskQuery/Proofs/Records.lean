/-
# Task records read and written

Every field of a record has a policy: how it is read from what an object has under its name,
how it is written, and what becomes of what stood there when it is read and written again.
There are five policies: a text that has to be there, a text with a default, a text that may
be absent, a list and a choice between words. Each is checked once, reading what it writes and
writing what it read.

A record is the table of its fields, each with its policy. So what holds of every policy holds
of the record: it can be read from what it is written as, and the object it is read from and
the one it is written as differ in what the policies change, and in nothing else.
-/

import TaskQuery.Proofs.JsonMembers
import TaskQuery.Task.Record

namespace TaskQuery

open Json

/-! ## What is rewritten -/

namespace Json

/-- Nothing instead of null. -/
def dropNull : Option Json → Option Json
  | some null => none
  | given => given

/-- Nothing instead of an empty list. -/
def dropEmpty : Option Json → Option Json
  | some (array []) => none
  | given => given

/-- A choice as a plain word. -/
def plainChoice : Json → Json
  | object [(word, null)] => string word
  | given => given

end Json

/-- What a record is written with under a name, depending on what the object that it was read
from had there: nothing instead of null for a field that may be absent, nothing instead of an
empty list, a default where a text or a choice was left out, and choices as plain words.
Everything else is written as it was. -/
def Task.rewritten (name : String) (given : Option Json) : Option Json :=
  match name with
  | "description" | "path" => some (given.getD (.string ""))
  | "status" => some (plainChoice (given.getD (.string "todo")))
  | "priority" => some (plainChoice (given.getD (.string "none")))
  | "due" | "scheduled" | "start" | "created" | "done" | "dependency_id" | "recurrence" =>
      dropNull given
  | "tags" | "depends_on" => dropEmpty given
  | _ => given

/-! ## Policies -/

/-- How a field is read from what an object has under its name, how it is written, and what
becomes of what an object had there once it was read and is written. -/
structure FieldPolicy (α : Type) where
  read : Option Json → Option α
  write : α → Option Json
  rewrite : Option Json → Option Json
  read_write : ∀ value, read (write value) = some value
  write_of_read : ∀ {given value}, read given = some value →
    write value = rewrite (given.map normal)

namespace FieldPolicy

/-- A text that has to be there. -/
def required : FieldPolicy String where
  read given := given.bind text?
  write text := some (.string text)
  rewrite := id
  read_write _ := rfl
  write_of_read {given value} read := by
    obtain ⟨found, rfl, isText⟩ := Option.bind_eq_some_iff.mp read
    cases found <;> cases isText
    rfl

/-- A text that is empty where it is left out. -/
def text : FieldPolicy String where
  read given := given.elim (some "") text?
  write text := some (.string text)
  rewrite given := some (given.getD (.string ""))
  read_write _ := rfl
  write_of_read {given value} read := by
    cases given with
    | none =>
        cases read
        rfl
    | some found =>
        cases found <;> cases read
        rfl

/-- A text that may be absent. -/
def optional : FieldPolicy (Option String) where
  read given := given.elim (some none) optionalText?
  write text := text.map .string
  rewrite := dropNull
  read_write text := by cases text <;> rfl
  write_of_read {given value} read := by
    cases given with
    | none =>
        cases read
        rfl
    | some found => cases found <;> cases read <;> rfl

theorem mapM_text?_eq_some_iff {items : List Json} {texts : List String} :
    items.mapM text? = some texts ↔ items = texts.map .string := by
  induction items generalizing texts with
  | nil => cases texts <;> simp
  | cons item rest ih =>
      simp only [List.mapM_cons, Option.bind_eq_bind, Option.bind_eq_some_iff, ih,
        Option.pure_def, Option.some_inj]
      constructor
      · rintro ⟨first, isText, others, rfl, rfl⟩
        cases item <;> cases isText
        rfl
      · intro written
        cases texts with
        | nil => cases written
        | cons first others =>
            obtain ⟨rfl, rfl⟩ := List.cons.inj written
            exact ⟨first, rfl, others, rfl, rfl⟩

/-- A list of texts, which is left out where it is empty. -/
def list : FieldPolicy (List String) where
  read given := given.elim (some []) texts?
  write texts := if texts.isEmpty then none else some (ofTexts texts)
  rewrite := dropEmpty
  read_write texts := by
    cases texts with
    | nil => rfl
    | cons first others => exact mapM_text?_eq_some_iff.mpr rfl
  write_of_read {given value} read := by
    cases given with
    | none =>
        cases read
        rfl
    | some found =>
        obtain ⟨items, isList, areTexts⟩ := Option.bind_eq_some_iff.mp read
        cases found <;> cases isList
        obtain rfl := mapM_text?_eq_some_iff.mp areTexts
        have isNormal : (value.map Json.string).map normal = value.map Json.string := by
          rw [List.map_map]
          rfl
        rw [Option.map_some, normal, normalItems_eq_map, isNormal]
        cases value <;> rfl

/-- A choice between the words of some values, with a default where it is left out. -/
def choice {α : Type} (all : List α) (word : α → String) (ofText? : String → Option α)
    (default : α) (isFound : ∀ text, ofText? text = all.find? fun value => word value == text)
    (ofText?_word : ∀ value, ofText? (word value) = some value) : FieldPolicy α where
  read given := given.elim (some default) (choice? ofText?)
  write value := some (.string (word value))
  rewrite given := some (plainChoice (given.getD (.string (word default))))
  read_write value := ofText?_word value
  write_of_read {given value} read := by
    have word_eq {text : String} (found : ofText? text = some value) : word value = text := by
      rw [isFound] at found
      have isWord := List.find?_some found
      exact beq_iff_eq.mp isWord
    cases given with
    | none =>
        cases read
        rfl
    | some found =>
        change choice? ofText? found = some value at read
        rw [choice?.eq_def] at read
        split at read
        · rw [word_eq read]
          rfl
        · rw [word_eq read]
          rfl
        · cases read

end FieldPolicy

theorem Status.ofText?_text (status : Status) : ofText? status.text = some status := by
  cases status <;> decide

theorem Priority.ofText?_text (priority : Priority) : ofText? priority.text = some priority := by
  cases priority <;> decide

/-! ## The table of fields -/

/-- A field of a record: its name, its policy and where the record keeps it. -/
structure RecordField where
  name : String
  {α : Type}
  policy : FieldPolicy α
  get : Task → α

namespace RecordField

/-- The fields of a record, in the order in which they are written. -/
def table : List RecordField :=
  let status := FieldPolicy.choice Status.all Status.text Status.ofText? .todo (fun _ => rfl)
    Status.ofText?_text
  let priority := FieldPolicy.choice Priority.all Priority.text Priority.ofText? .none
    (fun _ => rfl) Priority.ofText?_text
  [⟨"id", .required, Task.id⟩, ⟨"description", .text, Task.description⟩,
   ⟨"status", status, Task.status⟩, ⟨"priority", priority, Task.priority⟩,
   ⟨"due", .optional, Task.due⟩, ⟨"scheduled", .optional, Task.scheduled⟩,
   ⟨"start", .optional, Task.start⟩, ⟨"created", .optional, Task.created⟩,
   ⟨"done", .optional, Task.done⟩, ⟨"tags", .list, Task.tags⟩, ⟨"path", .text, Task.path⟩,
   ⟨"dependency_id", .optional, Task.dependencyId⟩, ⟨"depends_on", .list, Task.dependsOn⟩,
   ⟨"recurrence", .optional, Task.recurrence⟩]

theorem names_table : table.map name = recordFields :=
  rfl

/-- What a field is written as: one member or none. -/
def written (task : Task) (field : RecordField) : List (String × Json) :=
  ((field.policy.write (field.get task)).map fun value => (field.name, value)).toList

variable {fields : List RecordField} {field : RecordField}

theorem lookup_written (task : Task) (field : RecordField) (key : String) :
    (field.written task).lookup key =
      if key = field.name then field.policy.write (field.get task) else none := by
  rw [written]
  cases field.policy.write (field.get task) with
  | none => simp
  | some value => exact lookup_cons_ite key (field.name, value) []

theorem lookup_flatMap_written_of_not_mem (task : Task) {key : String}
    (noField : key ∉ fields.map name) : (fields.flatMap (written task)).lookup key = none := by
  induction fields with
  | nil => rfl
  | cons first rest ih =>
      obtain ⟨notFirst, notRest⟩ := not_or.mp (mt List.mem_cons.mpr noField)
      rw [List.flatMap_cons, List.lookup_append, lookup_written, if_neg notFirst, Option.none_or,
        ih notRest]

/-- Under the name of a field stands what the field is written as. -/
theorem lookup_flatMap_written (task : Task) (distinct : (fields.map name).Nodup)
    (isField : field ∈ fields) :
    (fields.flatMap (written task)).lookup field.name = field.policy.write (field.get task) := by
  induction fields with
  | nil => cases isField
  | cons first rest ih =>
      obtain ⟨notBehind, restDistinct⟩ := List.nodup_cons.mp distinct
      rw [List.flatMap_cons, List.lookup_append, lookup_written]
      rcases List.mem_cons.mp isField with rfl | behind
      · rw [if_pos rfl, lookup_flatMap_written_of_not_mem task notBehind, Option.or_none]
      · have different : field.name ≠ first.name := fun same =>
          notBehind (same ▸ List.mem_map_of_mem behind)
        rw [if_neg different, Option.none_or, ih restDistinct behind]

theorem names_flatMap_written_sublist (task : Task) (fields : List RecordField) :
    ((fields.flatMap (written task)).map Prod.fst).Sublist (fields.map name) := by
  induction fields with
  | nil => exact List.Sublist.refl []
  | cons first rest ih =>
      have head : ((first.written task).map Prod.fst).Sublist [first.name] := by
        rw [written]
        cases first.policy.write (first.get task) with
        | none => exact List.nil_sublist _
        | some value => exact List.Sublist.refl _
      rw [List.flatMap_cons, List.map_append, List.map_cons]
      exact head.append ih

end RecordField

namespace Task

variable {task : Task} {members : List (String × Json)}

theorem readField_eq {α : Type} (name : String) (read : Json → Option α) (default : α) :
    readField members name read default = (members.lookup name).elim (some default) read := by
  rw [readField.eq_def]
  cases members.lookup name <;> rfl

/-- A record is read field by field. -/
theorem ofMembers?_eq_some_iff :
    ofMembers? members = some task ↔ fieldsOccurOnce members = true ∧
      (∀ field ∈ RecordField.table,
        field.policy.read (members.lookup field.name) = some (field.get task)) ∧
      propertiesOf members = task.properties := by
  simp only [RecordField.table, List.forall_mem_cons, FieldPolicy.required, FieldPolicy.text,
    FieldPolicy.choice, FieldPolicy.optional, FieldPolicy.list]
  constructor
  · intro read
    obtain ⟨_, guarded, read⟩ := Option.bind_eq_some_iff.mp read
    simp only [readField_eq] at read
    obtain ⟨id, isId, read⟩ := Option.bind_eq_some_iff.mp read
    obtain ⟨description, isDescription, read⟩ := Option.bind_eq_some_iff.mp read
    obtain ⟨status, isStatus, read⟩ := Option.bind_eq_some_iff.mp read
    obtain ⟨priority, isPriority, read⟩ := Option.bind_eq_some_iff.mp read
    obtain ⟨due, isDue, read⟩ := Option.bind_eq_some_iff.mp read
    obtain ⟨scheduled, isScheduled, read⟩ := Option.bind_eq_some_iff.mp read
    obtain ⟨start, isStart, read⟩ := Option.bind_eq_some_iff.mp read
    obtain ⟨created, isCreated, read⟩ := Option.bind_eq_some_iff.mp read
    obtain ⟨done, isDone, read⟩ := Option.bind_eq_some_iff.mp read
    obtain ⟨tags, areTags, read⟩ := Option.bind_eq_some_iff.mp read
    obtain ⟨path, isPath, read⟩ := Option.bind_eq_some_iff.mp read
    obtain ⟨dependencyId, isDependencyId, read⟩ := Option.bind_eq_some_iff.mp read
    obtain ⟨dependsOn, areTargets, read⟩ := Option.bind_eq_some_iff.mp read
    obtain ⟨recurrence, isRecurrence, read⟩ := Option.bind_eq_some_iff.mp read
    obtain rfl := Option.some.inj read
    have once : fieldsOccurOnce members = true := by
      by_contra twice
      have failed : none = some _ := (if_neg twice).symm.trans guarded
      cases failed
    exact ⟨once, ⟨isId, isDescription, isStatus, isPriority, isDue, isScheduled, isStart,
      isCreated, isDone, areTags, isPath, isDependencyId, areTargets, isRecurrence, by simp⟩, rfl⟩
  · rintro ⟨once, ⟨isId, isDescription, isStatus, isPriority, isDue, isScheduled, isStart,
      isCreated, isDone, areTags, isPath, isDependencyId, areTargets, isRecurrence, -⟩, rest⟩
    refine Option.bind_eq_some_iff.mpr ⟨(), if_pos once, ?_⟩
    simp only [readField_eq, isId, isDescription, isStatus, isPriority, isDue, isScheduled,
      isStart, isCreated, isDone, areTags, isPath, isDependencyId, areTargets, isRecurrence, rest]
    rfl

/-- The members that a task is written with. -/
def writtenMembers (task : Task) : List (String × Json) :=
  RecordField.table.flatMap (RecordField.written task) ++ task.properties

/-- A record is written field by field. -/
theorem json_eq (task : Task) : task.json = .object task.writtenMembers := by
  have optionals (name : String) (value : Option String) : optionalMember name value =
      ((FieldPolicy.optional.write value).map fun value => (name, value)).toList := by
    cases value <;> rfl
  have lists (name : String) (texts : List String) : listMember name texts =
      ((FieldPolicy.list.write texts).map fun value => (name, value)).toList := by
    cases texts <;> rfl
  simp only [json, writtenMembers, RecordField.table, RecordField.written, List.flatMap_cons,
    List.flatMap_nil, optionals, lists, List.append_assoc, List.cons_append, List.nil_append]
  rfl

theorem rewritten_of_not_mem {name : String} (noField : name ∉ recordFields)
    (given : Option Json) : rewritten name given = given := by
  rw [rewritten.eq_def]
  split
  all_goals first | rfl | exact absurd (by decide) noField

theorem rewritten_eq_rewrite :
    ∀ field ∈ RecordField.table, rewritten field.name = field.policy.rewrite := by
  simp only [RecordField.table, List.forall_mem_cons]
  exact ⟨rfl, rfl, rfl, rfl, rfl, rfl, rfl, rfl, rfl, rfl, rfl, rfl, rfl, rfl, by simp⟩

/-- The properties of a task are not fields of the record, and they are in normal form. -/
structure IsProper (task : Task) : Prop where
  increasing : Increasing task.properties
  normal : normalMembers task.properties = task.properties
  foreign : ∀ property ∈ task.properties, property.1 ∉ recordFields

namespace IsProper

theorem lookup_properties_of_field (proper : task.IsProper) {name : String}
    (isField : name ∈ recordFields) : task.properties.lookup name = none := by
  refine List.lookup_eq_none_iff.mpr fun property isProperty => ?_
  rw [bne_iff_ne]
  exact fun same => proper.foreign property isProperty (same ▸ isField)

theorem propertiesOf_eq (proper : task.IsProper) :
    propertiesOf task.properties = task.properties := by
  have kept : task.properties.filter (fun member => !recordFields.contains member.1) =
      task.properties := by
    refine List.filter_eq_self.mpr fun property isProperty => ?_
    simpa using proper.foreign property isProperty
  rw [propertiesOf, kept, proper.normal, sortMembers_of_increasing proper.increasing]

end IsProper

theorem lookup_writtenMembers_of_field (proper : task.IsProper) {field : RecordField}
    (isField : field ∈ RecordField.table) :
    task.writtenMembers.lookup field.name = field.policy.write (field.get task) := by
  have isName : field.name ∈ recordFields :=
    RecordField.names_table ▸ List.mem_map_of_mem isField
  rw [writtenMembers, List.lookup_append, proper.lookup_properties_of_field isName, Option.or_none]
  exact RecordField.lookup_flatMap_written task (by decide) isField

theorem lookup_writtenMembers_of_not_mem {name : String} (noField : name ∉ recordFields) :
    task.writtenMembers.lookup name = task.properties.lookup name := by
  rw [writtenMembers, List.lookup_append,
    RecordField.lookup_flatMap_written_of_not_mem task noField, Option.none_or]

theorem nodup_names_writtenMembers (proper : task.IsProper) :
    (task.writtenMembers.map Prod.fst).Nodup := by
  have ofFields := RecordField.names_flatMap_written_sublist task RecordField.table
  rw [RecordField.names_table] at ofFields
  have distinct : recordFields.Nodup := by decide
  rw [writtenMembers, List.map_append, List.nodup_append]
  refine ⟨distinct.sublist ofFields, proper.increasing.nodup_names, ?_⟩
  rintro name isField other isOther rfl
  obtain ⟨property, isProperty, rfl⟩ := List.mem_map.mp isOther
  exact proper.foreign property isProperty (ofFields.subset isField)

theorem propertiesOf_writtenMembers (proper : task.IsProper) :
    propertiesOf task.writtenMembers = task.properties := by
  have dropped : (RecordField.table.flatMap (RecordField.written task)).filter
      (fun member => !recordFields.contains member.1) = [] := by
    refine List.filter_eq_nil_iff.mpr fun member isMember => ?_
    have isName : member.1 ∈ recordFields :=
      (RecordField.names_flatMap_written_sublist task RecordField.table).subset
        (List.mem_map_of_mem isMember)
    simpa using isName
  rw [propertiesOf, writtenMembers, List.filter_append, dropped, List.nil_append]
  exact proper.propertiesOf_eq

/-- A task whose properties are in order is read back from what it is written as. -/
theorem ofJson?_json (proper : task.IsProper) : ofJson? task.json = some task := by
  rw [json_eq]
  change ofMembers? task.writtenMembers = some task
  refine ofMembers?_eq_some_iff.mpr
    ⟨?_, fun field isField => ?_, propertiesOf_writtenMembers proper⟩
  · refine List.all_eq_true.mpr fun name _ => decide_eq_true ?_
    exact length_filter_name_le_one (nodup_names_writtenMembers proper) name
  · rw [lookup_writtenMembers_of_field proper isField, field.policy.read_write]

/-! ## Records that were read -/

theorem propertiesOf_eq_filter (members : List (String × Json)) :
    propertiesOf members = (sortMembers (normalMembers members)).filter fun member =>
      !recordFields.contains member.1 := by
  rw [propertiesOf, filter_sortMembers (fun name => !recordFields.contains name),
    normalMembers_eq_map, normalMembers_eq_map, List.filter_map]
  rfl

theorem isProper_of_ofMembers? (read : ofMembers? members = some task) : task.IsProper := by
  obtain ⟨-, -, properties⟩ := ofMembers?_eq_some_iff.mp read
  refine ⟨?_, ?_, fun property isProperty => ?_⟩
  · exact properties ▸ increasing_sortMembers _
  · rw [← properties, propertiesOf, normalMembers_eq_map, map_sortMembers, ← normalMembers_eq_map,
      normalMembers_normalMembers]
  · rw [← properties, propertiesOf_eq_filter] at isProperty
    simpa using (List.mem_filter.mp isProperty).2

/-- What is written under a name is what the last value of the name comes to. -/
theorem lookup_writtenMembers_of_ofMembers? (read : ofMembers? members = some task)
    (name : String) : task.writtenMembers.lookup name =
      rewritten name ((members.reverse.lookup name).map Json.normal) := by
  have proper := isProper_of_ofMembers? read
  obtain ⟨once, fields, properties⟩ := ofMembers?_eq_some_iff.mp read
  by_cases isName : name ∈ recordFields
  · obtain ⟨field, isField, rfl⟩ := List.mem_map.mp (RecordField.names_table ▸ isName)
    have same : members.reverse.lookup field.name = members.lookup field.name :=
      lookup_reverse_of_once (of_decide_eq_true (List.all_eq_true.mp once field.name isName))
    rw [lookup_writtenMembers_of_field proper isField, rewritten_eq_rewrite field isField, same,
      field.policy.write_of_read (fields field isField)]
  · have kept : (!recordFields.contains name) = true := by simpa using isName
    rw [lookup_writtenMembers_of_not_mem isName, rewritten_of_not_mem isName, ← properties,
      propertiesOf_eq_filter, lookup_filter_name fun name => !recordFields.contains name,
      if_pos kept, lookup_sortMembers, normalMembers_eq_map, ← List.map_reverse, lookup_map_value]

/-- A record survives being read and written. What a task is written as is read as the same
task. Its properties are all members of the object that it was read from, taken in normal
form, whose names are no fields of a record, with their values as they were. And the object
that is written has each name once, and under every name what was there before, except that
nulls and empty lists are dropped, defaults filled in and choices written as plain words. -/
theorem ofJson?_json_and_get?_json {value : Json} (read : ofJson? value = some task) :
    ofJson? task.json = some task ∧
    (∃ members, value.normal = .object members ∧
      task.properties = members.filter fun member => !recordFields.contains member.1) ∧
    (∃ members, task.json = .object members ∧ (members.map Prod.fst).Nodup) ∧
    ∀ name, task.json.get? name = rewritten name (value.normal.get? name) := by
  cases value with
  | object members =>
      have proper := isProper_of_ofMembers? read
      refine ⟨ofJson?_json proper, ⟨_, rfl, ?_⟩, ⟨_, json_eq task, ?_⟩, fun name => ?_⟩
      · rw [← propertiesOf_eq_filter]
        exact (ofMembers?_eq_some_iff.mp read).2.2.symm
      · exact nodup_names_writtenMembers proper
      · rw [json_eq, get?_normal_object]
        exact lookup_writtenMembers_of_ofMembers? read name
  | null | bool | number | string | array => cases read

/-- A document with a choice that is no plain word, a null, an empty list, fields that are left
out, and a property that occurs twice and is not in normal form. -/
theorem ofJson?_json_and_get?_json_size :
    let value : Json := .object
      [("size", .bool true), ("status", .object [("done", .null)]), ("id", .string "a"),
       ("due", .null), ("tags", .array []), ("depends_on", .array [.string "b"]),
       ("size", .object [("unit", .string "h"), ("count", .ofNat 2)])]
    let task : Task :=
      { id := "a", status := .done, dependsOn := ["b"],
        properties := [("size", .object [("count", .ofNat 2), ("unit", .string "h")])] }
    ofJson? value = some task ∧ ofJson? task.json = some task ∧
    (∃ members, value.normal = .object members ∧
      task.properties = members.filter fun member => !recordFields.contains member.1) ∧
    (∃ members, task.json = .object members ∧ (members.map Prod.fst).Nodup) ∧
    ∀ name, task.json.get? name = rewritten name (value.normal.get? name) := by
  intro value task
  have read : ofJson? value = some task := by rfl
  exact ⟨read, ofJson?_json_and_get?_json read⟩

end Task

end TaskQuery

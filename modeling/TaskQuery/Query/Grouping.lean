/-
# Grouping tasks

Tasks are grouped by the values of a field. A task with several values stands in the
group of each of them, once, and a task without any in a group of its own kind,
whose label a value may also have. Groups come in the order in which their labels
were first met, and tasks within a group in the order in which they came.

A group is found by its label in an index, which leads to the place of the group in
the order. The index cannot get out of step with the groups: that it has every label
at its place, and nothing else, belongs to what groups are.
-/

import TaskQuery.Query.Vocabulary

namespace TaskQuery

/-- The label of the group for tasks without a value. -/
def noneLabel : String := "(none)"

/-- The label of the one group of a query that does not group. -/
def allLabel : String := "all"

/-- Tasks under a label. -/
structure TaskGroup where
  label : String
  tasks : List Task
  deriving Repr

/-- Puts a task behind the tasks of a group. -/
def TaskGroup.add (group : TaskGroup) (task : Task) : TaskGroup :=
  { group with tasks := group.tasks ++ [task] }

/-- Groups in the order in which they were opened, and an index that has each label
with the place of its group. -/
structure TaskGroups where
  groups : List TaskGroup
  index : List (String × Nat)
  indexed : ∀ label position, index.lookup label = some position ↔
    groups[position]?.map TaskGroup.label = some label
  deriving Repr

namespace TaskGroups

/-- Behind other groups a group has the next place and no other. -/
theorem label_concat_iff {groups : List TaskGroup} {group : TaskGroup} {label : String}
    {position : Nat} :
    (groups ++ [group])[position]?.map TaskGroup.label = some label ↔
      groups[position]?.map TaskGroup.label = some label ∨
        groups.length = position ∧ group.label = label := by
  rcases Nat.lt_trichotomy position groups.length with inside | rfl | behind
  · rw [List.getElem?_append_left inside]
    simp [Nat.ne_of_gt inside]
  · simp
  · have pastEnd : (groups ++ [group]).length ≤ position := by
      rw [List.length_append]
      exact behind
    rw [List.getElem?_eq_none pastEnd, List.getElem?_eq_none (Nat.le_of_lt behind)]
    simp [Nat.ne_of_lt behind]

/-- A new entry of an index is found besides the entries that there were. -/
theorem lookup_cons_iff {index : List (String × Nat)} {label other : String} {place position : Nat}
    (fresh : index.lookup label = none) :
    ((label, place) :: index).lookup other = some position ↔
      index.lookup other = some position ∨ place = position ∧ label = other := by
  by_cases same : label = other
  · subst same
    rw [List.lookup_cons_self, fresh]
    simp
  · rw [List.lookup_cons, beq_eq_false_iff_ne.mpr (Ne.symm same)]
    simp [same]

/-- No groups. -/
def empty : TaskGroups where
  groups := []
  index := []
  indexed _ _ := by simp

/-- One group of all tasks. -/
def single (label : String) (tasks : List Task) : TaskGroups where
  groups := [⟨label, tasks⟩]
  index := [(label, 0)]
  indexed other position := by
    rw [lookup_cons_iff rfl, ← List.nil_append [_], label_concat_iff]
    simp

/-- Puts a task behind those of the group at a place. -/
def addAt (groups : TaskGroups) (position : Nat) (task : Task) : TaskGroups where
  groups := groups.groups.modify position fun group => group.add task
  index := groups.index
  indexed label place := by
    rw [groups.indexed, List.getElem?_modify]
    cases groups.groups[place]? with
    | none => rfl
    | some group => by_cases here : position = place <;> simp [here, TaskGroup.add]

/-- Opens a group for a task at the end, under a label that no group has. -/
def openAtEnd (groups : TaskGroups) (label : String) (task : Task)
    (fresh : groups.index.lookup label = none) : TaskGroups where
  groups := groups.groups ++ [⟨label, [task]⟩]
  index := (label, groups.groups.length) :: groups.index
  indexed other position := by
    rw [lookup_cons_iff fresh, label_concat_iff, groups.indexed]

/-- Puts a task into the group with a label, which is opened at the end if there is
none. -/
def push (groups : TaskGroups) (label : String) (task : Task) : TaskGroups :=
  match found : groups.index.lookup label with
  | some position => groups.addAt position task
  | none => groups.openAtEnd label task found

/-- Puts a task into the groups with some labels. -/
def pushAll (groups : TaskGroups) (labels : List String) (task : Task) : TaskGroups :=
  labels.foldl (fun groups label => groups.push label task) groups

/-- The labels of the groups, in their order. -/
def labels (groups : TaskGroups) : List String :=
  groups.groups.map TaskGroup.label

/-- What is made of each group, in their order. -/
def map {α : Type} (make : TaskGroup → α) (groups : TaskGroups) : List α :=
  groups.groups.map make

/-- The number of groups. -/
def length (groups : TaskGroups) : Nat :=
  groups.groups.length

/-- Whether there are no groups. -/
def isEmpty (groups : TaskGroups) : Bool :=
  groups.groups.isEmpty

end TaskGroups

/-- The tasks of the group with a label, which the index leads to. -/
def TaskGroup.tasksOf? (groups : TaskGroups) (label : String) : Option (List Task) := do
  let position ← groups.index.lookup label
  let group ← groups.groups[position]?
  return group.tasks

/-- The distinct texts of a field that are not empty, in order. -/
def FieldValue.labels : FieldValue → List String
  | missing => []
  | text value => if value.isEmpty then [] else [value]
  | list items => (items.filter fun item => !item.isEmpty).eraseDups

/-- The labels of the groups that a task with a value belongs to. -/
def FieldValue.groupLabels (value : FieldValue) : List String :=
  if value.labels.isEmpty then [noneLabel] else value.labels

/-- Tasks grouped by a field. -/
def Vocabulary.groupTasks (vocabulary : Vocabulary) (field : String) (tasks : List Task) :
    TaskGroups :=
  tasks.foldl
    (fun groups task => groups.pushAll (vocabulary.resolve task field).groupLabels task) .empty

end TaskQuery

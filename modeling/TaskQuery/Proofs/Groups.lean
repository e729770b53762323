/-
# Groups of tasks

Grouping loses nothing and invents nothing. Every text of a field that is not empty
is a label of its task, and a task without such a text has the one label for these. A
group is opened when its label is first met, and from then on every task with the
label goes to its end, once, even where a list has the text several times.

What holds of all groups at once is shown for one task and one label more at a time:
the groups are always those of the labels met so far. That the index leads to them is
part of their type.

The label for tasks without a value may also be a text of a field. Such tasks stand in
one group with those that have no value, and nothing here tells them apart.
-/

import Mathlib.Data.List.Induction
import Mathlib.Data.List.Nodup
import TaskQuery.Proofs.SortOrder
import TaskQuery.Query.Grouping

namespace TaskQuery

/-! ## Labels -/

namespace FieldValue

/-- A text that a value has, which is not empty. -/
inductive HasText : FieldValue → String → Prop
  | text {label : String} (nonempty : label ≠ "") : HasText (.text label) label
  | item {items : List String} {label : String} (isItem : label ∈ items)
      (nonempty : label ≠ "") : HasText (.list items) label

/-- The labels of a value are its texts, or the one for values without any. -/
inductive HasLabel (value : FieldValue) : String → Prop
  | text {label : String} (has : value.HasText label) : HasLabel value label
  | none (without : ∀ label, ¬ value.HasText label) : HasLabel value noneLabel

theorem mem_labels_iff {value : FieldValue} {label : String} :
    label ∈ value.labels ↔ value.HasText label := by
  constructor
  · intro member
    cases value with
    | missing => cases member
    | text value =>
        rw [labels] at member
        split at member
        · cases member
        · rename_i nonempty
          obtain rfl := List.mem_singleton.mp member
          exact .text (by simpa using nonempty)
    | list items =>
        obtain ⟨isItem, nonempty⟩ := List.mem_filter.mp (List.mem_eraseDups.mp member)
        exact .item isItem (by simpa using nonempty)
  · rintro (nonempty | ⟨isItem, nonempty⟩)
    · simp [labels, nonempty]
    · exact List.mem_eraseDups.mpr (List.mem_filter.mpr ⟨isItem, by simpa using nonempty⟩)

theorem nodup_labels (value : FieldValue) : value.labels.Nodup := by
  cases value with
  | missing => exact List.nodup_nil
  | text value =>
      rw [labels]
      split
      · exact List.nodup_nil
      · exact List.nodup_singleton value
  | list items => exact nodup_eraseDups _

theorem mem_groupLabels_iff {value : FieldValue} {label : String} :
    label ∈ value.groupLabels ↔ value.HasLabel label := by
  rw [groupLabels]
  split
  · rename_i none
    have without (label : String) : ¬ value.HasText label := fun has => by
      have member := mem_labels_iff.mpr has
      rw [List.isEmpty_iff.mp none] at member
      cases member
    constructor
    · intro member
      obtain rfl := List.mem_singleton.mp member
      exact .none without
    · rintro (has | -)
      · exact absurd has (without label)
      · exact List.mem_singleton.mpr rfl
  · rename_i some
    constructor
    · exact fun member => .text (mem_labels_iff.mp member)
    · rintro (has | without)
      · exact mem_labels_iff.mpr has
      · refine absurd ?_ some
        exact List.isEmpty_iff.mpr (List.eq_nil_iff_forall_not_mem.mpr fun label member =>
          without label (mem_labels_iff.mp member))

theorem nodup_groupLabels (value : FieldValue) : value.groupLabels.Nodup := by
  rw [groupLabels]
  split
  · exact List.nodup_singleton noneLabel
  · exact value.nodup_labels

/-- Every value has a label. -/
theorem exists_hasLabel (value : FieldValue) : ∃ label, value.HasLabel label := by
  by_cases has : ∃ label, value.HasText label
  · obtain ⟨label, has⟩ := has
    exact ⟨label, .text has⟩
  · exact ⟨noneLabel, .none (not_exists.mp has)⟩

instance (value : FieldValue) (label : String) : Decidable (value.HasLabel label) :=
  decidable_of_iff _ mem_groupLabels_iff

end FieldValue

/-! ## Finding groups -/

namespace TaskGroups

variable {groups : TaskGroups} {group : TaskGroup} {label : String}

theorem lookup_of_getElem? {position : Nat} (found : groups.groups[position]? = some group) :
    groups.index.lookup group.label = some position :=
  (groups.indexed group.label position).mpr (congrArg (Option.map TaskGroup.label) found)

/-- The index leads to every group. -/
theorem tasksOf?_label (member : group ∈ groups.groups) :
    TaskGroup.tasksOf? groups group.label = some group.tasks := by
  obtain ⟨position, found⟩ := List.mem_iff_getElem?.mp member
  simp [TaskGroup.tasksOf?, lookup_of_getElem? found, found]

theorem mem_labels_iff_lookup :
    label ∈ groups.labels ↔ ∃ position, groups.index.lookup label = some position := by
  simp only [groups.indexed, labels, List.mem_iff_getElem?, List.getElem?_map]

/-- The index leads nowhere from a label that no group has. -/
theorem tasksOf?_of_not_mem (unused : label ∉ groups.labels) :
    TaskGroup.tasksOf? groups label = none := by
  rw [mem_labels_iff_lookup, not_exists] at unused
  simp [TaskGroup.tasksOf?, Option.eq_none_iff_forall_ne_some.mpr unused]

/-- No label is that of two groups. -/
theorem nodup_labels (groups : TaskGroups) : groups.labels.Nodup := by
  refine List.nodup_iff_getElem?_ne_getElem?.mpr fun first second before inside same => ?_
  have isLabel : groups.groups[second]?.map TaskGroup.label = some groups.labels[second] := by
    rw [← List.getElem?_map]
    exact List.getElem?_eq_getElem inside
  have again : groups.groups[first]?.map TaskGroup.label = some groups.labels[second] := by
    rw [← isLabel, ← List.getElem?_map, ← List.getElem?_map]
    exact same
  have one := ((groups.indexed _ first).mpr again).symm.trans
    ((groups.indexed _ second).mpr isLabel)
  exact Nat.ne_of_lt before (Option.some.inj one)

/-! ## Groups of entries -/

/-- A task with one of its labels. -/
abbrev LabelledTask : Type :=
  String × Task

/-- The tasks that have a label among some entries. -/
def tasksUnder (entries : List LabelledTask) (label : String) : List Task :=
  (entries.filter fun entry => entry.1 == label).map Prod.snd

/-- The groups of some entries: one for each label, in the order of their first entries. -/
def groupsOfEntries (entries : List LabelledTask) : List TaskGroup :=
  (entries.map Prod.fst).eraseDups.map fun label => ⟨label, tasksUnder entries label⟩

theorem tasksUnder_concat (entries : List LabelledTask) (label other : String) (task : Task) :
    tasksUnder (entries ++ [(label, task)]) other =
      if label = other then tasksUnder entries other ++ [task] else tasksUnder entries other := by
  by_cases same : label = other <;> simp [tasksUnder, List.filter_append, same]

theorem tasksUnder_append (first second : List LabelledTask) (label : String) :
    tasksUnder (first ++ second) label = tasksUnder first label ++ tasksUnder second label := by
  simp [tasksUnder]

theorem labels_of_groups_eq {entries : List LabelledTask}
    (isGrouped : groups.groups = groupsOfEntries entries) :
    groups.labels = (entries.map Prod.fst).eraseDups := by
  rw [labels, isGrouped, groupsOfEntries, List.map_map]
  exact List.map_id _

/-- Only the group with the label that led to its place gets another task. -/
theorem groups_addAt {position : Nat} (found : groups.index.lookup label = some position)
    (task : Task) :
    (groups.addAt position task).groups =
      groups.groups.map fun group => if group.label = label then group.add task else group := by
  refine List.ext_getElem? fun place => ?_
  rw [addAt, List.getElem?_modify, List.getElem?_map]
  cases isGroup : groups.groups[place]? with
  | none => rfl
  | some group =>
      have here : position = place ↔ group.label = label := by
        have place := groups.indexed label place
        rw [found, isGroup] at place
        simpa using place
      exact congrArg some (if_congr here rfl rfl)

/-- A task with a label that was met before goes to the end of the group with the label. -/
theorem groups_addAt_of_grouped {entries : List LabelledTask} {position : Nat}
    (isGrouped : groups.groups = groupsOfEntries entries)
    (found : groups.index.lookup label = some position) (task : Task) :
    (groups.addAt position task).groups = groupsOfEntries (entries ++ [(label, task)]) := by
  have met : label ∈ entries.map Prod.fst := by
    rw [← List.mem_eraseDups, ← labels_of_groups_eq isGrouped]
    exact mem_labels_iff_lookup.mpr ⟨position, found⟩
  have sameLabels : ((entries ++ [(label, task)]).map Prod.fst).eraseDups =
      (entries.map Prod.fst).eraseDups := by
    simp [List.eraseDups_append, List.removeAll, met]
  rw [groups_addAt found, isGrouped, groupsOfEntries, groupsOfEntries, sameLabels, List.map_map]
  refine List.map_congr_left fun other _ => ?_
  rw [tasksUnder_concat, Function.comp_apply]
  by_cases same : label = other
  · simp [same, TaskGroup.add]
  · simp [same, Ne.symm same]

/-- A task with a label that was not met before gets a group at the end. -/
theorem groups_openAtEnd_of_grouped {entries : List LabelledTask}
    (isGrouped : groups.groups = groupsOfEntries entries)
    (fresh : groups.index.lookup label = none) (task : Task) :
    (groups.openAtEnd label task fresh).groups = groupsOfEntries (entries ++ [(label, task)]) := by
  have unmet : label ∉ entries.map Prod.fst := by
    rw [← List.mem_eraseDups, ← labels_of_groups_eq isGrouped, mem_labels_iff_lookup, fresh]
    simp
  have oneMore : ((entries ++ [(label, task)]).map Prod.fst).eraseDups =
      (entries.map Prod.fst).eraseDups ++ [label] := by
    simp [List.eraseDups_append, List.removeAll, unmet, List.eraseDups_cons]
  have opened : tasksUnder (entries ++ [(label, task)]) label = [task] := by
    have none : tasksUnder entries label = [] := List.map_eq_nil_iff.mpr <|
      List.filter_eq_nil_iff.mpr fun entry member same =>
        unmet (List.mem_map.mpr ⟨entry, member, by simpa using same⟩)
    rw [tasksUnder_concat, if_pos rfl, none, List.nil_append]
  show groups.groups ++ [⟨label, [task]⟩] = _
  rw [isGrouped, groupsOfEntries, groupsOfEntries, oneMore, List.map_append, List.map_singleton,
    opened]
  refine congrArg (· ++ _) (List.map_congr_left fun other isMet => ?_)
  have other_ne : label ≠ other := fun same =>
    unmet (same ▸ List.mem_eraseDups.mp isMet)
  rw [tasksUnder_concat, if_neg other_ne]

/-- One entry more. -/
theorem groups_push {entries : List LabelledTask}
    (isGrouped : groups.groups = groupsOfEntries entries) (label : String) (task : Task) :
    (groups.push label task).groups = groupsOfEntries (entries ++ [(label, task)]) := by
  rw [push]
  split
  · exact groups_addAt_of_grouped isGrouped ‹_› task
  · exact groups_openAtEnd_of_grouped isGrouped ‹_› task

/-- Any number of entries. -/
theorem groups_foldl_push (entries : List LabelledTask) :
    (entries.foldl (fun groups entry => groups.push entry.1 entry.2) empty).groups =
      groupsOfEntries entries := by
  induction entries using List.reverseRecOn with
  | nil => rfl
  | append_singleton entries entry ih =>
      rw [List.foldl_append]
      exact groups_push ih entry.1 entry.2

end TaskGroups

namespace Vocabulary

open TaskGroups

variable (vocabulary : Vocabulary) (field : String)

/-- The labels of a task. -/
def labelsOf (task : Task) : List String :=
  (vocabulary.resolve task field).groupLabels

/-- Tasks with their labels, task by task. -/
def entriesOf (tasks : List Task) : List LabelledTask :=
  tasks.flatMap fun task => (vocabulary.labelsOf field task).map fun label => (label, task)

theorem groups_groupTasks (tasks : List Task) :
    (vocabulary.groupTasks field tasks).groups =
      groupsOfEntries (vocabulary.entriesOf field tasks) := by
  rw [← groups_foldl_push, entriesOf, List.foldl_flatMap, groupTasks]
  simp only [pushAll, List.foldl_map, labelsOf]

theorem map_fst_entriesOf (tasks : List Task) :
    (vocabulary.entriesOf field tasks).map Prod.fst =
      tasks.flatMap (vocabulary.labelsOf field) := by
  simp [entriesOf, List.map_flatMap, Function.comp_def]

/-- A task is under each of its labels once. -/
theorem tasksUnder_entriesOf (tasks : List Task) (label : String) :
    tasksUnder (vocabulary.entriesOf field tasks) label =
      tasks.filter fun task => (vocabulary.resolve task field).HasLabel label := by
  induction tasks with
  | nil => rfl
  | cons task tasks ih =>
      have own : tasksUnder ((vocabulary.labelsOf field task).map fun label => (label, task))
          label = if (vocabulary.resolve task field).HasLabel label then [task] else [] := by
        have once := (vocabulary.resolve task field).nodup_groupLabels.count (a := label)
        rw [tasksUnder, List.filter_map, List.map_map]
        simp only [Function.comp_def, labelsOf, List.filter_beq, once, List.map_replicate,
          FieldValue.mem_groupLabels_iff]
        split <;> rfl
      rw [entriesOf, List.flatMap_cons, tasksUnder_append, own, ← entriesOf, ih,
        List.filter_cons]
      by_cases has : (vocabulary.resolve task field).HasLabel label <;> simp [has]

theorem eq_of_mem_groups {field : String} {tasks : List Task} {group : TaskGroup}
    (member : group ∈ (vocabulary.groupTasks field tasks).groups) :
    group.label ∈ (vocabulary.groupTasks field tasks).labels ∧
      group.tasks =
        tasks.filter fun task => (vocabulary.resolve task field).HasLabel group.label := by
  refine ⟨List.mem_map_of_mem member, ?_⟩
  rw [groups_groupTasks, groupsOfEntries] at member
  obtain ⟨label, -, rfl⟩ := List.mem_map.mp member
  exact vocabulary.tasksUnder_entriesOf field tasks label

theorem labels_groupTasks (tasks : List Task) :
    (vocabulary.groupTasks field tasks).labels =
      (tasks.flatMap (vocabulary.labelsOf field)).eraseDups := by
  rw [labels_of_groups_eq (vocabulary.groups_groupTasks field tasks), map_fst_entriesOf]

/-- A label has a group exactly if some task has it. -/
theorem mem_labels_groupTasks_iff {field : String} {tasks : List Task} {label : String} :
    label ∈ (vocabulary.groupTasks field tasks).labels ↔
      ∃ task ∈ tasks, (vocabulary.resolve task field).HasLabel label := by
  rw [labels_groupTasks, List.mem_eraseDups, List.mem_flatMap]
  simp only [labelsOf, FieldValue.mem_groupLabels_iff]

/-- Grouping loses nothing and invents nothing. The labels of a value are its distinct texts
that are not empty, or the label for values without one. The groups have distinct labels, in
the order in which the tasks bring them. No group is empty, and each holds the tasks that have
its label, in the order in which they came; every task is in a group. A group is found by its
label, and by another label nothing is found. -/
theorem groupTasks_exact (tasks : List Task) :
    let groups := vocabulary.groupTasks field tasks
    (∀ value : FieldValue, value.groupLabels.Nodup ∧
        ∀ label, label ∈ value.groupLabels ↔ value.HasLabel label) ∧
      groups.labels =
        (tasks.flatMap fun task => (vocabulary.resolve task field).groupLabels).eraseDups ∧
      groups.labels.Nodup ∧
      (∀ group ∈ groups.groups, group.tasks ≠ [] ∧
        group.tasks =
          tasks.filter fun task => (vocabulary.resolve task field).HasLabel group.label) ∧
      (∀ task ∈ tasks, ∃ group ∈ groups.groups, task ∈ group.tasks) ∧
      (∀ group ∈ groups.groups, TaskGroup.tasksOf? groups group.label = some group.tasks) ∧
      ∀ label, label ∉ groups.labels → TaskGroup.tasksOf? groups label = none := by
  intro groups
  refine ⟨fun value => ⟨value.nodup_groupLabels, fun _ => FieldValue.mem_groupLabels_iff⟩,
    vocabulary.labels_groupTasks field tasks, groups.nodup_labels, fun group member => ?_,
    fun task isTask => ?_, fun group => tasksOf?_label, fun label => tasksOf?_of_not_mem⟩
  · obtain ⟨isLabel, tasksEq⟩ := vocabulary.eq_of_mem_groups member
    obtain ⟨task, isTask, has⟩ := vocabulary.mem_labels_groupTasks_iff.mp isLabel
    refine ⟨fun empty => ?_, tasksEq⟩
    have member : task ∈ group.tasks := by
      rw [tasksEq]
      exact List.mem_filter.mpr ⟨isTask, decide_eq_true has⟩
    rw [empty] at member
    cases member
  · obtain ⟨label, has⟩ := (vocabulary.resolve task field).exists_hasLabel
    obtain ⟨group, member, rfl⟩ :=
      List.mem_map.mp (vocabulary.mem_labels_groupTasks_iff.mpr ⟨task, isTask, has⟩)
    refine ⟨group, member, ?_⟩
    rw [(vocabulary.eq_of_mem_groups member).2]
    exact List.mem_filter.mpr ⟨isTask, decide_eq_true has⟩

/-- A list that repeats a tag, a text that is the label for tasks without a value, and tasks
without one. -/
example :
    let tasks : List Task :=
      [{ id := "a", tags := ["#x", "", "#y", "#x"] }, { id := "b" },
        { id := "c", tags := ["(none)", "#y"] }]
    (Vocabulary.default.groupTasks "tags" tasks).map
        (fun group => (group.label, group.tasks.map Task.id)) =
      [("#x", ["a"]), ("#y", ["a", "c"]), ("(none)", ["b", "c"])] := by
  decide +kernel

end Vocabulary

end TaskQuery

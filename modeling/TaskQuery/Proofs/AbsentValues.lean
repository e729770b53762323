/-
# Tasks without a value

Sorting and grouping each have their own notion of a task without a value. Sorting looks at
the value as a whole: it is absent when there is nothing, an empty text or an empty list.
Grouping looks at the texts in it, and takes a task for one without a value when none of them
is left after the empty ones. For most values this is the same. It is not for a list of
nothing but empty texts, which is a value in sorting, compared by the commas between them, and
none in grouping.

The group for tasks without a value has a label like any other group, so tasks that have this
very text join it. What is in the group is said here exactly, by the value of a task alone.
-/

import TaskQuery.Proofs.Groups
import TaskQuery.Proofs.StableSorting

namespace TaskQuery

/-! ## Values without a text -/

namespace FieldValue

/-- A value is a list that is not empty, but all its texts are. -/
inductive ListsEmptyTexts : FieldValue → Prop
  | list {items : List String} (nonempty : items ≠ []) (empty : ∀ item ∈ items, item = "") :
      ListsEmptyTexts (.list items)

variable {value : FieldValue}

/-- A value without a text is absent as a whole, or a list of empty texts. -/
theorem forall_not_hasText_iff :
    (∀ label, ¬ value.HasText label) ↔ value.isMissing = true ∨ value.ListsEmptyTexts := by
  cases value with
  | missing => exact iff_of_true (fun label has => by cases has) (Or.inl rfl)
  | text text =>
      constructor
      · intro without
        refine Or.inl (String.isEmpty_iff.mpr ?_)
        by_contra nonempty
        exact without text (.text nonempty)
      · rintro (absent | lists) label has
        · cases has with
          | text nonempty => exact nonempty (String.isEmpty_iff.mp absent)
        · cases lists
  | list items =>
      constructor
      · intro without
        by_cases nonempty : items = []
        · exact Or.inl (List.isEmpty_iff.mpr nonempty)
        · refine Or.inr (.list nonempty fun item isItem => ?_)
          by_contra isText
          exact without item (.item isItem isText)
      · rintro (absent | ⟨-, empty⟩) label has
        · cases has with
          | item isItem _ =>
              rw [List.isEmpty_iff.mp absent] at isItem
              cases isItem
        · cases has with
          | item isItem nonempty => exact nonempty (empty label isItem)

theorem hasLabel_noneLabel_iff :
    value.HasLabel noneLabel ↔
      value.isMissing = true ∨ value.ListsEmptyTexts ∨ value.HasText noneLabel := by
  rw [← or_assoc, ← forall_not_hasText_iff]
  constructor
  · rintro (has | without)
    · exact Or.inr has
    · exact Or.inl without
  · rintro (without | has)
    · exact .none without
    · exact .text has

end FieldValue

/-! ## The group without a value -/

namespace Vocabulary

variable (vocabulary : Vocabulary) {field : String} {tasks : List Task} {task : Task}

/-- A task is found under the labels of its value. -/
theorem exists_tasksOf?_groupTasks_iff {label : String} :
    (∃ bucket, TaskGroup.tasksOf? (vocabulary.groupTasks field tasks) label = some bucket ∧
      task ∈ bucket) ↔ task ∈ tasks ∧ (vocabulary.resolve task field).HasLabel label := by
  have inGroup {group : TaskGroup}
      (isGroup : group ∈ (vocabulary.groupTasks field tasks).groups) :
      task ∈ group.tasks ↔
        task ∈ tasks ∧ (vocabulary.resolve task field).HasLabel group.label := by
    rw [(vocabulary.eq_of_mem_groups isGroup).2, List.mem_filter, decide_eq_true_iff]
  constructor
  · rintro ⟨bucket, found, member⟩
    have isLabel : label ∈ (vocabulary.groupTasks field tasks).labels := by
      by_contra unused
      rw [TaskGroups.tasksOf?_of_not_mem unused] at found
      cases found
    obtain ⟨group, isGroup, rfl⟩ := List.mem_map.mp isLabel
    rw [TaskGroups.tasksOf?_label isGroup] at found
    obtain rfl := Option.some.inj found
    exact (inGroup isGroup).mp member
  · rintro ⟨isTask, has⟩
    obtain ⟨group, isGroup, rfl⟩ :=
      List.mem_map.mp (vocabulary.mem_labels_groupTasks_iff.mpr ⟨task, isTask, has⟩)
    exact ⟨group.tasks, TaskGroups.tasksOf?_label isGroup, (inGroup isGroup).mpr ⟨isTask, has⟩⟩

/-- A field that is ordered by its text has no value in sorting just where the value is
absent. -/
theorem sortValue_eq_none_iff_isMissing (ordersByText : vocabulary.OrdersByText field) :
    vocabulary.sortValue task field = none ↔
      (vocabulary.resolve task field).isMissing = true := by
  refine ⟨fun none => ?_, sortValue_of_isMissing⟩
  by_contra present
  rw [sortValue_of_ordersByText (Bool.eq_false_iff.mpr present) ordersByText] at none
  cases none

/-- Under a field that holds neither priorities nor dates, a task is in the group for tasks
without a value if it has none in sorting either, and besides only if its value is a list of
empty texts, or has the label of the group among its texts. -/
theorem mem_noneGroup_iff (ordersByText : vocabulary.OrdersByText field)
    (isTask : task ∈ tasks) :
    (∃ bucket, TaskGroup.tasksOf? (vocabulary.groupTasks field tasks) noneLabel = some bucket ∧
      task ∈ bucket) ↔
      vocabulary.sortValue task field = none ∨
        (vocabulary.resolve task field).ListsEmptyTexts ∨
          (vocabulary.resolve task field).HasText noneLabel := by
  rw [exists_tasksOf?_groupTasks_iff, FieldValue.hasLabel_noneLabel_iff,
    sortValue_eq_none_iff_isMissing vocabulary ordersByText]
  exact and_iff_right isTask

/-- Tags of which one is an empty text put their task under the other one. -/
theorem mem_noneGroup_iff_tags :
    let task : Task := { id := "a", tags := ["", "#x"] }
    default.OrdersByText "tags" ∧ task ∈ [task] ∧
      ¬ ∃ bucket, TaskGroup.tasksOf? (default.groupTasks "tags" [task]) noneLabel = some bucket ∧
        task ∈ bucket := by
  intro task
  have noPriority : default.canonicalField "tags" ≠ priorityField := by decide +kernel
  have ordersByText : default.OrdersByText "tags" := ⟨noPriority, by decide +kernel⟩
  have isTask : task ∈ [task] := List.mem_singleton_self task
  have resolved : default.resolve task "tags" = .list ["", "#x"] := by decide +kernel
  have sorted : default.sortValue task "tags" ≠ none := by decide +kernel
  refine ⟨ordersByText, isTask, fun inGroup => ?_⟩
  rcases (default.mem_noneGroup_iff ordersByText isTask).mp inGroup with none | lists | has
  · exact sorted none
  · rw [resolved] at lists
    cases lists with
    | list _ empty => exact absurd (empty "#x" (by simp)) (by decide)
  · rw [resolved] at has
    cases has with
    | item isItem _ => exact absurd isItem (by decide)

/-- A task whose only tag is an empty text is in the group for tasks without a value, and so is
one whose owner is called like the group. Sorting finds a value in both, and puts them in front
of a task with another one. -/
theorem noneGroup_has_sorted_tasks :
    let untagged : Task := { id := "a", tags := [""] }
    let tagged : Task := { id := "b", tags := ["#x"] }
    let owned : Task := { id := "a", properties := [("owner", .string "(none)")] }
    let other : Task := { id := "b", properties := [("owner", .string "sam")] }
    (default.OrdersByText "tags" ∧
      (∃ bucket, TaskGroup.tasksOf? (default.groupTasks "tags" [untagged, tagged]) noneLabel =
        some bucket ∧ untagged ∈ bucket) ∧
      default.sortValue untagged "tags" = some (.text "") ∧
      default.sortTasks [⟨"tags", .asc⟩] [untagged, tagged] = [untagged, tagged]) ∧
    default.OrdersByText "owner" ∧
      (∃ bucket, TaskGroup.tasksOf? (default.groupTasks "owner" [owned, other]) noneLabel =
        some bucket ∧ owned ∈ bucket) ∧
      default.sortValue owned "owner" = some (.text "(none)") ∧
      default.sortTasks [⟨"owner", .asc⟩] [owned, other] = [owned, other] := by
  intro untagged tagged owned other
  have noPriority : default.canonicalField "tags" ≠ priorityField ∧
      default.canonicalField "owner" ≠ priorityField := by
    decide +kernel
  have tagsLabel : (default.resolve untagged "tags").HasLabel noneLabel := by decide +kernel
  have ownerLabel : (default.resolve owned "owner").HasLabel noneLabel := by decide +kernel
  have tagsInOrder : default.inOrder [⟨"tags", .asc⟩] untagged tagged = true := by decide +kernel
  have ownersInOrder : default.inOrder [⟨"owner", .asc⟩] owned other = true := by decide +kernel
  refine ⟨⟨⟨noPriority.1, by decide +kernel⟩, ?_, by decide +kernel, ?_⟩,
    ⟨noPriority.2, by decide +kernel⟩, ?_, by decide +kernel, ?_⟩
  · exact default.exists_tasksOf?_groupTasks_iff.mpr ⟨List.mem_cons_self, tagsLabel⟩
  · rw [sortTasks_pair, if_pos tagsInOrder]
  · exact default.exists_tasksOf?_groupTasks_iff.mpr ⟨List.mem_cons_self, ownerLabel⟩
  · rw [sortTasks_pair, if_pos ownersInOrder]

end Vocabulary

end TaskQuery

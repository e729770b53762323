/-
# Results and the order of tasks

In a list of tasks of which no two have the same id or the same dependency id, the
order says nothing: whatever an id or a reference stands for, it stands for the same
task after the list is put in another order. So the graphs of both lists answer
alike, and every filter keeps the same tasks.

What remains of the order is removed by sorting, as soon as one of the keys is the id.
It does not matter where among the keys it stands, since tasks that are equal
under all keys have the same id. Without such a key nothing of this kind holds, because
tasks that no key tells apart stay in the order in which they came.
-/

import Mathlib.Data.List.Nodup
import Mathlib.Data.List.Pairwise
import TaskQuery.Proofs.Dependents
import TaskQuery.Proofs.Execution

namespace TaskQuery

/-- No two tasks of a list have the same id, and no two have the same dependency id. -/
structure NamedApart (tasks : List Task) : Prop where
  ids : (tasks.map Task.id).Nodup
  dependencyIds : (tasks.filterMap Task.dependencyId).Nodup

variable {first second : List Task}

/-! ## What names stand for -/

/-- Where keys are distinct, there is one task for each. -/
theorem eq_of_key_eq {tasks : List Task} {key : Task → Option String}
    (distinct : (tasks.filterMap key).Nodup) {a b : Task} (isMember : a ∈ tasks)
    (isOther : b ∈ tasks) {name : String} (named : key a = some name)
    (otherNamed : key b = some name) : a = b := by
  by_contra differ
  have apart := List.pairwise_filterMap.mp distinct
  have symmetric : Std.Symm fun a b => ∀ c, key a = some c → ∀ d, key b = some d → c ≠ d :=
    ⟨fun _ _ unequal c hasC d hasD => (unequal d hasD c hasC).symm⟩
  exact apart.forall isMember isOther differ name named name otherNamed rfl

/-- The last task with a property is the only one, if there is only one. -/
theorem lastSuch_eq_some_iff {tasks : List Task} {property : Task → Bool}
    (unique : ∀ a ∈ tasks, ∀ b ∈ tasks, property a = true → property b = true → a = b)
    {task : Task} :
    lastSuch property tasks = some task ↔ task ∈ tasks ∧ property task = true := by
  constructor
  · exact mem_of_lastSuch
  · intro holds
    have isSome : (lastSuch property tasks).isSome :=
      (isSome_lastSuch_iff property tasks).mpr ⟨task, holds⟩
    obtain ⟨other, found⟩ := Option.isSome_iff_exists.mp isSome
    have otherHolds := mem_of_lastSuch found
    rw [found, unique other otherHolds.1 task holds.1 otherHolds.2 holds.2]

/-- Which task is the last with a property does not depend on the order, if there is at
most one. -/
theorem lastSuch_eq_of_perm (reordered : first.Perm second) {property : Task → Bool}
    (unique : ∀ a ∈ first, ∀ b ∈ first, property a = true → property b = true → a = b) :
    lastSuch property first = lastSuch property second := by
  have uniqueSecond : ∀ a ∈ second, ∀ b ∈ second, property a = true → property b = true → a = b :=
    fun a isMember b isOther =>
      unique a (reordered.mem_iff.mpr isMember) b (reordered.mem_iff.mpr isOther)
  ext task
  rw [lastSuch_eq_some_iff unique, lastSuch_eq_some_iff uniqueSecond, reordered.mem_iff]

namespace NamedApart

theorem eq_of_id_eq {tasks : List Task} (apart : NamedApart tasks) {a b : Task}
    (isMember : a ∈ tasks) (isOther : b ∈ tasks) (same : a.id = b.id) : a = b :=
  List.inj_on_of_nodup_map apart.ids isMember isOther same

theorem lastWithId_eq (apart : NamedApart first) (reordered : first.Perm second) (id : String) :
    lastWithId first id = lastWithId second id :=
  lastSuch_eq_of_perm reordered fun _ isMember _ isOther named otherNamed =>
    apart.eq_of_id_eq isMember isOther
      ((beq_iff_eq.mp named).trans (beq_iff_eq.mp otherNamed).symm)

theorem lastWithDependencyId_eq (apart : NamedApart first) (reordered : first.Perm second)
    (reference : String) :
    lastWithDependencyId first reference = lastWithDependencyId second reference :=
  lastSuch_eq_of_perm reordered fun _ isMember _ isOther named otherNamed =>
    eq_of_key_eq apart.dependencyIds isMember isOther (beq_iff_eq.mp named)
      (beq_iff_eq.mp otherNamed)

theorem incomplete_iff (apart : NamedApart first) (reordered : first.Perm second) (id : String) :
    Incomplete first id ↔ Incomplete second id := by
  rw [Incomplete, Incomplete, apart.lastWithId_eq reordered]

theorem resolves_iff (apart : NamedApart first) (reordered : first.Perm second)
    (reference id : String) : Resolves first reference id ↔ Resolves second reference id := by
  rw [Resolves, Resolves, apart.lastWithDependencyId_eq reordered]
  cases lastWithDependencyId second reference with
  | some task => rfl
  | none => simp only [reordered.mem_iff]

theorem waitsFor_iff (apart : NamedApart first) (reordered : first.Perm second)
    (dependent dependency : String) :
    WaitsFor first dependent dependency ↔ WaitsFor second dependent dependency := by
  simp only [WaitsFor, reordered.mem_iff, apart.resolves_iff reordered]

/-! ## What graphs answer -/

theorem isBlocked_eq (apart : NamedApart first) (reordered : first.Perm second) (id : String) :
    (TaskGraph.ofTasks first).isBlocked id = (TaskGraph.ofTasks second).isBlocked id := by
  rw [Bool.eq_iff_iff, TaskGraph.isBlocked_ofTasks_iff, TaskGraph.isBlocked_ofTasks_iff]
  simp only [apart.waitsFor_iff reordered, apart.incomplete_iff reordered]

theorem isBlocking_eq (apart : NamedApart first) (reordered : first.Perm second) (id : String) :
    (TaskGraph.ofTasks first).isBlocking id = (TaskGraph.ofTasks second).isBlocking id := by
  rw [Bool.eq_iff_iff, TaskGraph.isBlocking_ofTasks_iff, TaskGraph.isBlocking_ofTasks_iff]
  simp only [apart.waitsFor_iff reordered, apart.incomplete_iff reordered]

theorem resolve?_eq (apart : NamedApart first) (reordered : first.Perm second)
    (reference : String) :
    (TaskGraph.ofTasks first).resolve? reference =
      (TaskGraph.ofTasks second).resolve? reference := by
  ext id
  rw [TaskGraph.resolve?_ofTasks_iff, TaskGraph.resolve?_ofTasks_iff,
    apart.resolves_iff reordered]

theorem resolve_eq (apart : NamedApart first) (reordered : first.Perm second)
    (reference : String) :
    (DependencyGraph.ofTasks first).resolve reference =
      (DependencyGraph.ofTasks second).resolve reference :=
  congrArg (Option.getD · reference) (apart.resolve?_eq reordered reference)

theorem contains_dependentsOf_eq (apart : NamedApart first) (reordered : first.Perm second)
    (dependent dependency : String) :
    ((TaskGraph.ofTasks first).dependentsOf dependency false).contains dependent =
      ((TaskGraph.ofTasks second).dependentsOf dependency false).contains dependent := by
  rw [Bool.eq_iff_iff, List.contains_iff_mem, List.contains_iff_mem,
    TaskGraph.mem_dependentsOf_ofTasks_iff, TaskGraph.mem_dependentsOf_ofTasks_iff,
    apart.waitsFor_iff reordered]

/-- The graphs of both lists answer every check of a filter alike. -/
theorem checkDependency_eq (apart : NamedApart first) (reordered : first.Perm second)
    (vocabulary : Vocabulary) (today : Date) (task : Task) (check : DependencyCheck) :
    (⟨vocabulary, .ofTasks first, today⟩ : Setting).checkDependency task check =
      (⟨vocabulary, .ofTasks second, today⟩ : Setting).checkDependency task check := by
  have resolve := apart.resolve_eq reordered
  have dependents (dependent dependency : String) :
      ((DependencyGraph.ofTasks first).dependents dependency false).contains dependent =
        ((DependencyGraph.ofTasks second).dependents dependency false).contains dependent :=
    apart.contains_dependentsOf_eq reordered dependent dependency
  cases check with
  | blocked => exact apart.isBlocked_eq reordered task.id
  | notBlocked => exact congrArg not (apart.isBlocked_eq reordered task.id)
  | blocking => exact apart.isBlocking_eq reordered task.id
  | dependsOn target => simp only [Setting.checkDependency, resolve, dependents]
  | blocks target => simp only [Setting.checkDependency, resolve, dependents]

/-- Both lists keep the same tasks. -/
theorem kept_perm (apart : NamedApart first) (reordered : first.Perm second)
    (vocabulary : Vocabulary) (today : Date) (filter : Option Filter) :
    ((Evaluator.of ⟨vocabulary, .ofTasks first, today⟩ filter).kept first).Perm
      ((Evaluator.of ⟨vocabulary, .ofTasks second, today⟩ filter).kept second) := by
  have keeps : (Evaluator.of ⟨vocabulary, .ofTasks first, today⟩ filter).keeps =
      (Evaluator.of ⟨vocabulary, .ofTasks second, today⟩ filter).keeps := by
    funext task
    cases filter with
    | none => rfl
    | some filter =>
        exact Evaluator.evaluate_of_congr vocabulary today (some filter) (some filter)
          fun check _ => apart.checkDependency_eq reordered vocabulary today task check
  rw [Evaluator.kept, Evaluator.kept, keeps]
  exact reordered.filter _

end NamedApart

/-! ## Sorting by id -/

namespace Vocabulary

/-- Under a key for the id a task is ordered by its id, unless that is empty. -/
theorem sortValue_id (vocabulary : Vocabulary) {field : String}
    (isId : vocabulary.canonicalField field = "id")
    (notDate : vocabulary.isDateField "id" = false) (task : Task) :
    vocabulary.sortValue task field =
      if task.id.isEmpty then none else some (.text task.id) := by
  have value : vocabulary.resolve task field = .text task.id := by
    rw [resolve, isId]
    rfl
  rw [sortValue, value, isId, notDate]
  rfl

/-- Tasks with the same value under a key for the id have the same id. -/
theorem id_eq_of_sortValue_eq {vocabulary : Vocabulary} {field : String}
    (isId : vocabulary.canonicalField field = "id")
    (notDate : vocabulary.isDateField "id" = false) {a b : Task}
    (same : vocabulary.sortValue a field = vocabulary.sortValue b field) : a.id = b.id := by
  rw [vocabulary.sortValue_id isId notDate, vocabulary.sortValue_id isId notDate] at same
  split at same <;> split at same
  · rename_i aEmpty bEmpty
    rw [String.isEmpty_iff.mp aEmpty, String.isEmpty_iff.mp bEmpty]
  · cases same
  · cases same
  · exact SortValue.text.inj (Option.some.inj same)

end Vocabulary

namespace Query

/-- What a query finds, and in which order, does not depend on the order of the tasks, as
long as their names are distinct and one of the sort keys is the id. The same holds of
the groups: their labels, the order of these, and the tasks in each. -/
theorem execute_eq_and_executeGrouped_eq_of_perm (vocabulary : Vocabulary) (today : Date)
    (query : Query) {first second : List Task} (reordered : first.Perm second)
    (ids : (first.map Task.id).Nodup)
    (dependencyIds : (first.filterMap Task.dependencyId).Nodup)
    (sortsById : ∃ key ∈ query.sort, vocabulary.canonicalField key.field = "id")
    (notDate : vocabulary.isDateField "id" = false) :
    query.execute ⟨vocabulary, .ofTasks first, today⟩ first =
        query.execute ⟨vocabulary, .ofTasks second, today⟩ second ∧
      query.executeGrouped ⟨vocabulary, .ofTasks first, today⟩ first =
        query.executeGrouped ⟨vocabulary, .ofTasks second, today⟩ second := by
  have apart : NamedApart first := ⟨ids, dependencyIds⟩
  obtain ⟨key, isKey, isId⟩ := sortsById
  have found : query.execute ⟨vocabulary, .ofTasks first, today⟩ first =
      query.execute ⟨vocabulary, .ofTasks second, today⟩ second := by
    refine Vocabulary.sortTasks_eq_of_perm
      (apart.kept_perm reordered vocabulary today query.filter) ?_
    intro a aKept b bKept equal
    have sameValue := Vocabulary.compareTasks_eq_iff.mp equal key isKey
    exact apart.eq_of_id_eq (List.mem_filter.mp aKept).1 (List.mem_filter.mp bKept).1
      (Vocabulary.id_eq_of_sortValue_eq isId notDate sameValue)
  exact ⟨found, congrArg (query.groupsOf vocabulary) found⟩

/-- Tasks of which two wait for a third, and a query for these two. The id stands behind
another key and is written in capitals. -/
theorem execute_eq_and_executeGrouped_eq_of_perm_reverse :
    let today : Date := ⟨0, by decide, by decide⟩
    let tasks : List Task :=
      [{ id := "b", dependsOn := ["x"] }, { id := "" }, { id := "a", dependencyId := some "x" },
        { id := "c", dependsOn := ["x"], dependencyId := some "c" }]
    let query : Query :=
      { filter := some (.dependency (.dependsOn "x"))
        sort := [⟨"priority", .desc⟩, ⟨"ID", .asc⟩]
        group := some "status" }
    ((tasks.Perm tasks.reverse) ∧ (tasks.map Task.id).Nodup ∧
        (tasks.filterMap Task.dependencyId).Nodup ∧
        (∃ key ∈ query.sort, Vocabulary.default.canonicalField key.field = "id") ∧
        Vocabulary.default.isDateField "id" = false) ∧
      query.execute ⟨.default, .ofTasks tasks, today⟩ tasks =
          query.execute ⟨.default, .ofTasks tasks.reverse, today⟩ tasks.reverse ∧
        query.executeGrouped ⟨.default, .ofTasks tasks, today⟩ tasks =
          query.executeGrouped ⟨.default, .ofTasks tasks.reverse, today⟩ tasks.reverse := by
  intro today tasks query
  have ids : (tasks.map Task.id).Nodup := by decide
  have dependencyIds : (tasks.filterMap Task.dependencyId).Nodup := by decide
  have sortsById : ∃ key ∈ query.sort, Vocabulary.default.canonicalField key.field = "id" :=
    ⟨⟨"ID", .asc⟩, by decide, by decide +kernel⟩
  have notDate : Vocabulary.default.isDateField "id" = false := by decide
  exact ⟨⟨(List.reverse_perm tasks).symm, ids, dependencyIds, sortsById, notDate⟩,
    execute_eq_and_executeGrouped_eq_of_perm .default today query (List.reverse_perm tasks).symm
      ids dependencyIds sortsById notDate⟩

end Query

end TaskQuery

/-
# Graphs of a list that changes

A list of tasks may change without a change to what depends on what. It may be put in
another order, as long as no two of its tasks share an id or a dependency id. The tables
then list the same tasks in other orders, and a walk meets them in another order, but
what a walk finds is settled by the tasks listed and not by their places.

It may also have tasks of another status, and then nothing is asked of it at all.
No edge and no reference is made from a status, so the tables of references and edges
are the same ones, entry by entry. A status decides only which ids are incomplete. Both
blocked and blocking ask for ids that are incomplete and never for ids that are complete,
so a task that is done or cancelled takes from both and adds to neither.
-/

import Mathlib.Data.List.Forall2
import TaskQuery.Proofs.Reordering
import TaskQuery.Proofs.TransitiveDependents

namespace TaskQuery

/-! ## Another order -/

/-- What a walk finds depends on what the table lists, and not on the order. -/
theorem Walk.mem_run_congr {first second : List (String × List String)}
    (same : Walk.Lists first = Walk.Lists second) (transitive : Bool) (start id : String) :
    id ∈ Walk.run first transitive ⟨[], [start]⟩ ↔
      id ∈ Walk.run second transitive ⟨[], [start]⟩ := by
  cases transitive with
  | false =>
      rw [Walk.mem_run_iff, Walk.mem_run_iff]
      exact iff_of_eq (congrFun₂ same id start)
  | true => rw [Walk.mem_run_iff_transGen, Walk.mem_run_iff_transGen, same]

theorem TaskGraph.nodup_dependentsOf (graph : TaskGraph) (id : String) (transitive : Bool) :
    (graph.dependentsOf id transitive).Nodup :=
  (Walk.nodup_run _ transitive List.nodup_nil).filter _

/-- Graphs that list the same tasks have the same dependents, each of them once. -/
theorem TaskGraph.dependentsOf_perm {first second : TaskGraph}
    (same : Walk.Lists first.dependents = Walk.Lists second.dependents) (id : String)
    (transitive : Bool) :
    (first.dependentsOf id transitive).Perm (second.dependentsOf id transitive) := by
  apply (List.perm_ext_iff_of_nodup (first.nodup_dependentsOf id transitive)
    (second.nodup_dependentsOf id transitive)).mpr
  intro other
  rw [dependentsOf, dependentsOf, List.mem_filter, List.mem_filter, Walk.mem_run_congr same]

theorem NamedApart.dependentsOf_perm {first second : List Task} (apart : NamedApart first)
    (reordered : first.Perm second) (id : String) (transitive : Bool) :
    ((TaskGraph.ofTasks first).dependentsOf id transitive).Perm
      ((TaskGraph.ofTasks second).dependentsOf id transitive) := by
  apply TaskGraph.dependentsOf_perm
  rw [TaskGraph.lists_dependents_ofTasks, TaskGraph.lists_dependents_ofTasks]
  funext dependent dependency
  exact propext (apart.waitsFor_iff reordered dependent dependency)

/-- The graph of a list does not depend on the order of its tasks, as long as their ids
are distinct and their dependency ids are. A dependency id may be the id of another task.
Every string is blocked or blocking for both graphs or for neither, and stands for the same
id in both. Its dependents are the same, directly and through others; as each answer has
every dependent once, they differ by their order at most. -/
theorem DependencyGraph.ofTasks_answers_alike_of_perm {first second : List Task}
    (reordered : first.Perm second) (ids : (first.map Task.id).Nodup)
    (dependencyIds : (first.filterMap Task.dependencyId).Nodup) :
    (∀ id, (ofTasks first).isBlocked id = (ofTasks second).isBlocked id) ∧
      (∀ id, (ofTasks first).isBlocking id = (ofTasks second).isBlocking id) ∧
      (∀ id transitive, ((ofTasks first).dependents id transitive).Perm
        ((ofTasks second).dependents id transitive)) ∧
      ∀ reference, (ofTasks first).resolve reference = (ofTasks second).resolve reference := by
  have apart : NamedApart first := ⟨ids, dependencyIds⟩
  exact ⟨apart.isBlocked_eq reordered, apart.isBlocking_eq reordered,
    apart.dependentsOf_perm reordered, apart.resolve_eq reordered⟩

/-- Three tasks in a circle, of which one is referred to by a name that is the id of
another, and the same tasks from the last to the first. -/
theorem DependencyGraph.ofTasks_answers_alike_of_perm_reverse :
    let tasks : List Task :=
      [{ id := "a", dependsOn := ["b", "c"] },
        { id := "b", dependencyId := some "c", dependsOn := ["x"], status := .done },
        { id := "c", dependencyId := some "x", dependsOn := ["a", "nothing"] }]
    (tasks.Perm tasks.reverse ∧ (tasks.map Task.id).Nodup ∧
        (tasks.filterMap Task.dependencyId).Nodup) ∧
      (∀ id, (ofTasks tasks).isBlocked id = (ofTasks tasks.reverse).isBlocked id) ∧
      (∀ id, (ofTasks tasks).isBlocking id = (ofTasks tasks.reverse).isBlocking id) ∧
      (∀ id transitive, ((ofTasks tasks).dependents id transitive).Perm
        ((ofTasks tasks.reverse).dependents id transitive)) ∧
      ∀ reference, (ofTasks tasks).resolve reference =
        (ofTasks tasks.reverse).resolve reference := by
  intro tasks
  have ids : (tasks.map Task.id).Nodup := by decide
  have dependencyIds : (tasks.filterMap Task.dependencyId).Nodup := by decide
  exact ⟨⟨(List.reverse_perm tasks).symm, ids, dependencyIds⟩,
    ofTasks_answers_alike_of_perm (List.reverse_perm tasks).symm ids dependencyIds⟩

/-! ## Tables that status has no part in -/

/-- Two records of a task are named alike and list the same references. -/
structure Task.SameLinks (task changed : Task) : Prop where
  id : task.id = changed.id
  dependencyId : task.dependencyId = changed.dependencyId
  dependsOn : task.dependsOn = changed.dependsOn

namespace TaskGraph

/-- Two graphs know the same ids and have the same tables, apart from which of the ids
are complete. -/
structure SameEdges (first second : TaskGraph) : Prop where
  known : ∀ id, (first.complete.lookup id).isSome = (second.complete.lookup id).isSome
  references : first.references = second.references
  dependencies : first.dependencies = second.dependencies
  dependents : first.dependents = second.dependents

namespace SameEdges

variable {first second : TaskGraph}

theorem refl (graph : TaskGraph) : graph.SameEdges graph :=
  ⟨fun _ => rfl, rfl, rfl, rfl⟩

theorem resolve?_eq (same : first.SameEdges second) (reference : String) :
    first.resolve? reference = second.resolve? reference := by
  rw [resolve?, resolve?, same.references, same.known]

theorem dependentsOf_eq (same : first.SameEdges second) (id : String) (transitive : Bool) :
    first.dependentsOf id transitive = second.dependentsOf id transitive := by
  rw [dependentsOf, dependentsOf, same.dependents]

theorem register (same : first.SameEdges second) {task changed : Task}
    (links : task.SameLinks changed) :
    (first.register task).SameEdges (second.register changed) where
  known id := by
    rw [lookup_complete_register, lookup_complete_register, links.id]
    split
    · rfl
    · exact same.known id
  references := by
    simp only [TaskGraph.register, links.id, links.dependencyId, same.references]
  dependencies := same.dependencies
  dependents := same.dependents

theorem addEdge (same : first.SameEdges second) (dependent dependency : String) :
    (first.addEdge dependent dependency).SameEdges (second.addEdge dependent dependency) where
  known := same.known
  references := same.references
  dependencies := by rw [TaskGraph.addEdge, TaskGraph.addEdge, same.dependencies]
  dependents := by rw [TaskGraph.addEdge, TaskGraph.addEdge, same.dependents]

theorem connect (same : first.SameEdges second) (owner reference : String) :
    (TaskGraph.connect owner first reference).SameEdges
      (TaskGraph.connect owner second reference) := by
  unfold TaskGraph.connect
  rw [same.resolve?_eq]
  split
  · exact same
  · split
    · exact same
    · exact same.addEdge _ _

theorem connectAll (same : first.SameEdges second) {task changed : Task}
    (links : task.SameLinks changed) :
    (first.connectAll task).SameEdges (second.connectAll changed) := by
  rw [TaskGraph.connectAll, TaskGraph.connectAll, ← links.id, ← links.dependsOn]
  generalize task.dependsOn = references
  induction references generalizing first second with
  | nil => exact same
  | cons reference references ih => exact ih (same.connect task.id reference)

end SameEdges

/-- Both passes keep the tables alike, as long as the tasks are linked alike. -/
theorem sameEdges_ofTasks {tasks changed : List Task}
    (changes : List.Forall₂ Task.SameLinks tasks changed) :
    (ofTasks tasks).SameEdges (ofTasks changed) := by
  have registered : (tasks.foldl register {}).SameEdges (changed.foldl register {}) :=
    List.rel_foldl (fun _ _ same _ _ links => same.register links) (SameEdges.refl {}) changes
  exact List.rel_foldl (fun _ _ same _ _ links => same.connectAll links) registered changes

/-! ## Fewer incomplete tasks -/

/-- Over the same edges, a graph with fewer incomplete ids has fewer that are blocked. -/
theorem SameEdges.isBlocked_of_isBlocked {before after : TaskGraph}
    (same : before.SameEdges after)
    (fewer : ∀ id, after.isIncomplete id = true → before.isIncomplete id = true) {id : String}
    (blocked : after.isBlocked id = true) : before.isBlocked id = true := by
  rw [isBlocked, List.any_eq_true] at blocked ⊢
  obtain ⟨dependency, listed, incomplete⟩ := blocked
  exact ⟨dependency, same.dependencies ▸ listed, fewer dependency incomplete⟩

/-- It has fewer that are blocking too. Here the id itself and the one that waits for it
must be incomplete. -/
theorem SameEdges.isBlocking_of_isBlocking {before after : TaskGraph}
    (same : before.SameEdges after)
    (fewer : ∀ id, after.isIncomplete id = true → before.isIncomplete id = true) {id : String}
    (blocking : after.isBlocking id = true) : before.isBlocking id = true := by
  rw [isBlocking, Bool.and_eq_true, List.any_eq_true] at blocking ⊢
  obtain ⟨incomplete, dependent, listed, dependentIncomplete⟩ := blocking
  exact ⟨fewer id incomplete, dependent, same.dependents ▸ listed,
    fewer dependent dependentIncomplete⟩

end TaskGraph

/-! ## Completing a task -/

/-- What becomes of a record when the task with an id is completed. A record of the task
becomes done or cancelled, whatever it was, and each of them may become another of the
two. A record of another task stays as it is. -/
inductive Completes (id : String) (task : Task) : Task → Prop
  | own (status : Status) (named : task.id = id)
      (ends : status = .done ∨ status = .cancelled) : Completes id task { task with status }
  | other (named : task.id ≠ id) : Completes id task task

namespace Completes

variable {id : String} {task completed : Task}

theorem sameLinks (completes : Completes id task completed) : task.SameLinks completed := by
  cases completes with
  | own status named ends => exact ⟨rfl, rfl, rfl⟩
  | other named => exact ⟨rfl, rfl, rfl⟩

theorem isComplete_eq (completes : Completes id task completed) :
    completed.isComplete = (task.id == id || task.isComplete) := by
  cases completes with
  | own status named ends =>
      rcases ends with rfl | rfl <;> simp [Task.isComplete, Status.isComplete, named]
  | other named => simp [named]

end Completes

/-- If the records of a list change to others with the same ids, what can be said of the
last record with an id after the change is what could be said of it before. -/
theorem map_lastWithId_eq {α : Type} {before after : Task → α} {tasks changed : List Task}
    (changes : List.Forall₂ (fun task record => task.id = record.id ∧ before task = after record)
      tasks changed) (id : String) :
    (lastWithId tasks id).map before = (lastWithId changed id).map after := by
  induction changes with
  | nil => rfl
  | cons same _ ih =>
      simp only [lastWithId, lastSuch_cons, Option.map_or] at ih ⊢
      rw [ih, same.1]
      split
      · rw [Option.map_some, Option.map_some, same.2]
      · rfl

namespace TaskGraph

variable {id : String} {tasks completed : List Task}

/-- The completed task is the only one whose completion changes. -/
theorem isIncomplete_ofTasks_of_completes
    (changes : List.Forall₂ (Completes id) tasks completed) (other : String) :
    (ofTasks completed).isIncomplete other =
      (other != id && (ofTasks tasks).isIncomplete other) := by
  have last : (lastWithId tasks other).map (fun task => task.id == id || task.isComplete) =
      (lastWithId completed other).map Task.isComplete :=
    map_lastWithId_eq (changes.imp fun _ _ completes =>
      ⟨completes.sameLinks.id, completes.isComplete_eq.symm⟩) other
  rw [isIncomplete, isIncomplete, lookup_complete_ofTasks, lookup_complete_ofTasks, ← last]
  cases found : lastWithId tasks other with
  | none => simp
  | some task =>
      have named : task.id = other := beq_iff_eq.mp (mem_of_lastSuch found).2
      by_cases own : other = id <;> simp [named, own, bne]

theorem sameEdges_ofTasks_of_completes
    (changes : List.Forall₂ (Completes id) tasks completed) :
    (ofTasks tasks).SameEdges (ofTasks completed) :=
  sameEdges_ofTasks (changes.imp fun _ _ completes => completes.sameLinks)

/-- A completed task blocks nothing any more. -/
theorem isBlocking_ofTasks_eq_false_of_completes
    (changes : List.Forall₂ (Completes id) tasks completed) :
    (ofTasks completed).isBlocking id = false := by
  rw [isBlocking, isIncomplete_ofTasks_of_completes changes]
  simp

end TaskGraph

/-- Completing a task blocks nothing. Whatever the tasks are, if every record with some id
becomes done or cancelled and the others stay as they are, then no id is blocked that was
not blocked before, none is blocking that was not, and the task itself is not blocking any
more. Every id has the dependents that it had, directly and through others, and every
reference stands for what it stood for. -/
theorem DependencyGraph.ofTasks_answers_of_completes {id : String} {tasks completed : List Task}
    (changes : List.Forall₂ (Completes id) tasks completed) :
    (∀ other, (ofTasks completed).isBlocked other = true →
      (ofTasks tasks).isBlocked other = true) ∧
    (∀ other, (ofTasks completed).isBlocking other = true →
      (ofTasks tasks).isBlocking other = true) ∧
    (ofTasks completed).isBlocking id = false ∧
    (∀ other transitive, (ofTasks completed).dependents other transitive =
      (ofTasks tasks).dependents other transitive) ∧
    ∀ reference, (ofTasks completed).resolve reference = (ofTasks tasks).resolve reference := by
  have same := TaskGraph.sameEdges_ofTasks_of_completes changes
  have fewer (other : String)
      (incomplete : (TaskGraph.ofTasks completed).isIncomplete other = true) :
      (TaskGraph.ofTasks tasks).isIncomplete other = true := by
    rw [TaskGraph.isIncomplete_ofTasks_of_completes changes, Bool.and_eq_true] at incomplete
    exact incomplete.2
  refine ⟨fun other blocked => ?_, fun other blocking => ?_, ?_, fun other transitive => ?_,
    fun reference => ?_⟩
  · exact same.isBlocked_of_isBlocked fewer blocked
  · exact same.isBlocking_of_isBlocking fewer blocking
  · exact TaskGraph.isBlocking_ofTasks_eq_false_of_completes changes
  · exact (same.dependentsOf_eq other transitive).symm
  · exact congrArg (Option.getD · reference) (same.resolve?_eq reference).symm

/-- Two records of a task on a circle, of which one was done and becomes cancelled and the
other, which decides what the id means, becomes done. -/
theorem DependencyGraph.ofTasks_answers_of_completes_twice :
    let tasks : List Task :=
      [{ id := "a", dependsOn := ["b"], status := .done }, { id := "b", dependsOn := ["x"] },
        { id := "a", dependencyId := some "x", dependsOn := ["a", "c"] }]
    let completed : List Task :=
      [{ id := "a", dependsOn := ["b"], status := .cancelled }, { id := "b", dependsOn := ["x"] },
        { id := "a", dependencyId := some "x", dependsOn := ["a", "c"], status := .done }]
    List.Forall₂ (Completes "a") tasks completed ∧
      (∀ other, (ofTasks completed).isBlocked other = true →
        (ofTasks tasks).isBlocked other = true) ∧
      (∀ other, (ofTasks completed).isBlocking other = true →
        (ofTasks tasks).isBlocking other = true) ∧
      (ofTasks completed).isBlocking "a" = false ∧
      (∀ other transitive, (ofTasks completed).dependents other transitive =
        (ofTasks tasks).dependents other transitive) ∧
      ∀ reference, (ofTasks completed).resolve reference =
        (ofTasks tasks).resolve reference := by
  intro tasks completed
  have changes : List.Forall₂ (Completes "a") tasks completed := by
    apply List.Forall₂.cons (.own .cancelled rfl (Or.inr rfl))
    apply List.Forall₂.cons (.other (by decide))
    apply List.Forall₂.cons (.own .done rfl (Or.inl rfl))
    exact .nil
  exact ⟨changes, ofTasks_answers_of_completes changes⟩

end TaskQuery

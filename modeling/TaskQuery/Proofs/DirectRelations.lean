/-
# What `depends on` and `blocks` mean

Both ask for one relation, that a task waits for another one directly, and each asks for
it from its own side. The task that the query names may be named by its dependency id or
by its id; the task that is asked about has an id, which is not resolved again. This
module says what the answers mean in terms of the tasks alone, and nothing is asked of
the tasks.

A text that names no task gets no as its answer, although a graph looks such a text up as
if it were an id. It finds nothing, since every edge joins ids that tasks have, and the
id of a task always names some task.
-/

import TaskQuery.Proofs.Dependents
import TaskQuery.Query.Evaluation

namespace TaskQuery

variable {tasks : List Task} {reference id : String}

/-- There is one task that a reference stands for. -/
theorem Resolves.exists_and_iff (resolves : Resolves tasks reference id)
    (property : String → Prop) :
    (∃ other, Resolves tasks reference other ∧ property other) ↔ property id := by
  constructor
  · intro found
    obtain ⟨other, alsoResolves, holds⟩ := found
    exact resolves.unique alsoResolves ▸ holds
  · intro holds
    exact ⟨id, resolves, holds⟩

/-- A task that waits has an id, and what it waits for has one. -/
theorem WaitsFor.exists_resolves {dependent dependency : String}
    (waits : WaitsFor tasks dependent dependency) :
    (∃ id, Resolves tasks dependent id) ∧ ∃ id, Resolves tasks dependency id := by
  obtain ⟨-, record, member, rfl, listed, -, resolves⟩ := waits
  obtain ⟨target, isTarget, rfl⟩ := resolves.exists_task
  exact ⟨exists_resolves_id member, exists_resolves_id isTarget⟩

namespace DependencyGraph

/-- A reference that stands for a task is resolved to it. -/
theorem resolve_ofTasks_of_resolves (resolves : Resolves tasks reference id) :
    (ofTasks tasks).resolve reference = id := by
  have found := (TaskGraph.resolve?_ofTasks_iff tasks reference id).mpr resolves
  change ((TaskGraph.ofTasks tasks).resolve? reference).getD reference = id
  rw [found, Option.getD_some]

/-- A reference that stands for no task is left as it is. -/
theorem resolve_ofTasks_of_not_resolves (nothing : ¬ ∃ id, Resolves tasks reference id) :
    (ofTasks tasks).resolve reference = reference := by
  have missing : (TaskGraph.ofTasks tasks).resolve? reference = none := by
    rw [Option.eq_none_iff_forall_ne_some]
    intro id found
    exact nothing ⟨id, (TaskGraph.resolve?_ofTasks_iff tasks reference id).mp found⟩
  change ((TaskGraph.ofTasks tasks).resolve? reference).getD reference = reference
  rw [missing, Option.getD_none]

/-- What holds of the id that a reference is resolved to holds of the task that the
reference stands for, provided it only holds of ids that stand for some task. -/
theorem holds_resolve_ofTasks_iff (property : String → Prop)
    (named : ∀ id, property id → ∃ target, Resolves tasks id target) (reference : String) :
    property ((ofTasks tasks).resolve reference) ↔
      ∃ id, Resolves tasks reference id ∧ property id := by
  by_cases known : ∃ id, Resolves tasks reference id
  · obtain ⟨id, resolves⟩ := known
    rw [resolve_ofTasks_of_resolves resolves]
    exact (resolves.exists_and_iff property).symm
  · rw [resolve_ofTasks_of_not_resolves known]
    constructor
    · intro holds
      exact absurd (named reference holds) known
    · intro found
      obtain ⟨id, resolves, _⟩ := found
      exact absurd ⟨id, resolves⟩ known

end DependencyGraph

namespace Evaluator

variable (vocabulary : Vocabulary) (today : Date) (tasks : List Task) (filter : Option Filter)

theorem evaluate_dependsOn_iff (task : Task) (reference : String) :
    (Evaluator.of ⟨vocabulary, .ofTasks tasks, today⟩ filter).evaluate task
        (.dependency (.dependsOn reference)) = true ↔
      ∃ id, Resolves tasks reference id ∧ WaitsFor tasks task.id id := by
  have resolved := DependencyGraph.holds_resolve_ofTasks_iff (WaitsFor tasks task.id)
    (fun id waits => waits.exists_resolves.2) reference
  rw [← resolved, ← TaskGraph.mem_dependentsOf_ofTasks_iff]
  exact List.contains_iff_mem

theorem evaluate_blocks_iff (task : Task) (reference : String) :
    (Evaluator.of ⟨vocabulary, .ofTasks tasks, today⟩ filter).evaluate task
        (.dependency (.blocks reference)) = true ↔
      ∃ id, Resolves tasks reference id ∧ WaitsFor tasks id task.id := by
  have resolved := DependencyGraph.holds_resolve_ofTasks_iff (WaitsFor tasks · task.id)
    (fun id waits => waits.exists_resolves.1) reference
  rw [← resolved, ← TaskGraph.mem_dependentsOf_ofTasks_iff]
  exact List.contains_iff_mem

/-- `depends on` and `blocks` mean the direct relation, under either name of a task. A task
depends on what a text names if this is an existing id other than its own and some record
with its id lists a reference to that id. It blocks what a text names if this is such an id
and some record with that id lists a reference to it. So texts that name the same task
select the same tasks, and each of the two relations is the other seen from behind. -/
theorem evaluate_relation_ofTasks_iff (vocabulary : Vocabulary) (today : Date)
    (tasks : List Task) (filter : Option Filter) :
    let evaluator := Evaluator.of ⟨vocabulary, .ofTasks tasks, today⟩ filter
    (∀ (task : Task) (reference : String),
      evaluator.evaluate task (.dependency (.dependsOn reference)) = true ↔
        ∃ id, Resolves tasks reference id ∧ (∃ named ∈ tasks, named.id = id) ∧ id ≠ task.id ∧
          ∃ record ∈ tasks, record.id = task.id ∧
            ∃ listed ∈ record.dependsOn, Resolves tasks listed id) ∧
    (∀ (task : Task) (reference : String),
      evaluator.evaluate task (.dependency (.blocks reference)) = true ↔
        ∃ id, Resolves tasks reference id ∧ (∃ named ∈ tasks, named.id = id) ∧ id ≠ task.id ∧
          ∃ record ∈ tasks, record.id = id ∧
            ∃ listed ∈ record.dependsOn, Resolves tasks listed task.id) ∧
    (∀ first second id, Resolves tasks first id → Resolves tasks second id → ∀ task,
      evaluator.evaluate task (.dependency (.dependsOn first)) =
          evaluator.evaluate task (.dependency (.dependsOn second)) ∧
        evaluator.evaluate task (.dependency (.blocks first)) =
          evaluator.evaluate task (.dependency (.blocks second))) ∧
    ∀ (a b : Task) (aName bName : String), Resolves tasks aName a.id → Resolves tasks bName b.id →
      evaluator.evaluate a (.dependency (.blocks bName)) =
        evaluator.evaluate b (.dependency (.dependsOn aName)) := by
  intro evaluator
  have dependsOn := evaluate_dependsOn_iff vocabulary today tasks filter
  have blocks := evaluate_blocks_iff vocabulary today tasks filter
  refine ⟨fun task reference => ?_, fun task reference => ?_, ?_, ?_⟩
  · rw [dependsOn]
    refine exists_congr fun id => and_congr_right fun resolves => ?_
    exact (and_iff_right resolves.exists_task).symm
  · rw [blocks]
    refine exists_congr fun id => and_congr_right fun resolves => ?_
    rw [and_iff_right resolves.exists_task, WaitsFor, ne_comm]
  · intro first second id firstNames secondNames task
    simp only [Bool.eq_iff_iff, evaluator, dependsOn, blocks, firstNames.exists_and_iff,
      secondNames.exists_and_iff, and_self]
  · intro a b aName bName aNamed bNamed
    rw [Bool.eq_iff_iff, dependsOn, blocks, aNamed.exists_and_iff, bNamed.exists_and_iff]

/-- The dependency id of the first task is the id of the second, which refers to it. The
reference leads to the first task and not back to the second. -/
theorem evaluate_relation_ofTasks_iff_colliding :
    let first : Task := { id := "a", dependencyId := some "b" }
    let second : Task := { id := "b", dependencyId := some "y", dependsOn := ["b"] }
    let tasks := [first, second]
    let evaluator := Evaluator.of ⟨.default, .ofTasks tasks, ⟨0, by decide, by decide⟩⟩ none
    (Resolves tasks "b" "a" ∧ Resolves tasks "a" "a" ∧ Resolves tasks "y" "b") ∧
      evaluator.evaluate second (.dependency (.dependsOn "b")) = true ∧
      evaluator.evaluate second (.dependency (.dependsOn "a")) = true ∧
      evaluator.evaluate first (.dependency (.blocks "y")) = true := by
  intro first second tasks evaluator
  have secondName : Resolves tasks "b" "a" := rfl
  have firstName : Resolves tasks "a" "a" := ⟨rfl, first, List.mem_cons_self, rfl⟩
  have thirdName : Resolves tasks "y" "b" := rfl
  obtain ⟨dependsOn, -, same, converse⟩ := evaluate_relation_ofTasks_iff .default
    ⟨0, by decide, by decide⟩ tasks none
  have waits : evaluator.evaluate second (.dependency (.dependsOn "b")) = true :=
    (dependsOn second "b").mpr ⟨"a", secondName, ⟨first, List.mem_cons_self, rfl⟩, by decide,
      second, by simp [tasks], rfl, "b", List.mem_cons_self, secondName⟩
  refine ⟨⟨secondName, firstName, thirdName⟩, waits, ?_, ?_⟩
  · exact (same "b" "a" "a" secondName firstName second).1 ▸ waits
  · exact (converse first second "b" "y" secondName thirdName).trans waits

end Evaluator

end TaskQuery

/-
# What a filter reads

A filter looks at a task through the fields that its comparisons name, and through the id
if it asks the graph. Everything else about the task is left unread, so two tasks that agree
there are kept or left out together.

The setting is read as sparingly. The graph answers dependency checks and nothing else, and
the day matters only where a comparison names a day by its distance from today.
-/

import TaskQuery.Proofs.Evaluation

namespace TaskQuery

open Text

/-- The words that name a day by its distance from today. -/
def relativeDays : List String :=
  ["today", "tomorrow", "yesterday"]

/-- Any other value stands for the date that it spells. -/
theorem Setting.dateOf_of_not_mem (setting : Setting) {value : String}
    (absolute : lowercase value ∉ relativeDays) : setting.dateOf value = Date.ofField? value := by
  simp only [relativeDays, List.mem_cons, List.not_mem_nil, or_false, not_or] at absolute
  obtain ⟨notToday, notTomorrow, notYesterday⟩ := absolute
  rw [dateOf.eq_def]
  split
  · exact absurd ‹_› notToday
  · exact absurd ‹_› notTomorrow
  · exact absurd ‹_› notYesterday
  · rfl

/-- A dependency check looks at nothing of a task but its id. -/
theorem Setting.checkDependency_congr (setting : Setting) {task other : Task}
    (ids : task.id = other.id) (check : DependencyCheck) :
    setting.checkDependency task check = setting.checkDependency other check := by
  cases check <;> simp only [checkDependency, ids]

namespace Evaluator

variable {evaluator : Evaluator} {task other : Task} {node : Filter}

/-- Tasks with the same values in the fields of a filter, and with the same id if the filter
asks the graph, are one to it. -/
theorem evaluate_eq_of_agree
    (fields : ∀ c ∈ node.comparisons,
      evaluator.vocabulary.resolve task c.field = evaluator.vocabulary.resolve other c.field)
    (ids : node.checks ≠ [] → task.id = other.id) :
    evaluator.evaluate task node = evaluator.evaluate other node := by
  refine evaluate_eq_of_leaves node (fun c isPart => ?_) (fun check isPart => ?_)
  · exact compare_eq_of_inputs c.operator (fields c isPart) rfl rfl rfl
  · exact evaluator.checkDependency_congr (ids (List.ne_nil_of_mem isPart)) check

/-- A filter without dependency checks does not look at the graph. -/
theorem evaluate_of_checks_eq_nil (noChecks : node.checks = []) (vocabulary : Vocabulary)
    (graph otherGraph : DependencyGraph) (today : Date) (filter : Option Filter) (task : Task) :
    (Evaluator.of ⟨vocabulary, graph, today⟩ filter).evaluate task node =
      (Evaluator.of ⟨vocabulary, otherGraph, today⟩ filter).evaluate task node := by
  refine evaluate_of_congr vocabulary today filter filter fun check isPart => ?_
  rw [noChecks] at isPart
  cases isPart

/-- A filter whose values name no relative day does not look at the day. -/
theorem evaluate_of_not_mem_relativeDays
    (absolute : ∀ c ∈ node.comparisons, lowercase c.value ∉ relativeDays)
    (vocabulary : Vocabulary) (graph : DependencyGraph) (today otherDay : Date)
    (filter : Option Filter) (task : Task) :
    (Evaluator.of ⟨vocabulary, graph, today⟩ filter).evaluate task node =
      (Evaluator.of ⟨vocabulary, graph, otherDay⟩ filter).evaluate task node := by
  refine evaluate_eq_of_leaves node (fun c isPart => ?_) (fun _ _ => rfl)
  refine compare_eq_of_inputs c.operator rfl rfl ?_ rfl
  exact (Setting.dateOf_of_not_mem _ (absolute c isPart)).trans
    (Setting.dateOf_of_not_mem _ (absolute c isPart)).symm

/-- A filter reads only what it names. It does not tell apart tasks whose values agree in the
fields of its comparisons, as long as they have the same id in case it asks the graph. If it
does not ask the graph, any graph will do, and if none of its values names a day relative to
today, any day will. -/
theorem evaluate_reads_only_named (vocabulary : Vocabulary) (filter : Option Filter)
    (node : Filter) :
    (∀ graph today task other,
      (∀ c ∈ node.comparisons,
        vocabulary.resolve task c.field = vocabulary.resolve other c.field) →
      (node.checks ≠ [] → task.id = other.id) →
        (Evaluator.of ⟨vocabulary, graph, today⟩ filter).evaluate task node =
          (Evaluator.of ⟨vocabulary, graph, today⟩ filter).evaluate other node) ∧
    (node.checks = [] → ∀ graph otherGraph today task,
      (Evaluator.of ⟨vocabulary, graph, today⟩ filter).evaluate task node =
        (Evaluator.of ⟨vocabulary, otherGraph, today⟩ filter).evaluate task node) ∧
    ((∀ c ∈ node.comparisons, lowercase c.value ∉ relativeDays) → ∀ graph today otherDay task,
      (Evaluator.of ⟨vocabulary, graph, today⟩ filter).evaluate task node =
        (Evaluator.of ⟨vocabulary, graph, otherDay⟩ filter).evaluate task node) := by
  refine ⟨fun graph today task other fields ids => ?_,
    fun noChecks graph otherGraph today task => ?_, fun absolute graph today otherDay task => ?_⟩
  · exact evaluate_eq_of_agree fields ids
  · exact evaluate_of_checks_eq_nil noChecks vocabulary graph otherGraph today filter task
  · exact evaluate_of_not_mem_relativeDays absolute vocabulary graph today otherDay filter task

/-- Two tasks with the same id and the same tags, a filter that asks the graph, and one that
compares a date. -/
theorem evaluate_reads_only_named_tags :
    let task : Task := { id := "a", tags := ["#work"], description := "first" }
    let other : Task := { id := "a", tags := ["#work"], status := .done, due := some "2025-01-01" }
    let asking : Filter := .and (.not (.comparison "TAG" .includes "#home")) (.dependency .blocked)
    let dated : Filter := .or (.comparison "due" .before "2025-02-01") (.comparison "id" .is "b")
    ((∀ c ∈ asking.comparisons,
        Vocabulary.default.resolve task c.field = Vocabulary.default.resolve other c.field) ∧
      asking.checks ≠ [] ∧ task.id = other.id ∧ dated.checks = [] ∧
      ∀ c ∈ dated.comparisons, lowercase c.value ∉ relativeDays) ∧
    ∀ filter graph otherGraph today otherDay,
      (Evaluator.of ⟨.default, graph, today⟩ filter).evaluate task asking =
          (Evaluator.of ⟨.default, graph, today⟩ filter).evaluate other asking ∧
        (Evaluator.of ⟨.default, graph, today⟩ filter).evaluate task dated =
          (Evaluator.of ⟨.default, otherGraph, today⟩ filter).evaluate task dated ∧
        (Evaluator.of ⟨.default, graph, today⟩ filter).evaluate task dated =
          (Evaluator.of ⟨.default, graph, otherDay⟩ filter).evaluate task dated := by
  intro task other asking dated
  have fields : ∀ c ∈ asking.comparisons,
      Vocabulary.default.resolve task c.field = Vocabulary.default.resolve other c.field := by
    decide +kernel
  have absolute : ∀ c ∈ dated.comparisons, lowercase c.value ∉ relativeDays := by
    decide +kernel
  refine ⟨⟨fields, by decide, rfl, rfl, absolute⟩, fun filter graph otherGraph today otherDay => ?_⟩
  refine ⟨?_, ?_, ?_⟩
  · exact (evaluate_reads_only_named .default filter asking).1 graph today task other fields
      fun _ => rfl
  · exact (evaluate_reads_only_named .default filter dated).2.1 rfl graph otherGraph today task
  · exact (evaluate_reads_only_named .default filter dated).2.2 absolute graph today otherDay task

end Evaluator

end TaskQuery

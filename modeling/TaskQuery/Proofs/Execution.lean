/-
# What running a query finds

A query is run by filtering first and sorting afterwards. Since sorting is stable and
its order is one on all tasks, the result is the same as if all tasks were sorted
first and the filter applied to the sorted list. So a conjunction can be run in two
steps, each on what the step before found. Both facts hold against one graph: what
a filter says about a task does not change with the tasks that are left.
-/

import TaskQuery.Proofs.Evaluation
import TaskQuery.Proofs.SortOrder
import TaskQuery.Query.Execution

namespace TaskQuery

namespace Evaluator

/-- The evaluator of a conjunction keeps what the evaluators of both sides keep. -/
theorem keeps_of_and (setting : Setting) (left right : Filter) (task : Task) :
    (Evaluator.of setting (some (.and left right))).keeps task =
      ((Evaluator.of setting (some left)).keeps task &&
        (Evaluator.of setting (some right)).keeps task) := by
  obtain ⟨vocabulary, graph, today⟩ := setting
  have side (filter : Filter) :
      (Evaluator.of ⟨vocabulary, graph, today⟩ (some (.and left right))).evaluate task filter =
        (Evaluator.of ⟨vocabulary, graph, today⟩ (some filter)).evaluate task filter :=
    evaluate_of_congr vocabulary today _ _ fun _ _ => rfl
  rw [keeps_of_some, keeps_of_some, keeps_of_some, evaluate, side left, side right]

end Evaluator

namespace Query

/-- A filter may be applied behind sorting instead of in front of it. -/
theorem execute_eq_filter_execute (query : Query) (filter : Option Filter) (setting : Setting)
    (tasks : List Task) :
    { query with filter := filter }.execute setting tasks =
      ({ query with filter := none }.execute setting tasks).filter
        (Evaluator.of setting filter).keeps := by
  have all : (Evaluator.of setting none).kept tasks = tasks :=
    List.filter_eq_self.mpr fun _ _ => rfl
  rw [execute, execute, all, Vocabulary.filter_sortTasks]
  rfl

/-- Filtering can change places with sorting, and a conjunction can be run step by step.
What a query with a filter finds is what the filter keeps of the result without it, in
the order of that result; and the conjunction of two filters finds what the second
finds among the results of the first. -/
theorem execute_filter_and_execute_and (query : Query) (setting : Setting) (tasks : List Task) :
    (∀ filter : Filter,
      { query with filter := some filter }.execute setting tasks =
        ({ query with filter := none }.execute setting tasks).filter fun task =>
          (Evaluator.of setting (some filter)).evaluate task filter) ∧
    ∀ left right : Filter,
      { query with filter := some (.and left right) }.execute setting tasks =
        { query with filter := some right }.execute setting
          ({ query with filter := some left }.execute setting tasks) := by
  refine ⟨fun filter => query.execute_eq_filter_execute (some filter) setting tasks, ?_⟩
  intro left right
  let vocabulary := setting.vocabulary
  let keepsLeft := (Evaluator.of setting (some left)).keeps
  let keepsRight := (Evaluator.of setting (some right)).keeps
  have both : (Evaluator.of setting (some (.and left right))).keeps =
      fun task => keepsRight task && keepsLeft task := by
    funext task
    rw [Evaluator.keeps_of_and, Bool.and_comm]
  calc vocabulary.sortTasks query.sort
          (tasks.filter (Evaluator.of setting (some (.and left right))).keeps)
      = vocabulary.sortTasks query.sort ((tasks.filter keepsLeft).filter keepsRight) := by
        rw [both, List.filter_filter]
    _ = (vocabulary.sortTasks query.sort (tasks.filter keepsLeft)).filter keepsRight :=
        (vocabulary.filter_sortTasks query.sort keepsRight _).symm
    _ = (vocabulary.sortTasks query.sort
          (vocabulary.sortTasks query.sort (tasks.filter keepsLeft))).filter keepsRight := by
        rw [vocabulary.sortTasks_sortTasks]
    _ = vocabulary.sortTasks query.sort
          ((vocabulary.sortTasks query.sort (tasks.filter keepsLeft)).filter keepsRight) :=
        vocabulary.filter_sortTasks query.sort keepsRight _

end Query

end TaskQuery

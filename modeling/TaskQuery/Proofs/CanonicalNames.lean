/-
# Names of the same field

Filtering, sorting and grouping each look up what a field name stands for, at moments of
their own. None of them uses a name for anything else, so two names of the same field can
stand for each other everywhere in a query: in a filter at any depth, in the sort keys and
as the group key.

In particular every name can be replaced by the one that it stands for, as long as this
one stands for itself. Only the target of an alias could fail to do so, by being an alias
itself or a field of the record in capitals. No such alias is in force by default, and
for a vocabulary that has one nothing is claimed.
-/

import TaskQuery.Proofs.Evaluation
import TaskQuery.Proofs.Lowering
import TaskQuery.Query.Execution

namespace TaskQuery

open Text

/-! ## Names that stand for themselves -/

namespace Vocabulary

variable {vocabulary : Vocabulary}

/-- Every alias leads to a name that stands for itself. -/
def SettledAliases (vocabulary : Vocabulary) : Prop :=
  ∀ short target, vocabulary.aliases.lookup short = some target →
    vocabulary.canonicalField target = target

/-- Aliases are settled if all entries are, those that are hidden by others included. -/
theorem settledAliases_of_forall_mem
    (settled : ∀ entry ∈ vocabulary.aliases, vocabulary.canonicalField entry.2 = entry.2) :
    vocabulary.SettledAliases := by
  intro short target found
  obtain ⟨before, behind, split, -⟩ := List.lookup_eq_some_iff.mp found
  apply settled (short, target)
  rw [split]
  exact List.mem_append_right before List.mem_cons_self

theorem settledAliases_default : default.SettledAliases :=
  settledAliases_of_forall_mem (by decide +kernel)

/-- What a name stands for stands for itself. -/
theorem SettledAliases.canonicalField_canonicalField (settled : vocabulary.SettledAliases)
    (name : String) :
    vocabulary.canonicalField (vocabulary.canonicalField name) =
      vocabulary.canonicalField name := by
  cases found : vocabulary.aliases.lookup (lowercase name) with
  | some target =>
      have stands : vocabulary.canonicalField name = target := by
        rw [canonicalField, found]
      rw [stands]
      exact settled (lowercase name) target found
  | none =>
      by_cases isField : recordFields.contains (lowercase name) = true
      · have stands : vocabulary.canonicalField name = lowercase name := by
          rw [canonicalField, found]
          exact if_pos isField
        rw [stands, canonicalField, lowercase_lowercase, found]
        exact if_pos isField
      · have stands : vocabulary.canonicalField name = name := by
          rw [canonicalField, found]
          exact if_neg isField
        rw [stands, stands]

variable {first second : String}

theorem resolve_eq_of_canonicalField_eq
    (same : vocabulary.canonicalField first = vocabulary.canonicalField second) (task : Task) :
    vocabulary.resolve task first = vocabulary.resolve task second := by
  rw [resolve, resolve, same]

theorem sortValue_eq_of_canonicalField_eq
    (same : vocabulary.canonicalField first = vocabulary.canonicalField second) (task : Task) :
    vocabulary.sortValue task first = vocabulary.sortValue task second := by
  rw [sortValue, sortValue, resolve_eq_of_canonicalField_eq same, same]

theorem groupTasks_eq_of_canonicalField_eq
    (same : vocabulary.canonicalField first = vocabulary.canonicalField second)
    (tasks : List Task) :
    vocabulary.groupTasks first tasks = vocabulary.groupTasks second tasks := by
  simp only [groupTasks, resolve, same]

end Vocabulary

theorem Evaluator.compare_eq_of_canonicalField_eq {evaluator : Evaluator} {first second : String}
    (same : evaluator.vocabulary.canonicalField first =
      evaluator.vocabulary.canonicalField second) (task : Task) :
    evaluator.compare task first = evaluator.compare task second := by
  funext operator value
  refine compare_eq_of_inputs operator ?_ ?_ rfl rfl
  · exact Vocabulary.resolve_eq_of_canonicalField_eq same task
  · rw [same]

/-! ## Other names in a filter and in a query -/

/-- The filter with other field names. -/
def Filter.renameFields (rename : String → String) : Filter → Filter
  | comparison field operator value => .comparison (rename field) operator value
  | and left right => .and (left.renameFields rename) (right.renameFields rename)
  | or left right => .or (left.renameFields rename) (right.renameFields rename)
  | not operand => .not (operand.renameFields rename)
  | dependency check => .dependency check

/-- The sort key with another field name. -/
def SortKey.renameField (rename : String → String) (key : SortKey) : SortKey :=
  { key with field := rename key.field }

/-- The query with other field names in its filter, its sort keys and its group key. -/
def Query.renameFields (rename : String → String) (query : Query) : Query where
  filter := query.filter.map (Filter.renameFields rename)
  sort := query.sort.map (SortKey.renameField rename)
  group := query.group.map rename

variable {rename : String → String}

/-- A filter keeps its meaning when every name is replaced by one of the same field. -/
theorem Evaluator.evaluate_renameFields {evaluator : Evaluator}
    (same : ∀ name, evaluator.vocabulary.canonicalField (rename name) =
      evaluator.vocabulary.canonicalField name) (task : Task) (node : Filter) :
    evaluator.evaluate task (node.renameFields rename) = evaluator.evaluate task node := by
  induction node with
  | comparison field operator value =>
      exact congrFun (congrFun (compare_eq_of_canonicalField_eq (same field) task) operator) value
  | dependency check => rfl
  | not operand ih => rw [Filter.renameFields, evaluate, evaluate, ih]
  | and left right leftIh rightIh =>
      rw [Filter.renameFields, evaluate, evaluate, leftIh, rightIh]
  | or left right leftIh rightIh =>
      rw [Filter.renameFields, evaluate, evaluate, leftIh, rightIh]

theorem Vocabulary.sortTasks_renameField {vocabulary : Vocabulary}
    (same : ∀ name, vocabulary.canonicalField (rename name) = vocabulary.canonicalField name)
    (keys : List SortKey) (tasks : List Task) :
    vocabulary.sortTasks (keys.map (SortKey.renameField rename)) tasks =
      vocabulary.sortTasks keys tasks := by
  have directions : (keys.map (SortKey.renameField rename)).map SortKey.direction =
      keys.map SortKey.direction := by
    rw [List.map_map]
    rfl
  have rows : vocabulary.sortRow (keys.map (SortKey.renameField rename)) =
      vocabulary.sortRow keys := by
    funext task
    rw [sortRow, List.map_map]
    exact List.map_congr_left fun key _ => sortValue_eq_of_canonicalField_eq (same key.field) task
  rw [sortTasks, directions, rows, sortTasks]

namespace Query

variable {setting : Setting}

theorem keeps_renameFields
    (same : ∀ name, setting.vocabulary.canonicalField (rename name) =
      setting.vocabulary.canonicalField name) (filter : Option Filter) :
    (Evaluator.of setting (filter.map (Filter.renameFields rename))).keeps =
      (Evaluator.of setting filter).keeps := by
  funext task
  cases filter with
  | none => rfl
  | some node =>
      obtain ⟨vocabulary, graph, today⟩ := setting
      let renamed := Evaluator.of ⟨vocabulary, graph, today⟩ (some (node.renameFields rename))
      rw [Option.map_some, Evaluator.keeps_of_some, Evaluator.keeps_of_some]
      calc renamed.evaluate task (node.renameFields rename)
          = renamed.evaluate task node := renamed.evaluate_renameFields same task node
        _ = (Evaluator.of ⟨vocabulary, graph, today⟩ (some node)).evaluate task node :=
            Evaluator.evaluate_of_congr vocabulary today _ _ fun _ _ => rfl

/-- A query finds the same tasks, in the same order and the same groups, when every name
is replaced by one of the same field. -/
theorem execute_renameFields
    (same : ∀ name, setting.vocabulary.canonicalField (rename name) =
      setting.vocabulary.canonicalField name) (query : Query) (tasks : List Task) :
    (query.renameFields rename).execute setting tasks = query.execute setting tasks ∧
      (query.renameFields rename).executeGrouped setting tasks =
        query.executeGrouped setting tasks := by
  have found : (query.renameFields rename).execute setting tasks =
      query.execute setting tasks := by
    rw [execute, execute, Evaluator.kept, Evaluator.kept, renameFields,
      keeps_renameFields same, Vocabulary.sortTasks_renameField same]
  refine ⟨found, ?_⟩
  rw [executeGrouped, executeGrouped, found, groupsOf.eq_def, groupsOf.eq_def, renameFields]
  cases query.group with
  | none => rfl
  | some field => exact Vocabulary.groupTasks_eq_of_canonicalField_eq (same field) _

/-- Aliases are transparent. Where every alias leads to a name that stands for itself, as
all do by default, each field name of a query can be replaced by the name that it stands
for, and the query finds the same tasks in the same order and the same groups. -/
theorem execute_canonicalField_eq :
    Vocabulary.default.SettledAliases ∧
    ∀ setting : Setting, setting.vocabulary.SettledAliases →
      ∀ (query : Query) (tasks : List Task),
        let canonical := query.renameFields setting.vocabulary.canonicalField
        canonical.execute setting tasks = query.execute setting tasks ∧
          canonical.executeGrouped setting tasks = query.executeGrouped setting tasks := by
  refine ⟨Vocabulary.settledAliases_default, fun setting settled query tasks => ?_⟩
  exact execute_renameFields settled.canonicalField_canonicalField query tasks

/-- An alias of a property and names in capitals are replaced in every part of a query. -/
theorem execute_canonicalField_eq_owner :
    let vocabulary := Vocabulary.default.withAlias "Who" "owner"
    let setting : Setting := ⟨vocabulary, .empty, ⟨0, by decide, by decide⟩⟩
    let query : Query :=
      { filter := some (.not (.comparison "WHO" .is "bob"))
        sort := [⟨"Due_Date", .desc⟩]
        group := some "TAG" }
    let canonical : Query :=
      { filter := some (.not (.comparison "owner" .is "bob"))
        sort := [⟨"due", .desc⟩]
        group := some "tags" }
    vocabulary.SettledAliases ∧
      query.renameFields vocabulary.canonicalField = canonical ∧
      ∀ tasks, canonical.execute setting tasks = query.execute setting tasks ∧
        canonical.executeGrouped setting tasks = query.executeGrouped setting tasks := by
  intro vocabulary setting query canonical
  have settled : vocabulary.SettledAliases :=
    Vocabulary.settledAliases_of_forall_mem (by decide +kernel)
  have renamed : query.renameFields vocabulary.canonicalField = canonical := by decide +kernel
  refine ⟨settled, renamed, fun tasks => ?_⟩
  rw [← renamed]
  exact execute_canonicalField_eq.2 setting settled query tasks

end Query

end TaskQuery

/-
# What a query uses of a vocabulary

One vocabulary is handed to every stage of a run, and each stage looks up only what the query
makes it look up. Filters, sort keys and the group key ask what their field names stand for.
Comparisons and sort keys ask whether such a field holds dates, and sort keys for the priority
ask for ranks. So vocabularies that say the same about the names of a query find the same
tasks, in the same order and the same groups.

It follows that a further entry changes the results of those queries only that name it.
Expected fields and status words are never looked up after a query was read, and in reading,
status words are all that is looked up to find out what the query is.
-/

import TaskQuery.Proofs.AlikeTokens
import TaskQuery.Proofs.Evaluation
import TaskQuery.Query.Execution

namespace TaskQuery

open Text

/-- The field names of a query: in its comparisons, in its sort keys and in its group key. -/
def Query.fields (query : Query) : List String :=
  query.comparisons.map Comparison.field ++ query.sort.map SortKey.field ++ query.group.toList

namespace Query

variable {query : Query} {first second : Vocabulary}

theorem field_mem_fields_of_comparison {c : Comparison} (member : c ∈ query.comparisons) :
    c.field ∈ query.fields :=
  List.mem_append_left _ (List.mem_append_left _ (List.mem_map_of_mem member))

theorem field_mem_fields_of_key {key : SortKey} (member : key ∈ query.sort) :
    key.field ∈ query.fields :=
  List.mem_append_left _ (List.mem_append_right _ (List.mem_map_of_mem member))

theorem field_mem_fields_of_group {field : String} (isKey : query.group = some field) :
    field ∈ query.fields :=
  List.mem_append_right _ (by rw [isKey]; exact List.mem_cons_self)

/-! ## Agreeing vocabularies -/

/-- Two vocabularies say the same about everything that a query names. -/
structure UsesAlike (query : Query) (first second : Vocabulary) : Prop where
  canonicalField_eq : ∀ field ∈ query.fields,
    first.canonicalField field = second.canonicalField field
  isDateField_eq : ∀ field ∈ query.fields,
    first.isDateField (first.canonicalField field) =
      second.isDateField (first.canonicalField field)
  priorityRank_eq : ∀ key ∈ query.sort, first.canonicalField key.field = priorityField →
    first.priorityRank = second.priorityRank

namespace UsesAlike

theorem resolve_eq (alike : query.UsesAlike first second) {field : String}
    (named : field ∈ query.fields) (task : Task) :
    first.resolve task field = second.resolve task field := by
  rw [Vocabulary.resolve, Vocabulary.resolve, alike.canonicalField_eq field named]

theorem isDateField_canonicalField_eq (alike : query.UsesAlike first second) {field : String}
    (named : field ∈ query.fields) :
    first.isDateField (first.canonicalField field) =
      second.isDateField (second.canonicalField field) := by
  rw [← alike.canonicalField_eq field named]
  exact alike.isDateField_eq field named

theorem evaluate_eq (alike : query.UsesAlike first second) (graph : DependencyGraph) (today : Date)
    {filter : Filter} (isFilter : query.filter = some filter) (task : Task) :
    (Evaluator.of ⟨first, graph, today⟩ (some filter)).evaluate task filter =
      (Evaluator.of ⟨second, graph, today⟩ (some filter)).evaluate task filter := by
  refine Evaluator.evaluate_eq_of_leaves filter (fun c isPart => ?_) (fun _ _ => rfl)
  have named : c.field ∈ query.fields :=
    field_mem_fields_of_comparison (by rw [comparisons, isFilter]; exact isPart)
  exact Evaluator.compare_eq_of_inputs c.operator (alike.resolve_eq named task)
    (alike.isDateField_canonicalField_eq named) (Evaluator.dateOf_congr rfl c.value)
    (Evaluator.patternOf_of _ _ _ _ c.value)

theorem keeps_eq (alike : query.UsesAlike first second) (graph : DependencyGraph) (today : Date) :
    (Evaluator.of ⟨first, graph, today⟩ query.filter).keeps =
      (Evaluator.of ⟨second, graph, today⟩ query.filter).keeps := by
  funext task
  cases isFilter : query.filter with
  | none => rw [Evaluator.keeps_of_none, Evaluator.keeps_of_none]
  | some filter =>
      rw [Evaluator.keeps_of_some, Evaluator.keeps_of_some]
      exact alike.evaluate_eq graph today isFilter task

theorem sortValue_eq (alike : query.UsesAlike first second) {key : SortKey}
    (isKey : key ∈ query.sort) (task : Task) :
    first.sortValue task key.field = second.sortValue task key.field := by
  have named := field_mem_fields_of_key isKey
  rw [Vocabulary.sortValue, Vocabulary.sortValue, ← alike.resolve_eq named,
    ← alike.isDateField_canonicalField_eq named, ← alike.canonicalField_eq _ named]
  by_cases isPriority : first.canonicalField key.field = priorityField
  · rw [alike.priorityRank_eq key isKey isPriority]
  · simp only [beq_eq_false_iff_ne.mpr isPriority, Bool.false_eq_true, if_false]

theorem sortTasks_eq (alike : query.UsesAlike first second) :
    first.sortTasks query.sort = second.sortTasks query.sort := by
  have rows : first.sortRow query.sort = second.sortRow query.sort := by
    funext task
    exact List.map_congr_left fun key isKey => alike.sortValue_eq isKey task
  funext tasks
  rw [Vocabulary.sortTasks, Vocabulary.sortTasks, rows]

theorem groupsOf_eq (alike : query.UsesAlike first second) :
    query.groupsOf first = query.groupsOf second := by
  funext tasks
  rw [groupsOf.eq_def, groupsOf.eq_def]
  cases hasKey : query.group with
  | none => rfl
  | some field =>
      simp only [Vocabulary.groupTasks,
        fun task => alike.resolve_eq (field_mem_fields_of_group hasKey) task]

end UsesAlike

/-- A query finds the same tasks under two vocabularies, in the same order and the same
groups, whatever the tasks, their graph and the day. -/
def FindsAlike (query : Query) (first second : Vocabulary) : Prop :=
  ∀ graph today tasks,
    query.execute ⟨first, graph, today⟩ tasks = query.execute ⟨second, graph, today⟩ tasks ∧
      query.executeGrouped ⟨first, graph, today⟩ tasks =
        query.executeGrouped ⟨second, graph, today⟩ tasks

/-- Nothing matters to the results but what the query names. -/
theorem UsesAlike.findsAlike (alike : query.UsesAlike first second) :
    query.FindsAlike first second := by
  intro graph today tasks
  have found : query.execute ⟨first, graph, today⟩ tasks =
      query.execute ⟨second, graph, today⟩ tasks := by
    rw [execute, execute, Evaluator.kept, Evaluator.kept, alike.keeps_eq, alike.sortTasks_eq]
  refine ⟨found, ?_⟩
  rw [executeGrouped, executeGrouped, found, alike.groupsOf_eq]

/-! ## Further entries -/

variable {vocabulary : Vocabulary}

theorem usesAlike_withCustomField (query : Query) (vocabulary : Vocabulary) (name : String) :
    query.UsesAlike (vocabulary.withCustomField name) vocabulary :=
  ⟨fun _ _ => rfl, fun _ _ => rfl, fun _ _ _ => rfl⟩

theorem usesAlike_withStatusWord (query : Query) (vocabulary : Vocabulary) (word : String) :
    query.UsesAlike (vocabulary.withStatusWord word) vocabulary :=
  ⟨fun _ _ => rfl, fun _ _ => rfl, fun _ _ _ => rfl⟩

/-- An alias is looked up under its own short name only. -/
theorem canonicalField_withAlias {short field : String} (canonical : String)
    (other : lowercase field ≠ lowercase short) :
    (vocabulary.withAlias short canonical).canonicalField field =
      vocabulary.canonicalField field := by
  rw [Vocabulary.canonicalField, Vocabulary.canonicalField, Vocabulary.withAlias,
    List.lookup_cons, beq_eq_false_iff_ne.mpr other]

theorem usesAlike_withAlias {short : String} (canonical : String)
    (unnamed : ∀ field ∈ query.fields, lowercase field ≠ lowercase short) :
    query.UsesAlike (vocabulary.withAlias short canonical) vocabulary :=
  ⟨fun field named => canonicalField_withAlias canonical (unnamed field named),
    fun _ _ => rfl, fun _ _ _ => rfl⟩

theorem usesAlike_withDateField {name : String}
    (unnamed : ∀ field ∈ query.fields, vocabulary.canonicalField field ≠ name) :
    query.UsesAlike (vocabulary.withDateField name) vocabulary := by
  refine ⟨fun _ _ => rfl, fun field named => ?_, fun _ _ _ => rfl⟩
  have other : (vocabulary.canonicalField field == name) = false :=
    beq_eq_false_iff_ne.mpr (unnamed field named)
  change (name :: vocabulary.dateFields).contains (vocabulary.canonicalField field) =
    vocabulary.dateFields.contains (vocabulary.canonicalField field)
  rw [List.contains_cons, other, Bool.false_or]

theorem usesAlike_priorityRanks (ranks : List (String × Nat))
    (unsorted : ∀ key ∈ query.sort, vocabulary.canonicalField key.field ≠ priorityField) :
    query.UsesAlike { vocabulary with priorityRanks := ranks } vocabulary :=
  ⟨fun _ _ => rfl, fun _ _ => rfl,
    fun key isKey isPriority => absurd isPriority (unsorted key isKey)⟩

/-- What a text is read as depends on the status words of the vocabulary and on nothing
else. -/
theorem parse_query_eq (statusWords : ∀ word, first.isStatusWord word = second.isStatusWord word)
    (input : String) : (Query.parse first input).query = (Query.parse second input).query := by
  have readsAlike : ReadsAlike Eq first second :=
    ⟨fun _ => rfl, congrArg lowercase, statusWords⟩
  have sameTokens : List.Forall₂ (Token.Alike Eq) (tokenize input).tokens (tokenize input).tokens :=
    List.forall₂_same.mpr fun _ _ => ⟨rfl, fun _ => rfl⟩
  exact (Query.parseTokens_alike readsAlike sameTokens).eq

/-- The entries of a vocabulary do not meddle with each other. A further expected field or
status word changes no result. Nor does an alias that the query does not use, a date field
that no name of the query stands for, or any ranks of priorities unless the query sorts by
them. And what is read from a text is the same for all vocabularies with the same status
words. -/
theorem findsAlike_of_unnamed_entry (vocabulary : Vocabulary) (query : Query) :
    (∀ name, query.FindsAlike (vocabulary.withCustomField name) vocabulary) ∧
    (∀ word, query.FindsAlike (vocabulary.withStatusWord word) vocabulary) ∧
    (∀ short canonical, (∀ field ∈ query.fields, lowercase field ≠ lowercase short) →
      query.FindsAlike (vocabulary.withAlias short canonical) vocabulary) ∧
    (∀ name, (∀ field ∈ query.fields, vocabulary.canonicalField field ≠ name) →
      query.FindsAlike (vocabulary.withDateField name) vocabulary) ∧
    (∀ ranks, (∀ key ∈ query.sort, vocabulary.canonicalField key.field ≠ priorityField) →
      query.FindsAlike { vocabulary with priorityRanks := ranks } vocabulary) ∧
    ∀ other : Vocabulary, (∀ word, vocabulary.isStatusWord word = other.isStatusWord word) →
      ∀ input, (Query.parse vocabulary input).query = (Query.parse other input).query :=
  ⟨fun name => (usesAlike_withCustomField query vocabulary name).findsAlike,
    fun word => (usesAlike_withStatusWord query vocabulary word).findsAlike,
    fun _ canonical unnamed => (usesAlike_withAlias canonical unnamed).findsAlike,
    fun _ unnamed => (usesAlike_withDateField unnamed).findsAlike,
    fun ranks unsorted => (usesAlike_priorityRanks ranks unsorted).findsAlike,
    fun _ statusWords input => parse_query_eq statusWords input⟩

/-- A query that compares a date, sorts by it and groups by an alias of the tags. -/
theorem findsAlike_of_unnamed_entry_due :
    let query : Query :=
      { filter := some (.and (.comparison "Due" .before "today") (.comparison "size" .is "2")),
        sort := [⟨"due", .desc⟩], group := some "TAG" }
    let ranks := [("urgent", 0)]
    let renamed := Vocabulary.default.withAlias "T" "tags"
    ((∀ field ∈ query.fields, lowercase field ≠ lowercase "T") ∧
      (∀ field ∈ query.fields, Vocabulary.default.canonicalField field ≠ "priority") ∧
      (∀ key ∈ query.sort, Vocabulary.default.canonicalField key.field ≠ priorityField) ∧
      ∀ word, Vocabulary.default.isStatusWord word = renamed.isStatusWord word) ∧
    query.FindsAlike renamed .default ∧
    query.FindsAlike (Vocabulary.default.withDateField "priority") .default ∧
    query.FindsAlike { Vocabulary.default with priorityRanks := ranks } .default ∧
    ∀ input, (Query.parse .default input).query = (Query.parse renamed input).query := by
  intro query ranks renamed
  have unused : ∀ field ∈ query.fields, lowercase field ≠ lowercase "T" := by decide +kernel
  have undated : ∀ field ∈ query.fields,
      Vocabulary.default.canonicalField field ≠ "priority" := by decide +kernel
  have unsorted : ∀ key ∈ query.sort,
      Vocabulary.default.canonicalField key.field ≠ priorityField := by decide +kernel
  have statusWords (word : String) :
      Vocabulary.default.isStatusWord word = renamed.isStatusWord word := rfl
  obtain ⟨-, -, aliased, dated, ranked, read⟩ := findsAlike_of_unnamed_entry .default query
  exact ⟨⟨unused, undated, unsorted, statusWords⟩, aliased "T" "tags" unused,
    dated "priority" undated, ranked ranks unsorted, read renamed statusWords⟩

end Query

end TaskQuery

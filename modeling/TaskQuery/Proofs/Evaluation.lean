/-
# What evaluation depends on

A filter is evaluated through its leaves: two evaluators that answer every comparison
and every dependency check of a filter alike give the same result for the whole. A
comparison looks at the vocabulary, at the date of the day and at compiled patterns,
and a check looks at the graph.

Which patterns were compiled beforehand does not matter. Every pattern that an
evaluator finds among them is what compiling it now would give, so the filter that
an evaluator was built for has no influence on what it says about other filters.
-/

import TaskQuery.Query.Evaluation

namespace TaskQuery

/-- The dependency checks of a filter, from left to right. -/
def Filter.checks : Filter → List DependencyCheck
  | comparison .. => []
  | and left right => left.checks ++ right.checks
  | or left right => left.checks ++ right.checks
  | not operand => operand.checks
  | dependency check => [check]

namespace Evaluator

variable {first second : Evaluator} {task other : Task}

/-! ## Leaves -/

/-- Evaluators that agree on the leaves of a filter agree on the filter, each on a task of
its own. -/
theorem evaluate_eq_of_leaves (node : Filter)
    (comparisons : ∀ c ∈ node.comparisons,
      first.compare task c.field c.operator c.value =
        second.compare other c.field c.operator c.value)
    (checks : ∀ check ∈ node.checks,
      first.checkDependency task check = second.checkDependency other check) :
    first.evaluate task node = second.evaluate other node := by
  induction node with
  | comparison field operator value =>
      exact comparisons ⟨field, operator, value⟩ List.mem_cons_self
  | dependency check => exact checks check List.mem_cons_self
  | not operand ih => rw [evaluate, evaluate, ih comparisons checks]
  | and left right leftIh rightIh =>
      simp only [Filter.comparisons, Filter.checks, List.forall_mem_append] at comparisons checks
      rw [evaluate, evaluate, leftIh comparisons.1 checks.1, rightIh comparisons.2 checks.2]
  | or left right leftIh rightIh =>
      simp only [Filter.comparisons, Filter.checks, List.forall_mem_append] at comparisons checks
      rw [evaluate, evaluate, leftIh comparisons.1 checks.1, rightIh comparisons.2 checks.2]

/-- A comparison looks at the value of its field, at whether the field holds dates, and at
its own value, as a date and as a pattern. -/
theorem compare_eq_of_inputs {field otherField value : String} (operator : Operator)
    (resolved : first.vocabulary.resolve task field = second.vocabulary.resolve other otherField)
    (isDate : first.vocabulary.isDateField (first.vocabulary.canonicalField field) =
      second.vocabulary.isDateField (second.vocabulary.canonicalField otherField))
    (dates : first.dateOf value = second.dateOf value)
    (patterns : first.patternOf value = second.patternOf value) :
    first.compare task field operator value = second.compare other otherField operator value := by
  have pairs (actual : FieldValue) :
      first.datePair actual value = second.datePair actual value := by
    rw [Setting.datePair.eq_def, Setting.datePair.eq_def, dates]
  cases operator <;>
    simp only [compare, relatesToPattern, Setting.relates, Setting.isEqual,
      Operator.splitNegation, resolved, isDate, pairs, patterns]

/-- What a value stands for as a date is a matter of the day. -/
theorem dateOf_congr (today : first.today = second.today) (value : String) :
    first.dateOf value = second.dateOf value := by
  rw [Setting.dateOf, Setting.dateOf, today]

/-- A comparison depends on the vocabulary, on the day and on the patterns. -/
theorem compare_congr (vocabulary : first.vocabulary = second.vocabulary)
    (today : first.today = second.today)
    (patterns : ∀ pattern, first.patternOf pattern = second.patternOf pattern) :
    first.compare = second.compare := by
  funext task field operator value
  refine compare_eq_of_inputs operator ?_ ?_ (dateOf_congr today value) (patterns value)
  · rw [vocabulary]
  · rw [vocabulary]

/-! ## Patterns -/

/-- Every pattern that stands among those compiled beforehand is what compiling it now
would give. -/
def IsFaithful (evaluator : Evaluator) : Prop :=
  ∀ pattern compiled, evaluator.compiled.lookup pattern = some compiled →
    compiled = Pattern.compile pattern

theorem isFaithful_of (setting : Setting) (filter : Option Filter) :
    (Evaluator.of setting filter).IsFaithful := by
  intro pattern compiled found
  obtain ⟨before, behind, split, -⟩ := List.lookup_eq_some_iff.mp found
  have entered : (pattern, compiled) ∈ (Evaluator.of setting filter).compiled := by
    rw [split]
    exact List.mem_append_right before List.mem_cons_self
  obtain ⟨entry, -, same⟩ := List.mem_map.mp entered
  obtain ⟨rfl, rfl⟩ := Prod.mk.inj same
  rfl

/-- Looking a pattern up and compiling it when it is missing comes to compiling it. -/
theorem IsFaithful.patternOf_eq {evaluator : Evaluator} (faithful : evaluator.IsFaithful)
    (pattern : String) : evaluator.patternOf pattern = Pattern.compile pattern := by
  rw [patternOf]
  cases found : evaluator.compiled.lookup pattern with
  | none => rfl
  | some compiled => exact faithful pattern compiled found

/-- Two evaluators meet the same patterns, whatever filters they were built for. -/
theorem patternOf_of (setting other : Setting) (filter otherFilter : Option Filter)
    (pattern : String) :
    (Evaluator.of setting filter).patternOf pattern =
      (Evaluator.of other otherFilter).patternOf pattern := by
  rw [(isFaithful_of setting filter).patternOf_eq, (isFaithful_of other otherFilter).patternOf_eq]

/-- Neither the graph nor the filter that an evaluator was built for enters into a
comparison. -/
theorem compare_of (vocabulary : Vocabulary) (today : Date) (graph other : DependencyGraph)
    (filter otherFilter : Option Filter) :
    (Evaluator.of ⟨vocabulary, graph, today⟩ filter).compare =
      (Evaluator.of ⟨vocabulary, other, today⟩ otherFilter).compare :=
  compare_congr rfl rfl (patternOf_of _ _ filter otherFilter)

/-- Evaluators for the same vocabulary and day agree on a filter if their graphs answer its
checks alike. -/
theorem evaluate_of_congr (vocabulary : Vocabulary) (today : Date) {graph other : DependencyGraph}
    (filter otherFilter : Option Filter) {node : Filter}
    (checks : ∀ check ∈ node.checks,
      (⟨vocabulary, graph, today⟩ : Setting).checkDependency task check =
        (⟨vocabulary, other, today⟩ : Setting).checkDependency task check) :
    (Evaluator.of ⟨vocabulary, graph, today⟩ filter).evaluate task node =
      (Evaluator.of ⟨vocabulary, other, today⟩ otherFilter).evaluate task node := by
  refine evaluate_eq_of_leaves node (fun c _ => ?_) checks
  rw [compare_of vocabulary today graph other filter otherFilter]

/-- Compiling the patterns of a filter beforehand changes no answer. On every filter, its
own or another, an evaluator says what one says that compiles every pattern when it
meets it. -/
theorem evaluate_of_eq_evaluate_on_demand (setting : Setting) (filter : Option Filter)
    (node : Filter) (task : Task) :
    (Evaluator.of setting filter).evaluate task node =
      (Evaluator.of setting none).evaluate task node := by
  obtain ⟨vocabulary, graph, today⟩ := setting
  refine evaluate_eq_of_leaves node (fun c _ => ?_) (fun _ _ => rfl)
  rw [compare_of vocabulary today graph graph filter none]

/-! ## Keeping tasks -/

theorem keeps_of_none (setting : Setting) (task : Task) :
    (Evaluator.of setting none).keeps task = true :=
  rfl

theorem keeps_of_some (setting : Setting) (filter : Filter) (task : Task) :
    (Evaluator.of setting (some filter)).keeps task =
      (Evaluator.of setting (some filter)).evaluate task filter :=
  rfl

end Evaluator

end TaskQuery

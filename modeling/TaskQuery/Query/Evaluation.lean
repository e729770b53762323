/-
# Evaluating filters

A filter is evaluated on one task at a time, in a setting that is the same for all
tasks of a run: a vocabulary, a dependency graph and the date of the day. Text is
compared without regard to letter case, dates by the calendar, and a list by its
items.

An evaluator has the patterns of its filter compiled beforehand. A filter from
elsewhere may hold other patterns, which are compiled when they are met; both ways
give the same answer, because a pattern is compiled from its text alone.
-/

import TaskQuery.Calendar.Reading
import TaskQuery.Pattern.Basic
import TaskQuery.Query.Basic
import TaskQuery.Query.Diagnostic
import TaskQuery.Query.Vocabulary
import TaskQuery.Task.Graph
import TaskQuery.Text.Occurrence

namespace TaskQuery

open Text

/-- What the evaluation of a query depends on besides the tasks. -/
structure Setting where
  vocabulary : Vocabulary
  graph : DependencyGraph
  today : Date

/-- A pattern as it was compiled, or why it was refused. -/
abbrev CompiledPattern : Type :=
  Except Pattern.Fault Pattern

/-- A filter in a setting, with its patterns compiled. -/
structure Evaluator extends Setting where
  filter : Option Filter
  compiled : List (String × CompiledPattern)

/-! ## Comparisons -/

/-- The date that the value of a comparison stands for. Three words stand for the
days around today, if the calendar has them. -/
def Setting.dateOf (setting : Setting) (value : String) : Option Date :=
  match lowercase value with
  | "today" => some setting.today
  | "tomorrow" => setting.today.next?
  | "yesterday" => setting.today.previous?
  | _ => Date.ofField? value

/-- Both sides of a comparison as dates. -/
def Setting.datePair (setting : Setting) (actual : FieldValue) (expected : String) :
    Option (Date × Date) :=
  match actual with
  | .text text => do return (← Date.ofField? text, ← setting.dateOf expected)
  | .missing | .list _ => none

/-- Whether a field holds a value, apart from letter case, as its text or as an
item of its list. -/
def FieldValue.holds (actual : FieldValue) (expected : String) : Bool :=
  match actual with
  | .missing => false
  | .text held => lowercase held == lowercase expected
  | .list items => items.any fun item => lowercase item == lowercase expected

/-- Whether a value occurs in a text, or is an item of a list, apart from letter
case. -/
def FieldValue.includes (actual : FieldValue) (expected : String) : Bool :=
  match actual with
  | .missing => false
  | .text held => occursIn (lowercase expected).toList (lowercase held).toList
  | .list items => items.any fun item => lowercase item == lowercase expected

/-- Whether a field equals a value: as dates where the field holds dates and both
sides are dates, and otherwise as text. -/
def Setting.isEqual (setting : Setting) (field : String) (actual : FieldValue)
    (expected : String) : Bool :=
  let vocabulary := setting.vocabulary
  if vocabulary.isDateField (vocabulary.canonicalField field) then
    match setting.datePair actual expected with
    | some (actualDate, expectedDate) => actualDate == expectedDate
    | none => actual.holds expected
  else actual.holds expected

/-- Whether a field stands in a relation to a value. Patterns are not a matter of
the setting and are left out. -/
def Setting.relates (setting : Setting) (task : Task) (field : String) (operator : Operator)
    (value : String) : Bool :=
  let actual := setting.vocabulary.resolve task field
  match operator with
  | .is => setting.isEqual field actual value
  | .includes => actual.includes value
  | .before => (setting.datePair actual value).any fun (date, limit) => decide (date < limit)
  | .after => (setting.datePair actual value).any fun (date, limit) => decide (limit < date)
  | .isNot | .notIncludes | .matchesPattern | .notMatchesPattern => false

/-- What the graph says about a task. -/
def Setting.checkDependency (setting : Setting) (task : Task) : DependencyCheck → Bool
  | .blocked => setting.graph.isBlocked task.id
  | .notBlocked => !setting.graph.isBlocked task.id
  | .blocking => setting.graph.isBlocking task.id
  | .dependsOn target =>
      (setting.graph.dependents (setting.graph.resolve target) false).contains task.id
  | .blocks target =>
      (setting.graph.dependents task.id false).contains (setting.graph.resolve target)

/-! ## Evaluators -/

namespace Evaluator

/-- The evaluator of a filter. Without a filter every task is kept. -/
def of (setting : Setting) (filter : Option Filter) : Evaluator where
  toSetting := setting
  filter := filter
  compiled := ((filter.elim [] Filter.patterns).eraseDups).map fun pattern =>
    (pattern, Pattern.compile pattern)

/-- A pattern, compiled beforehand or now. -/
def patternOf (evaluator : Evaluator) (pattern : String) : CompiledPattern :=
  match evaluator.compiled.lookup pattern with
  | some compiled => compiled
  | none => Pattern.compile pattern

/-- Whether a field fits a pattern, or does not fit it. A pattern that was refused
makes both false. -/
def relatesToPattern (evaluator : Evaluator) (task : Task) (field : String) (fits : Bool)
    (pattern : String) : Bool :=
  match evaluator.patternOf pattern with
  | .ok compiled =>
      compiled.fits (evaluator.vocabulary.resolve task field).toText == fits
  | .error _ => false

/-- Evaluates a comparison. -/
def compare (evaluator : Evaluator) (task : Task) (field : String) (operator : Operator)
    (value : String) : Bool :=
  match operator with
  | .matchesPattern => evaluator.relatesToPattern task field true value
  | .notMatchesPattern => evaluator.relatesToPattern task field false value
  | _ =>
      let (positive, negated) := operator.splitNegation
      evaluator.relates task field positive value != negated

/-- Evaluates a filter, which may be another than the evaluator's own. -/
def evaluate (evaluator : Evaluator) (task : Task) : Filter → Bool
  | .comparison field operator value => evaluator.compare task field operator value
  | .and left right => evaluator.evaluate task left && evaluator.evaluate task right
  | .or left right => evaluator.evaluate task left || evaluator.evaluate task right
  | .not operand => !evaluator.evaluate task operand
  | .dependency check => evaluator.checkDependency task check

/-- Whether the evaluator's filter keeps a task. -/
def keeps (evaluator : Evaluator) (task : Task) : Bool :=
  evaluator.filter.all (evaluator.evaluate task)

/-- The tasks that are kept, in the order in which they came. -/
def kept (evaluator : Evaluator) (tasks : List Task) : List Task :=
  tasks.filter evaluator.keeps

/-- The patterns of the filter that were refused, each once and in the order of the
wordings. -/
def patternErrors [Pattern.Wording] (evaluator : Evaluator) : List Diagnostic :=
  let refused := evaluator.compiled.filterMap fun (pattern, compiled) =>
    match compiled with
    | .ok _ => none
    | .error fault => some (Diagnostic.invalidPattern pattern fault)
  refused.mergeSort fun a b => a.message ≤ b.message

end Evaluator

end TaskQuery

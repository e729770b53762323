/-
# Filters

A filter says which tasks a query keeps. Its leaves compare a field with a value
or ask the dependency graph; they are joined by AND, OR and NOT. The tree carries
text as it was written: what a field name or a value means is decided by a
vocabulary when the filter is evaluated.
-/

namespace TaskQuery

/-- How a comparison relates a field to its value. -/
inductive Operator
  | is
  | isNot
  | includes
  | notIncludes
  | before
  | after
  | matchesPattern
  | notMatchesPattern
  deriving DecidableEq, Repr

namespace Operator

/-- The operator as a query writes it. -/
def text : Operator → String
  | is => "is"
  | isNot => "is not"
  | includes => "includes"
  | notIncludes => "not includes"
  | before => "before"
  | after => "after"
  | matchesPattern => "matches"
  | notMatchesPattern => "not matches"

/-- The operator without its negation, and whether it had one. -/
def splitNegation : Operator → Operator × Bool
  | isNot => (is, true)
  | notIncludes => (includes, true)
  | notMatchesPattern => (matchesPattern, true)
  | operator => (operator, false)

/-- Whether the value of a comparison is a pattern. -/
def takesPattern : Operator → Bool
  | matchesPattern | notMatchesPattern => true
  | _ => false

end Operator

/-- A question that the dependency graph answers about a task. -/
inductive DependencyCheck
  | blocked
  | notBlocked
  | blocking
  | dependsOn (target : String)
  | blocks (target : String)
  deriving DecidableEq, Repr

/-- The task that a check names, if it names one. -/
def DependencyCheck.target? : DependencyCheck → Option String
  | blocked | notBlocked | blocking => none
  | dependsOn target | blocks target => some target

/-- The condition of a query. -/
inductive Filter
  | comparison (field : String) (operator : Operator) (value : String)
  | and (left right : Filter)
  | or (left right : Filter)
  | not (operand : Filter)
  | dependency (check : DependencyCheck)
  deriving DecidableEq, Repr

/-- A comparison of a filter, taken out of its tree. -/
structure Comparison where
  field : String
  operator : Operator
  value : String
  deriving DecidableEq, Repr

namespace Filter

/-- The comparisons of a filter, from left to right. -/
def comparisons : Filter → List Comparison
  | comparison field operator value => [⟨field, operator, value⟩]
  | and left right => left.comparisons ++ right.comparisons
  | or left right => left.comparisons ++ right.comparisons
  | not operand => operand.comparisons
  | dependency _ => []

/-- The patterns of a filter, from left to right and with repetitions. -/
def patterns (filter : Filter) : List String :=
  (filter.comparisons.filter fun c => c.operator.takesPattern).map Comparison.value

end Filter

end TaskQuery

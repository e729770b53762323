/-
# Queries

A query is an optional filter, a list of sort keys and an optional field to group
by. Without a filter every task is kept, and without sort keys the tasks stay in
the order in which they came.
-/

import TaskQuery.Query.Filter

namespace TaskQuery

/-- The direction of a sort key. -/
inductive SortDirection
  | asc
  | desc
  deriving DecidableEq, Repr

/-- The direction as a query writes it. -/
def SortDirection.text : SortDirection → String
  | asc => "asc"
  | desc => "desc"

/-- One key of a `sort by` clause. -/
structure SortKey where
  field : String
  direction : SortDirection := .asc
  deriving DecidableEq, Repr

/-- The meaning of a query text. -/
structure Query where
  filter : Option Filter := none
  sort : List SortKey := []
  group : Option String := none
  deriving DecidableEq, Repr

namespace Query

/-- Whether a query neither filters, nor sorts, nor groups. -/
def isEmpty (query : Query) : Bool :=
  query.filter.isNone && query.sort.isEmpty && query.group.isNone

/-- The comparisons of a query's filter, none without a filter. -/
def comparisons (query : Query) : List Comparison :=
  query.filter.elim [] Filter.comparisons

end Query

end TaskQuery

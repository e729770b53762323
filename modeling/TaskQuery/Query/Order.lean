/-
# Sorting tasks

Tasks are put in order by several keys, of which a later one counts only where all
earlier ones find no difference, and tasks without any difference stay in the order
in which they came. A task without a value for a key comes last; a descending key
turns its whole order around, so such a task then comes first.

The priority is ordered by the ranks of the vocabulary, fields of dates by instants,
and all else by its text, letter case included.
-/

import TaskQuery.Calendar.Instant
import TaskQuery.Query.Basic
import TaskQuery.Query.Vocabulary

namespace TaskQuery

/-- What a task is ordered by. Values of different kinds, which no key mixes, are
ordered by kind. -/
inductive SortValue
  | rank (value : Nat)
  | instant (value : Instant)
  | text (value : String)
  deriving DecidableEq, Repr

namespace SortValue

/-- The order of two values. -/
protected def compare : SortValue → SortValue → Ordering
  | rank a, rank b => compare a b
  | rank _, _ => .lt
  | instant _, rank _ => .gt
  | instant a, instant b => compare a b
  | instant _, text _ => .lt
  | text a, text b => compare a b
  | text _, _ => .gt

instance : Ord SortValue where
  compare := SortValue.compare

end SortValue

/-- The order of two values of which either may be absent. -/
def compareOptional : Option SortValue → Option SortValue → Ordering
  | none, none => .eq
  | none, some _ => .gt
  | some _, none => .lt
  | some a, some b => compare a b

/-- The order of two values in a direction. -/
def SortDirection.compare (direction : SortDirection) (a b : Option SortValue) : Ordering :=
  match direction with
  | asc => compareOptional a b
  | desc => (compareOptional a b).swap

/-- The order of two rows of values, by the first direction in which they differ. -/
def compareRows : List SortDirection → List (Option SortValue) → List (Option SortValue) →
    Ordering
  | direction :: directions, a :: as, b :: bs =>
      (direction.compare a b).then (compareRows directions as bs)
  | _, _, _ => .eq

namespace Vocabulary

/-- What a task is ordered by under a field, if it has a value there. -/
def sortValue (vocabulary : Vocabulary) (task : Task) (field : String) : Option SortValue :=
  let value := vocabulary.resolve task field
  let canonical := vocabulary.canonicalField field
  if value.isMissing then none
  else if canonical == priorityField then
    some (.rank (vocabulary.priorityRank value.toText))
  else if vocabulary.isDateField canonical then
    (Instant.ofText? value.toText).map .instant
  else some (.text value.toText)

/-- What a task is ordered by under each of some keys. -/
def sortRow (vocabulary : Vocabulary) (keys : List SortKey) (task : Task) :
    List (Option SortValue) :=
  keys.map fun key => vocabulary.sortValue task key.field

/-- Puts tasks in the order of some keys. The values of a task are looked up once. -/
def sortTasks (vocabulary : Vocabulary) (keys : List SortKey) (tasks : List Task) : List Task :=
  let directions := keys.map SortKey.direction
  let rows := tasks.map fun task => (vocabulary.sortRow keys task, task)
  (rows.mergeSort fun a b => (compareRows directions a.1 b.1).isLE).map Prod.snd

end Vocabulary

end TaskQuery

/-
# Vocabularies

A vocabulary says which field names a query may use and what they mean: aliases,
the ranks of priorities, which fields hold dates, which words stand alone for a
status, and which names outside the record are expected. It is a value that is
handed to every stage, so queries with different vocabularies do not meet.

Entries are lists in which the latest entry for a name comes first and counts.
-/

import TaskQuery.Task.Field
import TaskQuery.Text.Lowercase
import TaskQuery.Text.Similarity

namespace TaskQuery

open Text

/-- The field that a status word is compared with. -/
def statusField : String := "status"

/-- The field that is ordered by rank. -/
def priorityField : String := "priority"

/-- What the words of a query mean beyond its grammar. -/
structure Vocabulary where
  aliases : List (String × String)
  priorityRanks : List (String × Nat)
  dateFields : List String
  statusWords : List String
  customFields : List String
  deriving DecidableEq, Repr

namespace Vocabulary

/-- The vocabulary that is in force when nothing is configured. The priority `none`
ranks between `medium` and `low`. -/
def default : Vocabulary where
  aliases :=
    [("tag", "tags"), ("due_date", "due"), ("text", "description"), ("content", "description"),
     ("file", "path"), ("filename", "path"), ("deps", "depends_on"),
     ("dependencies", "depends_on"), ("dependency", "dependency_id"), ("dep", "dependency_id"),
     ("recurring", "recurrence"), ("repeat", "recurrence"), ("completed", "done"),
     ("done_date", "done"), ("starts", "start"), ("created_date", "created"),
     ("scheduled_date", "scheduled")]
  priorityRanks :=
    [("highest", 0), ("high", 1), ("medium", 2), ("none", 3), ("low", 4), ("lowest", 5)]
  dateFields := ["due", "scheduled", "start", "created", "done"]
  statusWords := ["todo", "in-progress", "done", "cancelled"]
  customFields := []

/-- Gives a field another name, which is found in any letter case. -/
def withAlias (vocabulary : Vocabulary) (short canonical : String) : Vocabulary :=
  { vocabulary with aliases := (lowercase short, canonical) :: vocabulary.aliases }

/-- Declares a field that is not part of the record. -/
def withCustomField (vocabulary : Vocabulary) (name : String) : Vocabulary :=
  { vocabulary with customFields := name :: vocabulary.customFields }

/-- Gives a priority a rank; lower ranks come first. -/
def withPriorityRank (vocabulary : Vocabulary) (name : String) (rank : Nat) : Vocabulary :=
  { vocabulary with priorityRanks := (lowercase name, rank) :: vocabulary.priorityRanks }

/-- Declares that a field holds dates. -/
def withDateField (vocabulary : Vocabulary) (name : String) : Vocabulary :=
  { vocabulary with dateFields := name :: vocabulary.dateFields }

/-- Adds a word that may stand alone for a status. -/
def withStatusWord (vocabulary : Vocabulary) (word : String) : Vocabulary :=
  { vocabulary with statusWords := lowercase word :: vocabulary.statusWords }

/-- The field that a name stands for. Aliases and record fields are found in any
letter case; any other name stands for itself. -/
def canonicalField (vocabulary : Vocabulary) (name : String) : String :=
  let lower := lowercase name
  match vocabulary.aliases.lookup lower with
  | some canonical => canonical
  | none => if recordFields.contains lower then lower else name

/-- The value of a field of a task by any of its names. -/
def resolve (vocabulary : Vocabulary) (task : Task) (name : String) : FieldValue :=
  task.fieldValue (vocabulary.canonicalField name)

/-- The rank of a priority that has none of its own. -/
def lastRank : Nat := 255

/-- The rank of a priority. -/
def priorityRank (vocabulary : Vocabulary) (label : String) : Nat :=
  (vocabulary.priorityRanks.lookup (lowercase label)).getD lastRank

/-- Whether a field, by its canonical name, holds dates. -/
def isDateField (vocabulary : Vocabulary) (canonical : String) : Bool :=
  vocabulary.dateFields.contains canonical

/-- Whether a word may stand alone for a status. -/
def isStatusWord (vocabulary : Vocabulary) (word : String) : Bool :=
  vocabulary.statusWords.contains (lowercase word)

/-- Whether a name is a path into nested properties. -/
def isDotted (name : String) : Bool :=
  name.toList.contains '.'

/-- Whether a name stands for a field that the vocabulary expects. Dotted names are
always expected. -/
def isKnownField (vocabulary : Vocabulary) (name : String) : Bool :=
  let canonical := vocabulary.canonicalField name
  isDotted name || recordFields.contains canonical || isDotted canonical
    || vocabulary.customFields.contains canonical || vocabulary.customFields.contains name

/-- The names that a query may use for a field, each once and in order. -/
def fieldNames (vocabulary : Vocabulary) : List String :=
  (recordFields ++ vocabulary.aliases.map Prod.fst ++ vocabulary.customFields).eraseDups.mergeSort
    fun a b => a ≤ b

/-- How alike a suggestion must be to what was written. -/
def suggestionThreshold : Float := 0.85

/-- The later of two scored names, unless the earlier is better. -/
def betterSuggestion (best : Option (String × Float)) (candidate : String × Float) :
    Option (String × Float) :=
  match best with
  | some (name, score) => if candidate.2 < score then some (name, score) else some candidate
  | none => some candidate

/-- The field name closest to a name, if one is close enough; of equally close
names the last. -/
def suggestField (vocabulary : Vocabulary) (name : String) : Option String :=
  let lower := lowercase name
  let scored := vocabulary.fieldNames.map fun candidate => (candidate, similarity lower candidate)
  let close := scored.filter fun (_, score) => score ≥ suggestionThreshold
  (close.foldl betterSuggestion none).map Prod.fst

end Vocabulary

end TaskQuery

/-
# Queries as JSON

The form in which a query is handed to other programs. Each kind of node has a tag,
and what is absent from a query is left out.
-/

import TaskQuery.Json.Basic
import TaskQuery.Query.Basic

namespace TaskQuery

/-- The operator as a tag. -/
def Operator.tag : Operator → String
  | is => "is"
  | isNot => "is_not"
  | includes => "includes"
  | notIncludes => "not_includes"
  | before => "before"
  | after => "after"
  | matchesPattern => "matches"
  | notMatchesPattern => "not_matches"

/-- A dependency check as JSON. -/
def DependencyCheck.json : DependencyCheck → Json
  | blocked => .object [("kind", .string "blocked")]
  | notBlocked => .object [("kind", .string "not_blocked")]
  | blocking => .object [("kind", .string "blocking")]
  | dependsOn target => .object [("kind", .string "depends_on"), ("target", .string target)]
  | blocks target => .object [("kind", .string "blocks"), ("target", .string target)]

/-- A filter as JSON. -/
def Filter.json : Filter → Json
  | comparison field operator value =>
      .object [("type", .string "comparison"), ("field", .string field),
        ("operator", .string operator.tag), ("value", .string value)]
  | and left right =>
      .object [("type", .string "logical"), ("op", .string "and"), ("left", left.json),
        ("right", right.json)]
  | or left right =>
      .object [("type", .string "logical"), ("op", .string "or"), ("left", left.json),
        ("right", right.json)]
  | not operand => .object [("type", .string "not"), ("operand", operand.json)]
  | dependency check => .object [("type", .string "dependency"), ("check", check.json)]

/-- A sort key as JSON. -/
def SortKey.json (key : SortKey) : Json :=
  .object [("field", .string key.field), ("direction", .string key.direction.text)]

/-- A query as JSON. -/
def Query.json (query : Query) : Json :=
  .object ((query.filter.map fun filter => ("filter", filter.json)).toList
    ++ (if query.sort.isEmpty then [] else [("sort", .array (query.sort.map SortKey.json))])
    ++ (query.group.map fun field => ("group", .object [("field", .string field)])).toList)

end TaskQuery

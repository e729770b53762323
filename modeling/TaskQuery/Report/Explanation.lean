/-
# Explanations of queries

How a query was read: the query as it was given and in its normal form, the tree of
its filter with a line for each node, its clauses, on request its tokens, and the
problems it has.
-/

import TaskQuery.Query.Diagnostic
import TaskQuery.Query.Encoding
import TaskQuery.Query.Printer
import TaskQuery.Report.Listing
import TaskQuery.Report.Style
import TaskQuery.Text.Escape
import TaskQuery.Text.Padding

namespace TaskQuery

open Text

/-- What is told about a query. Tokens are told only if they were asked for. -/
structure Explanation where
  input : String
  query : Query
  tokens : Option (List Token)
  diagnostics : List Diagnostic

/-- A line of a filter's tree, further in for each level. -/
def treeLine (depth : Nat) (text : String) : String :=
  spaces (2 * depth) ++ text ++ "\n"

/-- The tree of a filter, each node on a line and what it joins below it. -/
def Filter.treeText (depth : Nat) : Filter → String
  | comparison field operator value =>
      treeLine depth (field ++ " " ++ operator.text ++ " " ++ quote value)
  | and left right =>
      treeLine depth "AND" ++ left.treeText (depth + 1) ++ right.treeText (depth + 1)
  | or left right =>
      treeLine depth "OR" ++ left.treeText (depth + 1) ++ right.treeText (depth + 1)
  | not operand => treeLine depth "NOT" ++ operand.treeText (depth + 1)
  | dependency check => treeLine depth check.text

namespace Explanation

variable [Pattern.Wording]

/-- The tokens to tell, without the end of the input. -/
def shownTokens (explanation : Explanation) : Option (List Token) :=
  explanation.tokens.map fun tokens => tokens.filter fun token => token.kind != .endOfInput

/-- A heading, or the name in front of a line. -/
def label (colors : Bool) (name : String) : String :=
  styled colors [.bold] (name ++ ":")

/-- A line with a name in front of it. -/
def labelled (colors : Bool) (name text : String) : String :=
  label colors name ++ " " ++ text ++ "\n"

/-- Lines below a heading. -/
def block (colors : Bool) (name : String) (lines : List String) : String :=
  label colors name ++ "\n" ++ String.join lines

/-- The tree of a query's filter. -/
def filterText (query : Query) : String :=
  match query.filter with
  | some filter => filter.treeText 1
  | none => "  (none, matches everything)\n"

/-- A token on a line. -/
def tokenText (token : Token) : String :=
  "  " ++ padLeft 4 (toString token.position) ++ "  " ++ padRight 24 token.kind.name ++ " "
    ++ quote token.text ++ "\n"

/-- A problem on a line. -/
def diagnosticText (colors : Bool) (diagnostic : Diagnostic) : String :=
  "  - " ++ styled colors [.yellow] diagnostic.message ++ "\n"

/-- An explanation for people. -/
def text (colors : Bool) (explanation : Explanation) : String :=
  let query := explanation.query
  labelled colors "Query" explanation.input
    ++ labelled colors "Normalized" query.text
    ++ block colors "Filter" [filterText query]
    ++ (if query.sort.isEmpty then "" else labelled colors "Sort" (sortText query.sort))
    ++ query.group.elim "" (labelled colors "Group")
    ++ explanation.shownTokens.elim ""
      (fun tokens => block colors "Tokens" (tokens.map tokenText))
    ++ if explanation.diagnostics.isEmpty then ""
      else block colors "Diagnostics" (explanation.diagnostics.map (diagnosticText colors))

/-- A token as JSON. -/
def tokenJson (token : Token) : Json :=
  .object [("kind", .string token.kind.name), ("text", .string token.text),
    ("position", .ofNat token.position)]

/-- An explanation for other programs. -/
def json (explanation : Explanation) : Json :=
  .object
    ([("input", .string explanation.input), ("normalized", .string explanation.query.text),
      ("query", explanation.query.json)]
    ++ (explanation.shownTokens.map fun tokens =>
      ("tokens", Json.array (tokens.map tokenJson))).toList
    ++ [("diagnostics", .ofTexts (diagnosticTexts explanation.diagnostics))])

end Explanation

end TaskQuery

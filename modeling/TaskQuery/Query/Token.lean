/-
# Tokens of the query language

The words and signs that a query text is made of. A word is an identifier unless
it is reserved; a few pairs of words, with blanks between them, make one operator.
Letter case does not count in either.
-/

import TaskQuery.Query.Filter

namespace TaskQuery

/-- The operators between a task and the task that it waits on. -/
inductive Relation
  | dependsOn
  | blocks
  deriving DecidableEq, Repr

/-- The logical words. -/
inductive Connective
  | and
  | or
  | not
  deriving DecidableEq, Repr

/-- The words of the `sort by` and `group by` clauses. -/
inductive Keyword
  | sortWord
  | groupWord
  | byWord
  | ascWord
  | descWord
  deriving DecidableEq, Repr

/-- What a token is, apart from its text. -/
inductive TokenKind
  | identifier
  | operator (operator : Operator)
  | relation (relation : Relation)
  | connective (connective : Connective)
  | leftParen
  | rightParen
  | stringLiteral
  | dateLiteral
  | tagLiteral
  | keyword (keyword : Keyword)
  | endOfInput
  deriving DecidableEq, Repr

/-- The name by which reports call an operator. -/
def Operator.name : Operator → String
  | is => "Is"
  | isNot => "IsNot"
  | includes => "Includes"
  | notIncludes => "NotIncludes"
  | before => "Before"
  | after => "After"
  | matchesPattern => "Matches"
  | notMatchesPattern => "NotMatches"

/-- The name by which reports call a relation. -/
def Relation.name : Relation → String
  | dependsOn => "DependsOn"
  | blocks => "Blocks"

/-- The name by which reports call a logical word. -/
def Connective.name : Connective → String
  | and => "And"
  | or => "Or"
  | not => "Not"

/-- The name by which reports call a word of a clause. -/
def Keyword.name : Keyword → String
  | sortWord => "Sort"
  | groupWord => "Group"
  | byWord => "By"
  | ascWord => "Asc"
  | descWord => "Desc"

/-- A token with its text and the byte offset at which it starts. A string
literal has its contents as text, every other token what stands in the query. -/
structure Token where
  kind : TokenKind
  text : String
  position : Nat
  deriving DecidableEq, Repr

namespace TokenKind

/-- The name by which reports call a kind of token. -/
def name : TokenKind → String
  | identifier => "Identifier"
  | operator o => "Operator(" ++ o.name ++ ")"
  | relation r => "Relation(" ++ r.name ++ ")"
  | connective c => "Connective(" ++ c.name ++ ")"
  | leftParen => "LeftParen"
  | rightParen => "RightParen"
  | stringLiteral => "StringLiteral"
  | dateLiteral => "DateLiteral"
  | tagLiteral => "TagLiteral"
  | keyword k => "Keyword(" ++ k.name ++ ")"
  | endOfInput => "EndOfInput"

/-- The kind of a word that stands alone. -/
def ofWord (word : List Char) : TokenKind :=
  match String.ofList (word.map Char.toLower) with
  | "and" => connective .and
  | "or" => connective .or
  | "not" => connective .not
  | "sort" => keyword .sortWord
  | "group" => keyword .groupWord
  | "by" => keyword .byWord
  | "asc" => keyword .ascWord
  | "desc" => keyword .descWord
  | "is" => operator .is
  | "includes" => operator .includes
  | "before" => operator .before
  | "after" => operator .after
  | "matches" => operator .matchesPattern
  | "blocks" => relation .blocks
  | _ => identifier

/-- The kind of two words in a row, if together they are an operator. -/
def ofPair? (first second : List Char) : Option TokenKind :=
  match String.ofList (first.map Char.toLower), String.ofList (second.map Char.toLower) with
  | "is", "not" => some (operator .isNot)
  | "not", "includes" => some (operator .notIncludes)
  | "not", "matches" => some (operator .notMatchesPattern)
  | "depends", "on" => some (relation .dependsOn)
  | _, _ => none

end TokenKind

end TaskQuery

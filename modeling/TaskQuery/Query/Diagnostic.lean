/-
# Diagnostics

What was forgiven while a query was read, each with its wording. Positions are byte
offsets in the query text.
-/

import TaskQuery.Pattern.Fault

namespace TaskQuery

/-- The clauses of which a query has at most one. -/
inductive Clause
  | sort
  | group
  deriving DecidableEq, Repr

/-- The word that a clause starts with. -/
def Clause.text : Clause → String
  | sort => "sort"
  | group => "group"

/-- A problem of a query. -/
inductive Diagnostic
  | unexpectedCharacter (character : Char) (position : Nat)
  | unexpectedToken (token : String) (position : Nat)
  | unexpectedEndOfInput (position : Nat)
  | missingOperator (field : String)
  | missingValue (field operator : String)
  | unclosedParenthesis (position : Nat)
  | duplicateClause (clause : Clause)
  | unknownField (field : String) (suggestion : Option String)
  | invalidPattern (pattern : String) (fault : Pattern.Fault)
  deriving DecidableEq, Repr

/-- The wording of a problem. -/
def Diagnostic.message [Pattern.Wording] : Diagnostic → String
  | unexpectedCharacter character position =>
      "unexpected character '" ++ character.toString ++ "' at position " ++ toString position
  | unexpectedToken token position =>
      "unexpected token '" ++ token ++ "' at position " ++ toString position
  | unexpectedEndOfInput position =>
      "unexpected end of query at position " ++ toString position
  | missingOperator field => "no comparison operator after field '" ++ field ++ "'"
  | missingValue field operator => "no value after '" ++ field ++ " " ++ operator ++ "'"
  | unclosedParenthesis position =>
      "unclosed parenthesis opened at position " ++ toString position
  | duplicateClause clause => "duplicate '" ++ clause.text ++ "' clause ignored"
  | unknownField field none => "unknown field '" ++ field ++ "'"
  | unknownField field (some suggestion) =>
      "unknown field '" ++ field ++ "', did you mean '" ++ suggestion ++ "'?"
  | invalidPattern pattern fault => "invalid pattern '" ++ pattern ++ "': " ++ fault.reason pattern

end TaskQuery

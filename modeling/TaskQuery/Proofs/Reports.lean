/-
# What readings report

Everything that is forgiven in reading tokens is about one of these tokens, or about the
place where they end. This says which problems there are, where each of them stands in the
query, and for a field that it calls unknown, that the vocabulary does not expect it.

No rule reports anything but a token that it was given or the end of them, and that is all
there is to show about the rules. None says anything about characters that mean nothing or
about patterns. Those are found before and after it.
-/

import TaskQuery.Proofs.RelatedReadings

namespace TaskQuery

variable {vocabulary : Vocabulary} {endPosition : Nat} {tokens rest : List Token}

/-- The problems that reading some tokens can have. A text that ends too early is reported
where an end marker stands, or where the tokens end. -/
inductive Diagnostic.IsReport (vocabulary : Vocabulary) (endPosition : Nat)
    (tokens : List Token) : Diagnostic → Prop
  | unexpectedToken {token : Token} (member : token ∈ tokens) (noEnd : token.kind ≠ .endOfInput) :
      IsReport vocabulary endPosition tokens (.unexpectedToken token.text token.position)
  | endMarker {token : Token} (member : token ∈ tokens) (isEnd : token.kind = .endOfInput) :
      IsReport vocabulary endPosition tokens (.unexpectedEndOfInput token.position)
  | textEnd : IsReport vocabulary endPosition tokens (.unexpectedEndOfInput endPosition)
  | missingOperator {field : Token} (member : field ∈ tokens) (isName : field.kind = .identifier) :
      IsReport vocabulary endPosition tokens (.missingOperator field.text)
  | missingValue (field operator : String) :
      IsReport vocabulary endPosition tokens (.missingValue field operator)
  | unclosedParenthesis {opening : Token} (member : opening ∈ tokens)
      (isOpening : opening.kind = .leftParen) :
      IsReport vocabulary endPosition tokens (.unclosedParenthesis opening.position)
  | duplicateClause (clause : Clause) :
      IsReport vocabulary endPosition tokens (.duplicateClause clause)
  | unknownField {field : Token} (member : field ∈ tokens) (isName : field.kind = .identifier)
      (unknown : vocabulary.isKnownField field.text = false) :
      IsReport vocabulary endPosition tokens
        (.unknownField field.text (vocabulary.suggestField field.text))

/-- All of some problems are about some tokens. -/
def Reports (vocabulary : Vocabulary) (endPosition : Nat) (tokens : List Token)
    (diagnostics : List Diagnostic) : Prop :=
  ∀ diagnostic ∈ diagnostics, diagnostic.IsReport vocabulary endPosition tokens

namespace Reports

theorem none : Reports vocabulary endPosition tokens [] := by
  intro diagnostic member
  cases member

theorem one {diagnostic : Diagnostic}
    (isReport : diagnostic.IsReport vocabulary endPosition tokens) :
    Reports vocabulary endPosition tokens [diagnostic] := by
  intro other member
  obtain rfl := List.mem_singleton.mp member
  exact isReport

theorem append {first second : List Diagnostic}
    (isFirst : Reports vocabulary endPosition tokens first)
    (isSecond : Reports vocabulary endPosition tokens second) :
    Reports vocabulary endPosition tokens (first ++ second) := by
  intro diagnostic member
  rcases List.mem_append.mp member with member | member
  · exact isFirst diagnostic member
  · exact isSecond diagnostic member

/-- What is about some tokens is about any tokens that contain them. -/
theorem of_subset {diagnostics : List Diagnostic}
    (reports : Reports vocabulary endPosition rest diagnostics) (subset : rest ⊆ tokens) :
    Reports vocabulary endPosition tokens diagnostics := by
  intro diagnostic member
  cases reports diagnostic member with
  | unexpectedToken about noEnd => exact .unexpectedToken (subset about) noEnd
  | endMarker about isEnd => exact .endMarker (subset about) isEnd
  | textEnd => exact .textEnd
  | missingOperator about isName => exact .missingOperator (subset about) isName
  | missingValue field operator => exact .missingValue field operator
  | unclosedParenthesis about isOpening => exact .unclosedParenthesis (subset about) isOpening
  | duplicateClause clause => exact .duplicateClause clause
  | unknownField about isName unknown => exact .unknownField (subset about) isName unknown

end Reports

/-! ## What the rules report -/

theorem isReport_unexpected {token : Token} (member : token ∈ tokens) :
    (Diagnostic.unexpected token).IsReport vocabulary endPosition tokens := by
  rw [Diagnostic.unexpected]
  split
  · exact .endMarker member ‹_›
  · exact .unexpectedToken member ‹_›

theorem fieldDiagnostics_reports {field : Token} (member : field ∈ tokens)
    (isName : field.kind = .identifier) :
    Reports vocabulary endPosition tokens (vocabulary.fieldDiagnostics field.text) := by
  rw [Vocabulary.fieldDiagnostics]
  split
  · exact .none
  · rename_i unknown
    exact .one (.unknownField member isName (Bool.eq_false_iff.mpr unknown))

/-- The rules keep to reports about the tokens that they were given. -/
def ReportRelation.reports (vocabulary : Vocabulary) (endPosition : Nat) (tokens : List Token) :
    ReportRelation (.self vocabulary (· ∈ tokens)) endPosition endPosition where
  tells diagnostics _ := Reports vocabulary endPosition tokens diagnostics
  silence := .none
  append front back := front.append back
  textEnd _ := .one .textEnd
  unexpected words := .one (isReport_unexpected words.2)
  missingTarget _ _ := .one (.missingValue _ _)
  missingValue _ _ _ _ := .one (.missingValue _ _)
  missingOperator fields isName := .one (.missingOperator fields.2 isName)
  unclosedParenthesis openings isOpening := .one (.unclosedParenthesis openings.2 isOpening)
  duplicateClause clause := .one (.duplicateClause clause)
  field fields isName := fieldDiagnostics_reports fields.2 isName

theorem readQuery_reports :
    Reports vocabulary endPosition tokens
      (readQuery vocabulary endPosition tokens).diagnostics :=
  (readQuery_related (.any vocabulary _) (.reports vocabulary endPosition tokens)
    (TokenRelation.tokens_self fun _ member => member)).tells

/-! ## What is reported about tokens -/

/-- The place where a list of tokens ends: at the end marker that it ends with, else behind
its last token. -/
def endOfTokens (tokens : List Token) : Nat :=
  match tokens.getLast? with
  | none => 0
  | some last =>
      if last.kind = .endOfInput then last.position else last.endPosition

/-- Everything that is forgiven in reading a query from tokens is about these tokens or
the place where they end. -/
theorem Query.parseTokens_reports (vocabulary : Vocabulary) (tokens : List Token) :
    Reports vocabulary (endOfTokens tokens) tokens
      (Query.parseTokens vocabulary tokens).diagnostics := by
  rw [Query.parseTokens, endOfTokens]
  cases tokens.getLast? with
  | none => exact Reports.none
  | some last =>
      dsimp only
      split
      · exact readQuery_reports.of_subset (List.dropLast_subset tokens)
      · exact readQuery_reports

end TaskQuery

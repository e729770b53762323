/-
# Reading queries

    query       = [ disjunction ] [ sort clause ] [ group clause ], clauses in either order
    disjunction = conjunction { OR conjunction }
    conjunction = operand { AND operand }
    operand     = NOT operand | ( disjunction ) | shortcut | comparison | status word
    comparison  = name operator value
    shortcut    = is [not] blocked | is [not] blocking | depends on value | blocks value
    sort clause = sort by { name [ asc | desc ] }
    group clause = group by name

Reading is lenient. A malformed operand stands for no filter, which is neutral in a
conjunction and takes over a disjunction, so a query that is half typed keeps every
task. Everything that was forgiven is reported. Each rule gives back the tokens it
left, which are the last of those it was given, and that is why reading ends.

The list of tokens that a rule is given ends in front of the end marker. An end
marker that stands earlier in the list is never taken, so nothing behind it is read.
-/

import TaskQuery.Pattern.Basic
import TaskQuery.Query.Basic
import TaskQuery.Query.Diagnostic
import TaskQuery.Query.Lexer
import TaskQuery.Query.Vocabulary

namespace TaskQuery

/-- What a rule read from some tokens: its value, what it forgave, and the tokens it
left, which are the last of those it was given. -/
structure Reading (α : Type) (tokens : List Token) where
  value : α
  diagnostics : List Diagnostic
  rest : List Token
  suffix : rest <:+ tokens

/-- The same reading from a longer list of tokens. -/
def Reading.after {α : Type} (token : Token) {tokens : List Token} (reading : Reading α tokens) :
    Reading α (token :: tokens) :=
  ⟨reading.value, reading.diagnostics, reading.rest,
    reading.suffix.trans (List.suffix_cons _ _)⟩

/-- A token that cannot stand where it does. -/
def Diagnostic.unexpected (token : Token) : Diagnostic :=
  if token.kind = .endOfInput then .unexpectedEndOfInput token.position
  else .unexpectedToken token.text token.position

/-- The first of the tokens that are left cannot stand where it does; when none is
left, the text ends too early. -/
def Diagnostic.unexpectedFront (endPosition : Nat) : List Token → Diagnostic
  | [] => .unexpectedEndOfInput endPosition
  | token :: _ => .unexpected token

/-- The problem of a field name that the vocabulary does not expect. -/
def Vocabulary.fieldDiagnostics (vocabulary : Vocabulary) (field : String) : List Diagnostic :=
  if vocabulary.isKnownField field then []
  else [.unknownField field (vocabulary.suggestField field)]

/-! ## Parts of an expression -/

/-- Whether a token can be a value. The small words of the clauses can. -/
def TokenKind.isValue : TokenKind → Bool
  | identifier | stringLiteral | dateLiteral | tagLiteral => true
  | keyword .byWord | keyword .ascWord | keyword .descWord => true
  | _ => false

/-- The dependency check of `is` or `is not` and a word, if they make one. -/
def stateFilter? (operator : Operator) (word : String) : Option Filter :=
  match operator, Text.lowercase word with
  | .is, "blocked" => some (.dependency .blocked)
  | .isNot, "blocked" => some (.dependency .notBlocked)
  | .is, "blocking" => some (.dependency .blocking)
  | .isNot, "blocking" => some (.not (.dependency .blocking))
  | _, _ => none

/-- Reads a shortcut that starts with a comparison operator. -/
def stateShortcut (operator : Operator) (token : Token) :
    (tokens : List Token) → Reading (Option Filter) tokens
  | [] => ⟨none, [.unexpectedToken token.text token.position], [], List.suffix_rfl⟩
  | word :: rest =>
      match if word.kind = .identifier then stateFilter? operator word.text else none with
      | some filter => ⟨some filter, [], rest, List.suffix_cons _ _⟩
      | none => ⟨none, [.unexpectedToken token.text token.position], word :: rest, List.suffix_rfl⟩

/-- The dependency check of a relation and a task. -/
def Relation.check : Relation → String → DependencyCheck
  | dependsOn => .dependsOn
  | blocks => .blocks

/-- Reads a shortcut that starts with a relation. -/
def relationShortcut (relation : Relation) (token : Token) :
    (tokens : List Token) → Reading (Option Filter) tokens
  | [] => ⟨none, [.missingValue "" token.text], [], List.suffix_rfl⟩
  | target :: rest =>
      if target.kind.isValue then
        ⟨some (.dependency (relation.check target.text)), [], rest, List.suffix_cons _ _⟩
      else ⟨none, [.missingValue "" token.text], target :: rest, List.suffix_rfl⟩

/-- Reads the value of a comparison whose field and operator were read. -/
def comparisonValue (vocabulary : Vocabulary) (field : Token) (operator : Operator)
    (operatorText : String) : (tokens : List Token) → Reading (Option Filter) tokens
  | [] => ⟨none, [.missingValue field.text operatorText], [], List.suffix_rfl⟩
  | value :: rest =>
      if value.kind.isValue then
        ⟨some (.comparison field.text operator value.text),
          vocabulary.fieldDiagnostics field.text, rest, List.suffix_cons _ _⟩
      else ⟨none, [.missingValue field.text operatorText], value :: rest, List.suffix_rfl⟩

/-- Reads what follows a name that no operator follows: a status word stands alone,
any other name lacks its operator. -/
def loneName (vocabulary : Vocabulary) (field : Token) (tokens : List Token) :
    Reading (Option Filter) tokens :=
  if vocabulary.isStatusWord field.text then
    ⟨some (.comparison statusField .is (Text.lowercase field.text)), [], tokens, List.suffix_rfl⟩
  else ⟨none, [.missingOperator field.text], tokens, List.suffix_rfl⟩

/-- Reads a comparison, or a status word, after its name. -/
def comparison (vocabulary : Vocabulary) (field : Token) :
    (tokens : List Token) → Reading (Option Filter) tokens
  | [] => loneName vocabulary field []
  | token :: rest =>
      match token.kind with
      | .operator operator =>
          (comparisonValue vocabulary field operator token.text rest).after token
      | _ => loneName vocabulary field (token :: rest)

/-- Whether a token ends an expression, so that it is left in place. -/
def TokenKind.endsOperand : TokenKind → Bool
  | rightParen | connective _ | endOfInput => true
  | keyword .sortWord | keyword .groupWord => true
  | _ => false

/-- Reads an operand that starts neither with NOT nor with a parenthesis. -/
def leaf (vocabulary : Vocabulary) (endPosition : Nat) :
    (tokens : List Token) → Reading (Option Filter) tokens
  | [] => ⟨none, [.unexpectedEndOfInput endPosition], [], List.suffix_rfl⟩
  | token :: rest =>
      match token.kind with
      | .operator operator => (stateShortcut operator token rest).after token
      | .relation relation => (relationShortcut relation token rest).after token
      | .identifier => (comparison vocabulary token rest).after token
      | kind =>
          if kind.endsOperand then ⟨none, [.unexpected token], token :: rest, List.suffix_rfl⟩
          else ⟨none, [.unexpected token], rest, List.suffix_cons _ _⟩

/-! ## Expressions -/

/-- The conjunction of two filters, of which one that is not there is neutral. -/
def conjoin : Option Filter → Option Filter → Option Filter
  | some left, some right => some (.and left right)
  | some filter, none | none, some filter => some filter
  | none, none => none

/-- The disjunction of two filters, of which one that is not there keeps
everything. -/
def disjoin : Option Filter → Option Filter → Option Filter
  | some left, some right => some (.or left right)
  | _, _ => none

/-- Closes a parenthesis whose inside was read. -/
def closeParenthesis (opening : Token) {tokens : List Token}
    (inside : Reading (Option Filter) tokens) : Reading (Option Filter) tokens :=
  match inside with
  | ⟨value, diagnostics, [], suffix⟩ =>
      ⟨value, diagnostics ++ [.unclosedParenthesis opening.position], [], suffix⟩
  | ⟨value, diagnostics, token :: rest, suffix⟩ =>
      if token.kind = .rightParen then
        ⟨value, diagnostics, rest, (List.suffix_cons _ _).trans suffix⟩
      else
        ⟨value, diagnostics ++ [.unclosedParenthesis opening.position], token :: rest, suffix⟩

mutual

/-- Reads conjunctions joined by OR. -/
def disjunction (vocabulary : Vocabulary) (endPosition : Nat) (tokens : List Token) :
    Reading (Option Filter) tokens :=
  let first := conjunction vocabulary endPosition tokens
  let whole := disjunctionTail vocabulary endPosition first.value first.rest
  ⟨whole.value, first.diagnostics ++ whole.diagnostics, whole.rest,
    whole.suffix.trans first.suffix⟩
termination_by 3 * tokens.length + 2
decreasing_by
  · omega
  · have shorter := first.suffix.length_le
    simp only [first] at shorter
    omega

/-- Reads what OR joins to a filter that was read. -/
def disjunctionTail (vocabulary : Vocabulary) (endPosition : Nat) (left : Option Filter)
    (tokens : List Token) : Reading (Option Filter) tokens :=
  match tokens with
  | [] => ⟨left, [], [], List.suffix_rfl⟩
  | token :: after =>
      if token.kind = .connective .or then
        let right := conjunction vocabulary endPosition after
        let whole := disjunctionTail vocabulary endPosition (disjoin left right.value) right.rest
        ⟨whole.value, right.diagnostics ++ whole.diagnostics, whole.rest,
          whole.suffix.trans (right.suffix.trans (List.suffix_cons _ _))⟩
      else ⟨left, [], token :: after, List.suffix_rfl⟩
termination_by 3 * tokens.length + 1
decreasing_by
  · simp only [List.length_cons]
    omega
  · have shorter := right.suffix.length_le
    simp only [right] at shorter
    simp only [List.length_cons]
    omega

/-- Reads operands joined by AND. -/
def conjunction (vocabulary : Vocabulary) (endPosition : Nat) (tokens : List Token) :
    Reading (Option Filter) tokens :=
  let first := operand vocabulary endPosition tokens
  let whole := conjunctionTail vocabulary endPosition first.value first.rest
  ⟨whole.value, first.diagnostics ++ whole.diagnostics, whole.rest,
    whole.suffix.trans first.suffix⟩
termination_by 3 * tokens.length + 1
decreasing_by
  · omega
  · have shorter := first.suffix.length_le
    simp only [first] at shorter
    omega

/-- Reads what AND joins to a filter that was read. -/
def conjunctionTail (vocabulary : Vocabulary) (endPosition : Nat) (left : Option Filter)
    (tokens : List Token) : Reading (Option Filter) tokens :=
  match tokens with
  | [] => ⟨left, [], [], List.suffix_rfl⟩
  | token :: after =>
      if token.kind = .connective .and then
        let right := operand vocabulary endPosition after
        let whole := conjunctionTail vocabulary endPosition (conjoin left right.value) right.rest
        ⟨whole.value, right.diagnostics ++ whole.diagnostics, whole.rest,
          whole.suffix.trans (right.suffix.trans (List.suffix_cons _ _))⟩
      else ⟨left, [], token :: after, List.suffix_rfl⟩
termination_by 3 * tokens.length
decreasing_by
  · simp only [List.length_cons]
    omega
  · have shorter := right.suffix.length_le
    simp only [right] at shorter
    simp only [List.length_cons]
    omega

/-- Reads one operand. -/
def operand (vocabulary : Vocabulary) (endPosition : Nat) (tokens : List Token) :
    Reading (Option Filter) tokens :=
  match tokens with
  | [] => leaf vocabulary endPosition []
  | token :: after =>
      if token.kind = .connective .not then
        let inner := operand vocabulary endPosition after
        ⟨inner.value.map Filter.not, inner.diagnostics, inner.rest,
          inner.suffix.trans (List.suffix_cons _ _)⟩
      else if token.kind = .leftParen then
        (closeParenthesis token (disjunction vocabulary endPosition after)).after token
      else leaf vocabulary endPosition (token :: after)
termination_by 3 * tokens.length

end

/-! ## Clauses -/

/-- Takes the word `by` behind the first word of a clause, or reports what stands
in its place. -/
def expectBy (endPosition : Nat) : (tokens : List Token) → Reading Unit tokens
  | [] => ⟨(), [.unexpectedEndOfInput endPosition], [], List.suffix_rfl⟩
  | token :: rest =>
      if token.kind = .keyword .byWord then ⟨(), [], rest, List.suffix_cons _ _⟩
      else ⟨(), [.unexpected token], token :: rest, List.suffix_rfl⟩

/-- The direction that a token stands for. -/
def TokenKind.direction? : TokenKind → Option SortDirection
  | keyword .ascWord => some .asc
  | keyword .descWord => some .desc
  | _ => none

/-- Takes the direction of a sort key, if there is one. -/
def takeDirection : (tokens : List Token) → Reading SortDirection tokens
  | [] => ⟨.asc, [], [], List.suffix_rfl⟩
  | token :: rest =>
      match token.kind.direction? with
      | some direction => ⟨direction, [], rest, List.suffix_cons _ _⟩
      | none => ⟨.asc, [], token :: rest, List.suffix_rfl⟩

/-- Reads sort keys as long as names come. -/
def sortKeys (vocabulary : Vocabulary) (tokens : List Token) : Reading (List SortKey) tokens :=
  match tokens with
  | [] => ⟨[], [], [], List.suffix_rfl⟩
  | token :: after =>
      if token.kind = .identifier then
        let direction := takeDirection after
        let others := sortKeys vocabulary direction.rest
        ⟨⟨token.text, direction.value⟩ :: others.value,
          vocabulary.fieldDiagnostics token.text ++ others.diagnostics, others.rest,
          others.suffix.trans (direction.suffix.trans (List.suffix_cons _ _))⟩
      else ⟨[], [], token :: after, List.suffix_rfl⟩
termination_by tokens.length
decreasing_by exact Nat.lt_succ_of_le direction.suffix.length_le

/-- Reads the sort keys of a clause, of which there must be one. -/
def requiredKeys (vocabulary : Vocabulary) (endPosition : Nat) (tokens : List Token) :
    Reading (List SortKey) tokens :=
  let keys := sortKeys vocabulary tokens
  let missing :=
    if keys.value.isEmpty then [Diagnostic.unexpectedFront endPosition keys.rest] else []
  ⟨keys.value, keys.diagnostics ++ missing, keys.rest, keys.suffix⟩

/-- Reads a `sort by` clause after its first word. -/
def sortClause (vocabulary : Vocabulary) (endPosition : Nat) (tokens : List Token) :
    Reading (List SortKey) tokens :=
  let opening := expectBy endPosition tokens
  let keys := requiredKeys vocabulary endPosition opening.rest
  ⟨keys.value, opening.diagnostics ++ keys.diagnostics, keys.rest,
    keys.suffix.trans opening.suffix⟩

/-- Takes the field of a `group by` clause. -/
def groupField (vocabulary : Vocabulary) (endPosition : Nat) :
    (tokens : List Token) → Reading (Option String) tokens
  | [] => ⟨none, [.unexpectedEndOfInput endPosition], [], List.suffix_rfl⟩
  | token :: rest =>
      if token.kind = .identifier then
        ⟨some token.text, vocabulary.fieldDiagnostics token.text, rest, List.suffix_cons _ _⟩
      else ⟨none, [.unexpected token], token :: rest, List.suffix_rfl⟩

/-- Reads a `group by` clause after its first word. -/
def groupClause (vocabulary : Vocabulary) (endPosition : Nat) (tokens : List Token) :
    Reading (Option String) tokens :=
  let opening := expectBy endPosition tokens
  let field := groupField vocabulary endPosition opening.rest
  ⟨field.value, opening.diagnostics ++ field.diagnostics, field.rest,
    field.suffix.trans opening.suffix⟩

/-- A query together with everything that was forgiven in reading it. -/
structure Outcome where
  query : Query
  diagnostics : List Diagnostic
  deriving DecidableEq, Repr

/-- Puts problems that were found earlier in front. -/
def Outcome.prepend (diagnostics : List Diagnostic) (outcome : Outcome) : Outcome :=
  ⟨outcome.query, diagnostics ++ outcome.diagnostics⟩

/-- Reads the clauses behind an expression. The first sort clause counts, and the
first group clause that names a field; any other token is passed over, up to an end
marker. -/
def clauses (vocabulary : Vocabulary) (endPosition : Nat) (query : Query) (sortSeen : Bool)
    (tokens : List Token) : Outcome :=
  match tokens with
  | [] => ⟨query, []⟩
  | token :: after =>
      if token.kind = .endOfInput then ⟨query, []⟩
      else if token.kind = .keyword .sortWord then
        let keys := sortClause vocabulary endPosition after
        if sortSeen then
          (clauses vocabulary endPosition query true keys.rest).prepend
            (keys.diagnostics ++ [.duplicateClause .sort])
        else
          (clauses vocabulary endPosition { query with sort := keys.value } true keys.rest).prepend
            keys.diagnostics
      else if token.kind = .keyword .groupWord then
        let field := groupClause vocabulary endPosition after
        if query.group.isSome then
          (clauses vocabulary endPosition query sortSeen field.rest).prepend
            (field.diagnostics ++ [.duplicateClause .group])
        else
          (clauses vocabulary endPosition { query with group := field.value } sortSeen
            field.rest).prepend field.diagnostics
      else
        (clauses vocabulary endPosition query sortSeen after).prepend [.unexpected token]
termination_by tokens.length
decreasing_by
  · exact Nat.lt_succ_of_le keys.suffix.length_le
  · exact Nat.lt_succ_of_le keys.suffix.length_le
  · exact Nat.lt_succ_of_le field.suffix.length_le
  · exact Nat.lt_succ_of_le field.suffix.length_le
  · exact Nat.lt_succ_self _

/-! ## Queries -/

/-- Whether a token stands behind the expression of a query: it starts a clause, or
it is an end marker. -/
def TokenKind.endsExpression : TokenKind → Bool
  | keyword .sortWord | keyword .groupWord | endOfInput => true
  | _ => false

/-- Reads a query from the tokens in front of the end marker. An expression is read
only in front of the clauses. -/
def readQuery (vocabulary : Vocabulary) (endPosition : Nat) : List Token → Outcome
  | [] => ⟨{}, []⟩
  | token :: rest =>
      if token.kind.endsExpression then
        clauses vocabulary endPosition {} false (token :: rest)
      else
        let expression := disjunction vocabulary endPosition (token :: rest)
        (clauses vocabulary endPosition { filter := expression.value } false
          expression.rest).prepend expression.diagnostics

/-- The byte offset behind a token. Offsets are words of 64 bits. Behind the last of them
counting starts again, as a release build does it; a build that checks sums for overflow
ends the program there, and for such tokens this is not what it gives. -/
def Token.endPosition (token : Token) : Nat :=
  (token.position + Text.byteLength token.text.toList) % UInt64.size

/-- Reads a query from tokens. When the last of them is no end marker, the query ends
behind it. -/
def Query.parseTokens (vocabulary : Vocabulary) (tokens : List Token) : Outcome :=
  match tokens.getLast? with
  | none => readQuery vocabulary 0 []
  | some last =>
      if last.kind = .endOfInput then readQuery vocabulary last.position tokens.dropLast
      else readQuery vocabulary last.endPosition tokens

/-- An end marker at the end of the tokens is taken off before they are read. -/
theorem Query.exists_parseTokens_eq (vocabulary : Vocabulary) (tokens : List Token) :
    ∃ endPosition front,
      Query.parseTokens vocabulary tokens = readQuery vocabulary endPosition front ∧
        (front = tokens ∨
          ∃ marker : Token, marker.kind = .endOfInput ∧ front ++ [marker] = tokens) := by
  rw [Query.parseTokens]
  cases isLast : tokens.getLast? with
  | none => exact ⟨_, _, rfl, Or.inl (List.getLast?_eq_none_iff.mp isLast).symm⟩
  | some last =>
      obtain ⟨front, rfl⟩ := List.getLast?_eq_some_iff.mp isLast
      rw [List.dropLast_concat]
      dsimp only
      split
      · rename_i isEnd
        exact ⟨_, front, rfl, Or.inr ⟨last, isEnd, rfl⟩⟩
      · exact ⟨_, front ++ [last], rfl, Or.inl rfl⟩

/-- The problems of the patterns in a query. -/
def Query.patternDiagnostics (query : Query) : List Diagnostic :=
  (query.filter.elim [] Filter.patterns).filterMap fun pattern =>
    match Pattern.compile pattern with
    | .ok _ => none
    | .error fault => some (.invalidPattern pattern fault)

/-- Reads a query text. Characters that mean nothing are reported first, then what
the grammar forgave, then patterns that are no patterns. -/
def Query.parse (vocabulary : Vocabulary) (input : String) : Outcome :=
  let lexed := tokenize input
  let outcome := Query.parseTokens vocabulary lexed.tokens
  let strays := lexed.strays.map fun stray =>
    Diagnostic.unexpectedCharacter stray.character stray.position
  ⟨outcome.query, strays ++ outcome.diagnostics ++ outcome.query.patternDiagnostics⟩

/-- Reads a query text and refuses it for the first problem. -/
def Query.parseStrict (vocabulary : Vocabulary) (input : String) : Except Diagnostic Query :=
  let outcome := Query.parse vocabulary input
  match outcome.diagnostics with
  | [] => .ok outcome.query
  | problem :: _ => .error problem

end TaskQuery

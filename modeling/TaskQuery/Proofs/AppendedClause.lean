/-
# A clause behind a text

A sort clause that is written behind a query without clauses should sort it and leave it as
it is otherwise. Two things are needed for that. The tokens of the text have to stay what
they are, which is a matter of open literals. And reading them has to go as before, although
it now ends in front of another token and not at the end.

For the second, what an expression's derivation says about its reports is made exact: they
are those of the fields that it compares, so they do not depend on what follows.
-/

import TaskQuery.Proofs.LiteralEnds
import TaskQuery.Proofs.QueryRecognition

namespace TaskQuery

open Text

/-! ## Tokens of a text and of what is behind it -/

/-- Pieces give the same tokens and strays whatever pieces are behind them. -/
theorem exists_ofPieces_append (position : Nat) (pieces : List Piece) :
    ∃ front strays finish, ∀ others, Lexed.ofPieces position (pieces ++ others) =
      ⟨front ++ (Lexed.ofPieces finish others).tokens,
        strays ++ (Lexed.ofPieces finish others).strays⟩ :=
  ⟨_, _, _, Lexed.ofPieces_append position pieces⟩

/-! ## What an expression reports -/

namespace Grammar

variable {vocabulary : Vocabulary}

/-- The problems that a rule reports about some tokens, behind a filter on their left. -/
def Rule.diagnostics (vocabulary : Vocabulary) (endPosition : Nat) (left : Filter) :
    Rule → List Token → List Diagnostic
  | .disjunction, tokens => (TaskQuery.disjunction vocabulary endPosition tokens).diagnostics
  | .moreOr, tokens => (disjunctionTail vocabulary endPosition (some left) tokens).diagnostics
  | .conjunction, tokens => (TaskQuery.conjunction vocabulary endPosition tokens).diagnostics
  | .moreAnd, tokens => (conjunctionTail vocabulary endPosition (some left) tokens).diagnostics
  | .operand, tokens => (TaskQuery.operand vocabulary endPosition tokens).diagnostics

/-- A name that no operator follows stands alone. -/
theorem comparison_of_stops {rest : List Token} (stops : Rule.operand.Stops rest) (field : Token) :
    comparison vocabulary field rest = loneName vocabulary field rest := by
  cases rest with
  | nil => rfl
  | cons token rest =>
      rw [Rule.stops_cons_iff] at stops
      rw [comparison]
      split
      · rename_i hasOperator
        simp [Rule.continuedBy, isOperator, hasOperator] at stops
      · rfl

/-- A parenthesis that is closed adds nothing to the reports of its inside. -/
theorem diagnostics_closeParenthesis {tokens rest : List Token}
    {inside : Reading (Option Filter) tokens} {closing : Token} (opening : Token)
    (closes : closing.kind = .rightParen) (ends : inside.rest = closing :: rest) :
    (closeParenthesis opening inside).diagnostics = inside.diagnostics := by
  obtain ⟨value, diagnostics, left, suffix⟩ := inside
  obtain rfl : left = closing :: rest := ends
  rw [closeParenthesis, if_pos closes]

namespace Derivation

/-- The fields that an expression compares, from left to right. -/
def fields : {rule : Rule} → Derivation vocabulary rule → List String
  | _, disjunction first more => first.fields ++ more.fields
  | _, endOr => []
  | _, or _ _ next more => next.fields ++ more.fields
  | _, conjunction first more => first.fields ++ more.fields
  | _, endAnd => []
  | _, and _ _ next more => next.fields ++ more.fields
  | _, not _ _ inner => inner.fields
  | _, parenthesis _ _ inside _ _ => inside.fields
  | _, comparison field _ _ _ _ _ _ => [field.text]
  | _, statusWord _ _ _ => []
  | _, state _ _ _ _ _ _ _ => []
  | _, relation _ _ _ _ _ => []

/-- Reading an expression reports its fields that the vocabulary does not expect and nothing
else, whatever follows that cannot go on with it. -/
theorem diagnostics_eq (endPosition : Nat) {rule : Rule} (derivation : Derivation vocabulary rule) :
    ∀ {rest : List Token} (left : Filter), rule.Stops rest →
      rule.diagnostics vocabulary endPosition left (derivation.tokens ++ rest) =
        derivation.fields.flatMap vocabulary.fieldDiagnostics := by
  induction derivation with
  | disjunction first more ihFirst ihMore =>
      intro rest left stops
      have firstStops := stops_conjunction_append more stops
      have read : (TaskQuery.conjunction vocabulary endPosition _).Accepts _ _ :=
        first.isRead endPosition firstStops
      rw [Rule.diagnostics, tokens, fields, List.append_assoc, List.flatMap_append,
        ← ihFirst left firstStops, ← ihMore first.meaning stops, TaskQuery.disjunction]
      dsimp only
      rw [read.value_eq, read.rest_eq]
      rfl
  | endOr =>
      intro rest left stops
      cases rest with
      | nil => rw [Rule.diagnostics, tokens, List.nil_append, disjunctionTail]; rfl
      | cons token rest =>
          rw [Rule.stops_cons_iff] at stops
          have noOr : token.kind ≠ .connective .or := by
            intro kind
            simp [Rule.continuedBy, kind] at stops
          rw [Rule.diagnostics, tokens, List.nil_append, disjunctionTail, if_neg noOr]
          rfl
  | or word isOr next more ihNext ihMore =>
      intro rest left stops
      have nextStops := stops_conjunction_append more stops
      have read : (TaskQuery.conjunction vocabulary endPosition _).Accepts _ _ :=
        next.isRead endPosition nextStops
      rw [Rule.diagnostics, tokens, fields, List.cons_append, List.append_assoc,
        List.flatMap_append, ← ihNext left nextStops, ← ihMore (.or left next.meaning) stops,
        disjunctionTail, if_pos isOr]
      dsimp only
      rw [read.value_eq, read.rest_eq]
      rfl
  | conjunction first more ihFirst ihMore =>
      intro rest left stops
      have firstStops := stops_operand_append more stops
      have read : (TaskQuery.operand vocabulary endPosition _).Accepts _ _ :=
        first.isRead endPosition firstStops
      rw [Rule.diagnostics, tokens, fields, List.append_assoc, List.flatMap_append,
        ← ihFirst left firstStops, ← ihMore first.meaning stops, TaskQuery.conjunction]
      dsimp only
      rw [read.value_eq, read.rest_eq]
      rfl
  | endAnd =>
      intro rest left stops
      cases rest with
      | nil => rw [Rule.diagnostics, tokens, List.nil_append, conjunctionTail]; rfl
      | cons token rest =>
          rw [Rule.stops_cons_iff] at stops
          have noAnd : token.kind ≠ .connective .and := by
            intro kind
            simp [Rule.continuedBy, kind] at stops
          rw [Rule.diagnostics, tokens, List.nil_append, conjunctionTail, if_neg noAnd]
          rfl
  | and word isAnd next more ihNext ihMore =>
      intro rest left stops
      have nextStops := stops_operand_append more stops
      have read : (TaskQuery.operand vocabulary endPosition _).Accepts _ _ :=
        next.isRead endPosition nextStops
      rw [Rule.diagnostics, tokens, fields, List.cons_append, List.append_assoc,
        List.flatMap_append, ← ihNext left nextStops, ← ihMore (.and left next.meaning) stops,
        conjunctionTail, if_pos isAnd]
      dsimp only
      rw [read.value_eq, read.rest_eq]
      rfl
  | not word isNot inner ih =>
      intro rest left stops
      rw [Rule.diagnostics, tokens, fields, List.cons_append, ← ih left stops,
        TaskQuery.operand, if_pos isNot]
      rfl
  | parenthesis opening opens inside closing closes ih =>
      intro rest left stops
      have insideStops : Rule.disjunction.Stops (closing :: rest) :=
        stops_disjunction_rightParen closes
      have read : (TaskQuery.disjunction vocabulary endPosition _).Accepts _ _ :=
        inside.isRead endPosition insideStops
      rw [Rule.diagnostics, tokens, fields, List.cons_append, List.append_assoc,
        List.singleton_append, ← ih left insideStops, TaskQuery.operand,
        if_neg (by simp [opens]), if_pos opens]
      exact diagnostics_closeParenthesis opening closes read.rest_eq
  | comparison field word value operator isName hasOperator isValue =>
      intro rest left stops
      rw [Rule.diagnostics, tokens, fields, List.flatMap_singleton]
      simp only [List.cons_append, List.nil_append, TaskQuery.operand, isName, leaf,
        TaskQuery.comparison, hasOperator, comparisonValue, (isValue_iff _).mpr isValue]
      rfl
  | statusWord name isName isStatus =>
      intro rest left stops
      rw [Rule.diagnostics, tokens, fields, List.flatMap_nil]
      simp only [List.cons_append, List.nil_append, TaskQuery.operand, isName, leaf,
        comparison_of_stops stops, loneName, isStatus]
      rfl
  | state word name operator filter hasOperator isName states =>
      intro rest left stops
      rw [Rule.diagnostics, tokens, fields, List.flatMap_nil]
      simp only [List.cons_append, List.nil_append, TaskQuery.operand, hasOperator, leaf,
        stateShortcut, isName, (stateFilter?_eq_some_iff _ _ _).mpr states]
      rfl
  | relation word target which isRelation isValue =>
      intro rest left stops
      rw [Rule.diagnostics, tokens, fields, List.flatMap_nil]
      simp only [List.cons_append, List.nil_append, TaskQuery.operand, isRelation, leaf,
        relationShortcut, (isValue_iff _).mpr isValue]
      rfl

/-- No token of an expression starts a clause or is an end marker. -/
theorem kind_ne_of_endsExpression {rule : Rule} (derivation : Derivation vocabulary rule)
    {kind : TokenKind} (ends : kind.endsExpression = true) :
    ∀ token ∈ derivation.tokens, token.kind ≠ kind := by
  have noValue {other : TokenKind} (isValue : IsValue other) : other.endsExpression = false := by
    cases isValue <;> rfl
  have goesOn : ∀ token ∈ derivation.tokens, token.kind.endsExpression = false := by
    induction derivation <;> simp_all [tokens, or_imp, TokenKind.endsExpression]
  rintro token member rfl
  rw [goesOn token member] at ends
  cases ends

end Derivation

/-! ## What a query is read as in front of a clause -/

/-- The tokens of an expression that may be missing. -/
def expressionTokens (expression : Option (Derivation vocabulary .disjunction)) : List Token :=
  expression.elim [] Derivation.tokens

theorem kind_ne_sortWord_of_mem_expressionTokens
    (expression : Option (Derivation vocabulary .disjunction)) :
    ∀ token ∈ expressionTokens expression, token.kind ≠ .keyword .sortWord := by
  cases expression with
  | none => exact fun token member => by cases member
  | some expression => exact expression.kind_ne_of_endsExpression rfl

/-- An expression is read, with the reports of its fields, and then what follows. -/
theorem readQuery_derivation (endPosition : Nat) (derivation : Derivation vocabulary .disjunction)
    {rest : List Token} (stops : Rule.disjunction.Stops rest) :
    readQuery vocabulary endPosition (derivation.tokens ++ rest) =
      (clauses vocabulary endPosition { filter := some derivation.meaning } false rest).prepend
        (derivation.fields.flatMap vocabulary.fieldDiagnostics) := by
  obtain ⟨token, others, spelled, starts⟩ := derivation.exists_tokens_disjunction
  have read : (TaskQuery.disjunction vocabulary endPosition _).Accepts _ _ :=
    derivation.isRead endPosition stops
  have reports := derivation.diagnostics_eq endPosition derivation.meaning stops
  rw [Rule.diagnostics] at reports
  rw [← reports]
  rw [spelled, List.cons_append] at read ⊢
  rw [readQuery, if_neg (by simp [endsExpression_of_startsOperand starts])]
  dsimp only
  rw [read.value_eq, read.rest_eq]

theorem readQuery_expression (endPosition : Nat)
    (expression : Option (Derivation vocabulary .disjunction)) {rest : List Token}
    (front : AtClause rest) :
    readQuery vocabulary endPosition (expressionTokens expression ++ rest) =
      (clauses vocabulary endPosition { filter := expression.map Derivation.meaning } false
        rest).prepend
          ((expression.elim [] Derivation.fields).flatMap vocabulary.fieldDiagnostics) := by
  cases expression with
  | none =>
      rw [expressionTokens, Option.elim, List.nil_append, readQuery_of_atClause front]
      rfl
  | some expression => exact readQuery_derivation endPosition expression (front.stops .disjunction)

/-- A query without a sort key and without a group has no clauses. -/
theorem QueryDerivation.clauses_eq_nil {derivation : QueryDerivation vocabulary}
    (noSort : derivation.query.sort = []) (noGroup : derivation.query.group = none) :
    derivation.clauses = [] := by
  obtain ⟨expression, clauses, once⟩ := derivation
  rcases List.eq_nil_or_concat clauses with none | ⟨earlier, last, rfl⟩
  · exact none
  · simp only [query, List.concat_eq_append, List.foldl_append] at noSort noGroup
    cases last with
    | sort word byWord isSort isBy keys nonempty =>
        exact absurd (List.map_eq_nil_iff.mp noSort) nonempty
    | group word byWord field isGroup isBy isName => cases noGroup

end Grammar

/-- Without the first word of a sort clause there is no sort clause. -/
theorem clauses_sort_eq (vocabulary : Vocabulary) (endPosition : Nat) (query : Query)
    (sortSeen : Bool) (tokens : List Token)
    (noWord : ∀ token ∈ tokens, token.kind ≠ .keyword .sortWord) :
    (clauses vocabulary endPosition query sortSeen tokens).query.sort = query.sort := by
  match tokens with
  | [] => rw [clauses]
  | token :: after =>
      have behind := (groupClause vocabulary endPosition after).suffix
      have groupShorter := behind.length_le
      have notThis := noWord token List.mem_cons_self
      have notOthers : ∀ other ∈ after, other.kind ≠ .keyword .sortWord :=
        fun other member => noWord other (List.mem_cons_of_mem _ member)
      rw [clauses, if_neg notThis]
      split
      · rfl
      split
      · split <;> exact clauses_sort_eq vocabulary endPosition _ _ _
          fun other member => notOthers other (behind.mem member)
      · exact clauses_sort_eq vocabulary endPosition _ _ _ notOthers
termination_by tokens.length

theorem readQuery_sort_eq_nil (vocabulary : Vocabulary) (endPosition : Nat) {tokens : List Token}
    (noWord : ∀ token ∈ tokens, token.kind ≠ .keyword .sortWord) :
    (readQuery vocabulary endPosition tokens).query.sort = [] := by
  cases tokens with
  | nil => rfl
  | cons token tokens =>
      rw [readQuery]
      split
      · exact clauses_sort_eq vocabulary endPosition _ _ _ noWord
      · refine clauses_sort_eq vocabulary endPosition _ _ _ fun other member => noWord other ?_
        exact (disjunction vocabulary endPosition (token :: tokens)).suffix.mem member

/-! ## Sorting by id behind a text -/

/-- A sort clause, with a blank in front. -/
def sortById : String := " sort by id"

theorem all_sortById : Piece.all sortById.toList =
    [.layout ' ', .verbatim (.keyword .sortWord) ['s', 'o', 'r', 't'], .layout ' ',
      .verbatim (.keyword .byWord) ['b', 'y'], .layout ' ', .verbatim .identifier ['i', 'd']] := by
  decide +kernel

theorem standsApart_sortById : StandsApart sortById.toList where
  blank := by
    intro c isHead
    have starts : sortById.toList.head? = some ' ' := by decide +kernel
    rw [starts] at isHead
    exact (Option.some.inj isHead).symm
  alone := by
    have next : nextWord sortById.toList = ['s', 'o', 'r', 't'] := by decide +kernel
    rw [next]
    exact ofPair?_eq_none_of_second (by decide)

theorem quoteless_sortById : Quoteless sortById.toList := by
  constructor <;> decide +kernel

/-- The tokens of the clause, at some place. -/
def sortByIdTokens (position : Nat) : List Token :=
  [⟨.keyword .sortWord, "sort", position + 1⟩, ⟨.keyword .byWord, "by", position + 6⟩,
    ⟨.identifier, "id", position + 9⟩]

theorem ofPieces_sortById (position : Nat) : Lexed.ofPieces position (Piece.all sortById.toList) =
    ⟨sortByIdTokens position ++ [⟨.endOfInput, "", position + 11⟩], []⟩ := by
  rw [all_sortById]
  rfl

theorem clauses_sortById (endPosition position : Nat) (query : Query) :
    clauses .default endPosition query false (sortByIdTokens position) =
      ⟨{ query with sort := [⟨"id", .asc⟩] }, []⟩ := by
  have known : Vocabulary.default.isKnownField "id" = true := by decide +kernel
  rw [sortByIdTokens]
  simp [clauses, sortClause, expectBy, requiredKeys, sortKeys, takeDirection,
    Vocabulary.fieldDiagnostics, known, Outcome.prepend]

theorem Query.parseStrict_eq_ok_iff {vocabulary : Vocabulary} {input : String} {query : Query} :
    Query.parseStrict vocabulary input = .ok query ↔
      Query.parse vocabulary input = ⟨query, []⟩ := by
  rw [parseStrict]
  rcases Query.parse vocabulary input with ⟨found, _ | ⟨problem, problems⟩⟩ <;> simp

theorem parse_of_tokenize {vocabulary : Vocabulary} {input : String} {front : List Token}
    {strays : List Stray} {finish : Nat}
    (lexed : tokenize input = ⟨front ++ [⟨.endOfInput, "", finish⟩], strays⟩) :
    Query.parse vocabulary input =
      let outcome := readQuery vocabulary finish front
      ⟨outcome.query, (strays.map fun stray =>
          Diagnostic.unexpectedCharacter stray.character stray.position) ++ outcome.diagnostics ++
        outcome.query.patternDiagnostics⟩ := by
  have read : Query.parseTokens vocabulary (front ++ [⟨.endOfInput, "", finish⟩]) =
      readQuery vocabulary finish front := Grammar.parseTokens_append_marker rfl
  rw [Query.parse, lexed]
  dsimp only
  rw [read]

/-- What an accepted text without clauses is made of: no stray characters, and the tokens of
an expression, whose fields are known and whose patterns are patterns. -/
structure IsExpression (text : String) (query : Query) (front : List Token) (finish : Nat) :
    Prop where
  lexed : ∀ others, Lexed.ofPieces 0 (Piece.all text.toList ++ others) =
    ⟨front ++ (Lexed.ofPieces finish others).tokens, (Lexed.ofPieces finish others).strays⟩
  derived : ∃ expression : Option (Grammar.Derivation .default .disjunction),
    front = Grammar.expressionTokens expression ∧
      query = { filter := expression.map Grammar.Derivation.meaning } ∧
      (expression.elim [] Grammar.Derivation.fields).flatMap
        Vocabulary.default.fieldDiagnostics = []
  patterns : query.patternDiagnostics = []

theorem exists_isExpression {text : String} {query : Query}
    (accepted : Query.parse .default text = ⟨query, []⟩) (noSort : query.sort = [])
    (noGroup : query.group = none) : ∃ front finish, IsExpression text query front finish := by
  obtain ⟨front, strays, finish, read⟩ := exists_ofPieces_append 0 (Piece.all text.toList)
  have lexed : tokenize text = ⟨front ++ [⟨.endOfInput, "", finish⟩], strays⟩ := by
    have alone := read []
    rw [List.append_nil] at alone
    rw [tokenize, alone, Lexed.ofPieces, List.append_nil]
  have noEnd : ∀ token ∈ front, token.kind ≠ .endOfInput := by
    obtain ⟨others, spelled, noMarkers⟩ := (ofPieces_covers [] text.toList).tokens_end
    have whole : front ++ [⟨.endOfInput, "", finish⟩] = others ++ [_] :=
      (congrArg Lexed.tokens lexed).symm.trans spelled
    exact (List.append_inj' whole rfl).1 ▸ noMarkers
  rw [parse_of_tokenize lexed] at accepted
  obtain ⟨isQuery, silent⟩ := Outcome.mk.inj accepted
  obtain ⟨early, patterns⟩ := List.append_eq_nil_iff.mp silent
  obtain ⟨noStrays, noReports⟩ := List.append_eq_nil_iff.mp early
  obtain rfl := List.map_eq_nil_iff.mp noStrays
  obtain ⟨derivation, spelled⟩ := Grammar.exists_queryDerivation_of_accepts noEnd
    ⟨isQuery, by rw [noReports]; intro _ member; cases member⟩
  have derivedQuery := (derivation.readQuery_accepts finish).query_eq
  rw [spelled, isQuery] at derivedQuery
  have noClauses := Grammar.QueryDerivation.clauses_eq_nil (derivedQuery ▸ noSort)
    (derivedQuery ▸ noGroup)
  obtain ⟨expression, clauses, once⟩ := derivation
  obtain rfl : clauses = [] := noClauses
  rw [Grammar.QueryDerivation.tokens, List.flatMap_nil, List.append_nil] at spelled
  have reports := Grammar.readQuery_expression finish expression Grammar.atClause_nil
  rw [List.append_nil, Grammar.expressionTokens, spelled] at reports
  refine ⟨front, finish, fun others => read others, ⟨expression, spelled.symm, derivedQuery, ?_⟩,
    isQuery ▸ patterns⟩
  rw [reports] at noReports
  exact (List.append_eq_nil_iff.mp noReports).1

/-- Without an open literal the clause is read as a clause. -/
theorem parse_append_of_closed {text : String} {query : Query} {front : List Token} {finish : Nat}
    (isExpression : IsExpression text query front finish) (closed : LiteralsClosed text) :
    Query.parse .default (text ++ sortById) = ⟨{ query with sort := [⟨"id", .asc⟩] }, []⟩ := by
  obtain ⟨read, ⟨expression, rfl, rfl, known⟩, patterns⟩ := isExpression
  have lexed : tokenize (text ++ sortById) =
      ⟨Grammar.expressionTokens expression ++ sortByIdTokens finish ++
        [⟨.endOfInput, "", finish + 11⟩], []⟩ := by
    rw [tokenize, String.toList_append,
      standsApart_sortById.all_append ((literalsClosed_iff text).mp closed), read,
      ofPieces_sortById, List.append_assoc]
  have front : Grammar.AtClause (sortByIdTokens finish) :=
    Grammar.atClause_cons_iff.mpr (Or.inl rfl)
  rw [parse_of_tokenize lexed, Grammar.readQuery_expression _ expression front, known,
    clauses_sortById]
  exact congrArg (Outcome.mk _) patterns

/-- An open literal takes the clause in, and the query is not sorted. -/
theorem parse_append_of_open {text : String} {query : Query} {front : List Token} {finish : Nat}
    (isExpression : IsExpression text query front finish) (opened : ¬ LiteralsClosed text) :
    (Query.parse .default (text ++ sortById)).query.sort = [] := by
  obtain ⟨read, ⟨expression, rfl, -, -⟩, -⟩ := isExpression
  rw [literalsClosed_iff] at opened
  push Not at opened
  obtain ⟨pieces, literal, source, longer, before, after⟩ :=
    standsApart_sortById.exists_all_append quoteless_sortById opened
  obtain ⟨front, strays, start, readFront⟩ := exists_ofPieces_append 0 pieces
  have tokensBefore := read []
  rw [List.append_nil, before, readFront] at tokensBefore
  obtain ⟨sameTokens, noStrays⟩ := Lexed.mk.inj tokensBefore
  have split : front ++ [⟨.stringLiteral, String.ofList literal, start⟩] =
      Grammar.expressionTokens expression := by
    have whole : front ++ [⟨.stringLiteral, String.ofList literal, start⟩] ++
        [⟨.endOfInput, "", start + byteLength source⟩] =
          Grammar.expressionTokens expression ++ [⟨.endOfInput, "", finish⟩] := by
      rw [List.append_assoc]
      exact sameTokens
    exact (List.append_inj' whole rfl).1
  have lexed : tokenize (text ++ sortById) =
      ⟨front ++ [⟨.stringLiteral, String.ofList longer, start⟩] ++
        [⟨.endOfInput, "", start + byteLength (source ++ sortById.toList)⟩], strays⟩ := by
    rw [tokenize, String.toList_append, after, readFront, List.append_assoc]
    simp [Lexed.ofPieces, Piece.source]
  rw [parse_of_tokenize lexed]
  refine readQuery_sort_eq_nil .default _ fun token member => ?_
  rcases List.mem_append.mp member with inFront | isLiteral
  · refine Grammar.kind_ne_sortWord_of_mem_expressionTokens expression token ?_
    rw [← split]
    exact List.mem_append_left _ inFront
  · rw [List.mem_singleton.mp isLiteral]
    exact fun isWord => by cases isWord

/-- A string literal that no quote ends is accepted like any other, also by strict reading.
Every string literal of a text ends with its own quote, unless it goes on to the end of the
text. If a text without clauses is accepted, then the same text with a sort clause behind it
is accepted with the same filter and this one sort key exactly if all of its string literals
end with their own quotes. -/
theorem parseStrict_append_sortById_iff (text : String) :
    (∀ token ∈ (tokenize text).tokens, token.kind = .stringLiteral →
      (token.IsClosed text.toList ↔ ¬ token.IsOpen text.toList)) ∧
    ∀ query, Query.parseStrict .default text = .ok query → query.sort = [] → query.group = none →
      (Query.parseStrict .default (text ++ " sort by id") =
          .ok { query with sort := [⟨"id", .asc⟩] } ↔ LiteralsClosed text) := by
  refine ⟨fun token member isLiteral => ?_, fun query accepted noSort noGroup => ?_⟩
  · constructor
    · exact fun closed opened => opened.not_isClosed isLiteral closed
    · exact (isClosed_or_isOpen member isLiteral).resolve_right
  · rw [Query.parseStrict_eq_ok_iff] at accepted ⊢
    obtain ⟨front, finish, isExpression⟩ := exists_isExpression accepted noSort noGroup
    constructor
    · intro appended
      by_contra opened
      have noKeys := parse_append_of_open isExpression opened
      rw [sortById, appended] at noKeys
      cases noKeys
    · exact parse_append_of_closed isExpression

/-- Strict reading accepts `description is "foo`, and a sort clause behind it becomes a part
of the literal. -/
theorem parseStrict_open_literal :
    Query.parseStrict .default "description is \"foo" =
        .ok { filter := some (.comparison "description" .is "foo") } ∧
      ¬ LiteralsClosed "description is \"foo" ∧
      Query.parseStrict .default ("description is \"foo" ++ " sort by id") =
        .ok { filter := some (.comparison "description" .is "foo sort by id") } := by
  have accepted : Query.parseStrict .default "description is \"foo" =
      .ok { filter := some (.comparison "description" .is "foo") } := by
    decide +kernel
  have appended : Query.parseStrict .default ("description is \"foo" ++ " sort by id") =
      .ok { filter := some (.comparison "description" .is "foo sort by id") } := by
    decide +kernel
  have pieces : .token .stringLiteral ['f', 'o', 'o'] ['"', 'f', 'o', 'o'] ∈
      Piece.all "description is \"foo".toList := by
    decide +kernel
  have opened : OpenLiteral ['"', 'f', 'o', 'o'] := by
    refine ⟨'"', ['f', 'o', 'o'], Or.inl rfl, fun before after same => ?_, rfl⟩
    have member : '"' ∈ ['f', 'o', 'o'] := same ▸ List.mem_append_right before List.mem_cons_self
    exact absurd member (by decide)
  exact ⟨accepted, fun closed => (literalsClosed_iff _).mp closed _ pieces opened, appended⟩

end TaskQuery

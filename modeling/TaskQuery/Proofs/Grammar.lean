/-
# The grammar of queries

The grammar says which lists of tokens are queries and what they mean, without
reading them from left to right. A derivation is a tree that carries its tokens;
`tokens` is what the tree spells and `meaning` is the filter it stands for. A
derivation cannot be built wrongly: every rule asks for the kinds of its tokens.

    query       = [ disjunction ] [ sort clause ] [ group clause ], clauses in either order
    disjunction = conjunction { OR conjunction }
    conjunction = operand { AND operand }
    operand     = NOT operand | ( disjunction ) | shortcut | comparison | status word
    comparison  = name operator value
    shortcut    = is [not] blocked | is [not] blocking | depends on value | blocks value
    sort clause = sort by key { key },  key = name [ asc | desc ]
    group clause = group by name

The repetitions are read as lists, and a list is folded from the left. The module
also proves that the grammar is unambiguous: what a derivation spells determines it,
also when tokens follow that cannot continue it.
-/

import TaskQuery.Query.Parser

namespace TaskQuery

namespace Grammar

/-- The rules that an expression is derived by. The two repetitions are rules of
their own. -/
inductive Rule
  | disjunction
  | moreOr
  | conjunction
  | moreAnd
  | operand

/-- What a derivation means: a repetition extends the filter on its left. -/
abbrev Rule.Meaning : Rule → Type
  | moreOr | moreAnd => Filter → Filter
  | disjunction | conjunction | operand => Filter

/-- The kinds of a value. The small words of the clauses read as plain words. -/
inductive IsValue : TokenKind → Prop
  | identifier : IsValue .identifier
  | stringLiteral : IsValue .stringLiteral
  | dateLiteral : IsValue .dateLiteral
  | tagLiteral : IsValue .tagLiteral
  | byWord : IsValue (.keyword .byWord)
  | ascWord : IsValue (.keyword .ascWord)
  | descWord : IsValue (.keyword .descWord)

/-- What `is` or `is not` says together with a word, in lower case, about the
dependencies of a task. -/
def StateWords (operator : Operator) (word : String) (filter : Filter) : Prop :=
  operator = .is ∧ word = "blocked" ∧ filter = .dependency .blocked ∨
  operator = .isNot ∧ word = "blocked" ∧ filter = .dependency .notBlocked ∨
  operator = .is ∧ word = "blocking" ∧ filter = .dependency .blocking ∨
  operator = .isNot ∧ word = "blocking" ∧ filter = .not (.dependency .blocking)

theorem StateWords.unique {operator : Operator} {word : String} {first second : Filter}
    (states : StateWords operator word first) (alsoStates : StateWords operator word second) :
    first = second := by
  rcases states with ⟨rfl, rfl, rfl⟩ | ⟨rfl, rfl, rfl⟩ | ⟨rfl, rfl, rfl⟩ | ⟨rfl, rfl, rfl⟩ <;>
    simp [StateWords] at alsoStates <;> exact alsoStates.symm

variable (vocabulary : Vocabulary)

/-- A derivation of an expression, with the tokens that it is made of. The
vocabulary says which words may stand alone for a status. -/
inductive Derivation : Rule → Type
  | disjunction (first : Derivation .conjunction) (more : Derivation .moreOr) :
      Derivation .disjunction
  | endOr : Derivation .moreOr
  | or (word : Token) (isOr : word.kind = .connective .or) (next : Derivation .conjunction)
      (more : Derivation .moreOr) : Derivation .moreOr
  | conjunction (first : Derivation .operand) (more : Derivation .moreAnd) :
      Derivation .conjunction
  | endAnd : Derivation .moreAnd
  | and (word : Token) (isAnd : word.kind = .connective .and) (next : Derivation .operand)
      (more : Derivation .moreAnd) : Derivation .moreAnd
  | not (word : Token) (isNot : word.kind = .connective .not) (inner : Derivation .operand) :
      Derivation .operand
  | parenthesis (opening : Token) (opens : opening.kind = .leftParen)
      (inside : Derivation .disjunction) (closing : Token)
      (closes : closing.kind = .rightParen) : Derivation .operand
  | comparison (field word value : Token) (operator : Operator) (isName : field.kind = .identifier)
      (isOperator : word.kind = .operator operator) (isValue : IsValue value.kind) :
      Derivation .operand
  | statusWord (word : Token) (isName : word.kind = .identifier)
      (isStatus : vocabulary.isStatusWord word.text = true) : Derivation .operand
  | state (word name : Token) (operator : Operator) (filter : Filter)
      (isOperator : word.kind = .operator operator) (isName : name.kind = .identifier)
      (states : StateWords operator (Text.lowercase name.text) filter) : Derivation .operand
  | relation (word target : Token) (which : Relation)
      (isRelation : word.kind = .relation which) (isValue : IsValue target.kind) :
      Derivation .operand

variable {vocabulary}

namespace Derivation

/-- The tokens that a derivation spells. -/
def tokens : {rule : Rule} → Derivation vocabulary rule → List Token
  | _, disjunction first more => first.tokens ++ more.tokens
  | _, endOr => []
  | _, or word _ next more => word :: (next.tokens ++ more.tokens)
  | _, conjunction first more => first.tokens ++ more.tokens
  | _, endAnd => []
  | _, and word _ next more => word :: (next.tokens ++ more.tokens)
  | _, not word _ inner => word :: inner.tokens
  | _, parenthesis opening _ inside closing _ => opening :: (inside.tokens ++ [closing])
  | _, comparison field word value _ _ _ _ => [field, word, value]
  | _, statusWord word _ _ => [word]
  | _, state word name _ _ _ _ _ => [word, name]
  | _, relation word target _ _ _ => [word, target]

/-- The filter that a derivation stands for. -/
def meaning : {rule : Rule} → Derivation vocabulary rule → rule.Meaning
  | _, disjunction first more => more.meaning first.meaning
  | _, endOr => fun left => left
  | _, or _ _ next more => fun left => more.meaning (.or left next.meaning)
  | _, conjunction first more => more.meaning first.meaning
  | _, endAnd => fun left => left
  | _, and _ _ next more => fun left => more.meaning (.and left next.meaning)
  | _, not _ _ inner => .not inner.meaning
  | _, parenthesis _ _ inside _ _ => inside.meaning
  | _, comparison field _ value operator _ _ _ => .comparison field.text operator value.text
  | _, statusWord word _ _ => .comparison statusField .is (Text.lowercase word.text)
  | _, state _ _ _ filter _ _ _ => filter
  | _, relation _ target which _ _ => .dependency (which.check target.text)

end Derivation

/-! ## Unambiguity of expressions -/

/-- Whether a token is a comparison operator. -/
def isOperator : TokenKind → Bool
  | .operator _ => true
  | _ => false

/-- Whether a token of some kind, when it comes next, could go on with a derivation. A
status word in front of an operator would be the field of a comparison. -/
def Rule.continuedBy : Rule → TokenKind → Bool
  | operand, kind => isOperator kind
  | conjunction, kind | moreAnd, kind => isOperator kind || kind == .connective .and
  | disjunction, kind | moreOr, kind =>
      isOperator kind || kind == .connective .and || kind == .connective .or

/-- The tokens that follow cannot go on with a derivation. -/
def Rule.Stops (rule : Rule) (rest : List Token) : Prop :=
  ∀ token ∈ rest.head?, rule.continuedBy token.kind = false

theorem Rule.stops_nil (rule : Rule) : rule.Stops [] := by
  intro token isHead
  simp at isHead

theorem Rule.stops_cons_iff {rule : Rule} {token : Token} {rest : List Token} :
    rule.Stops (token :: rest) ↔ rule.continuedBy token.kind = false := by
  simp [Rule.Stops]

theorem stops_operand_of_conjunction {rest : List Token} (stops : Rule.conjunction.Stops rest) :
    Rule.operand.Stops rest := by
  intro token isHead
  have whole := stops token isHead
  simp only [Rule.continuedBy, Bool.or_eq_false_iff] at whole ⊢
  exact whole.1

theorem stops_conjunction_of_disjunction {rest : List Token}
    (stops : Rule.disjunction.Stops rest) : Rule.conjunction.Stops rest := by
  intro token isHead
  have whole := stops token isHead
  simp only [Rule.continuedBy, Bool.or_eq_false_iff] at whole ⊢
  exact whole.1

namespace Derivation

variable {rest others : List Token}

/-- An operand ends where the repetition of AND goes on. -/
theorem stops_operand_append (more : Derivation vocabulary .moreAnd)
    (stops : Rule.conjunction.Stops rest) : Rule.operand.Stops (more.tokens ++ rest) := by
  cases more with
  | endAnd => exact stops_operand_of_conjunction stops
  | and word isAnd next more =>
      simp [tokens, Rule.stops_cons_iff, Rule.continuedBy, isAnd, isOperator]

/-- A conjunction ends where the repetition of OR goes on. -/
theorem stops_conjunction_append (more : Derivation vocabulary .moreOr)
    (stops : Rule.disjunction.Stops rest) : Rule.conjunction.Stops (more.tokens ++ rest) := by
  cases more with
  | endOr => exact stops_conjunction_of_disjunction stops
  | or word isOr next more =>
      simp [tokens, Rule.stops_cons_iff, Rule.continuedBy, isOr, isOperator]

theorem stops_disjunction_rightParen {closing : Token} (closes : closing.kind = .rightParen) :
    Rule.disjunction.Stops (closing :: rest) := by
  simp [Rule.stops_cons_iff, Rule.continuedBy, closes, isOperator]

/-- What a derivation spells determines it, and where it ends, as long as nothing that
follows could go on with it. -/
theorem eq_of_tokens_append_eq {rule : Rule} (first : Derivation vocabulary rule) :
    ∀ (second : Derivation vocabulary rule) {rest others : List Token},
      rule.Stops rest → rule.Stops others → first.tokens ++ rest = second.tokens ++ others →
        first = second ∧ rest = others := by
  induction first with
  | disjunction head more ihHead ihMore =>
      intro second rest others stops otherStops same
      cases second with
      | disjunction otherHead otherMore =>
          simp only [tokens, List.append_assoc] at same
          obtain ⟨rfl, tails⟩ := ihHead otherHead (stops_conjunction_append more stops)
            (stops_conjunction_append otherMore otherStops) same
          obtain ⟨rfl, ends⟩ := ihMore otherMore stops otherStops tails
          exact ⟨rfl, ends⟩
  | endOr =>
      intro second rest others stops otherStops same
      cases second with
      | endOr => exact ⟨rfl, same⟩
      | or word isOr next more =>
          simp only [tokens, List.nil_append, List.cons_append] at same
          rw [same, Rule.stops_cons_iff] at stops
          simp [Rule.continuedBy, isOr] at stops
  | or word isOr next more ihNext ihMore =>
      intro second rest others stops otherStops same
      cases second with
      | endOr =>
          simp only [tokens, List.nil_append, List.cons_append] at same
          rw [← same, Rule.stops_cons_iff] at otherStops
          simp [Rule.continuedBy, isOr] at otherStops
      | or otherWord isOr' otherNext otherMore =>
          simp only [tokens, List.cons_append, List.append_assoc, List.cons.injEq] at same
          obtain ⟨rfl, spelled⟩ := same
          obtain ⟨rfl, tails⟩ := ihNext otherNext (stops_conjunction_append more stops)
            (stops_conjunction_append otherMore otherStops) spelled
          obtain ⟨rfl, ends⟩ := ihMore otherMore stops otherStops tails
          exact ⟨rfl, ends⟩
  | conjunction head more ihHead ihMore =>
      intro second rest others stops otherStops same
      cases second with
      | conjunction otherHead otherMore =>
          simp only [tokens, List.append_assoc] at same
          obtain ⟨rfl, tails⟩ := ihHead otherHead (stops_operand_append more stops)
            (stops_operand_append otherMore otherStops) same
          obtain ⟨rfl, ends⟩ := ihMore otherMore stops otherStops tails
          exact ⟨rfl, ends⟩
  | endAnd =>
      intro second rest others stops otherStops same
      cases second with
      | endAnd => exact ⟨rfl, same⟩
      | and word isAnd next more =>
          simp only [tokens, List.nil_append, List.cons_append] at same
          rw [same, Rule.stops_cons_iff] at stops
          simp [Rule.continuedBy, isAnd] at stops
  | and word isAnd next more ihNext ihMore =>
      intro second rest others stops otherStops same
      cases second with
      | endAnd =>
          simp only [tokens, List.nil_append, List.cons_append] at same
          rw [← same, Rule.stops_cons_iff] at otherStops
          simp [Rule.continuedBy, isAnd] at otherStops
      | and otherWord isAnd' otherNext otherMore =>
          simp only [tokens, List.cons_append, List.append_assoc, List.cons.injEq] at same
          obtain ⟨rfl, spelled⟩ := same
          obtain ⟨rfl, tails⟩ := ihNext otherNext (stops_operand_append more stops)
            (stops_operand_append otherMore otherStops) spelled
          obtain ⟨rfl, ends⟩ := ihMore otherMore stops otherStops tails
          exact ⟨rfl, ends⟩
  -- Operands start with words of different kinds, a status word and a comparison apart.
  | not word isNot inner ih =>
      intro second rest others stops otherStops same
      cases second <;> simp only [tokens, List.cons_append, List.cons.injEq] at same <;>
        obtain ⟨rfl, spelled⟩ := same
      case not otherInner isNot' =>
        obtain ⟨rfl, ends⟩ := ih otherInner stops otherStops spelled
        exact ⟨rfl, ends⟩
      all_goals exfalso; simp_all
  | parenthesis opening opens inside closing closes ih =>
      intro second rest others stops otherStops same
      cases second <;>
        simp only [tokens, List.cons_append, List.append_assoc, List.nil_append,
          List.cons.injEq] at same <;>
        obtain ⟨rfl, spelled⟩ := same
      case parenthesis otherInside otherClosing closes' opens' =>
        obtain ⟨rfl, tails⟩ := ih otherInside (stops_disjunction_rightParen closes)
          (stops_disjunction_rightParen closes') spelled
        obtain ⟨rfl, ends⟩ := List.cons.inj tails
        exact ⟨rfl, ends⟩
      all_goals exfalso; simp_all
  | comparison field word value operator isName hasOperator isValue =>
      intro second rest others stops otherStops same
      cases second <;>
        simp only [tokens, List.cons_append, List.nil_append, List.cons.injEq] at same <;>
        obtain ⟨rfl, spelled⟩ := same
      case comparison otherWord otherValue otherOperator hasOperator' isValue' isName' =>
        obtain ⟨rfl, rfl, ends⟩ := spelled
        obtain rfl : operator = otherOperator := by simp_all
        exact ⟨rfl, ends⟩
      case statusWord =>
        rw [← spelled, Rule.stops_cons_iff] at otherStops
        simp [Rule.continuedBy, hasOperator, isOperator] at otherStops
      all_goals exfalso; simp_all
  | statusWord name isName isStatus =>
      intro second rest others stops otherStops same
      cases second <;>
        simp only [tokens, List.cons_append, List.nil_append, List.cons.injEq] at same <;>
        obtain ⟨rfl, spelled⟩ := same
      case statusWord => exact ⟨rfl, spelled⟩
      case comparison word value operator hasOperator isValue isName' =>
        rw [spelled, Rule.stops_cons_iff] at stops
        simp [Rule.continuedBy, hasOperator, isOperator] at stops
      all_goals exfalso; simp_all
  | state word name operator filter hasOperator isName states =>
      intro second rest others stops otherStops same
      cases second <;>
        simp only [tokens, List.cons_append, List.nil_append, List.cons.injEq] at same <;>
        obtain ⟨rfl, spelled⟩ := same
      case state otherName otherOperator otherFilter isName' alsoStates hasOperator' =>
        obtain ⟨rfl, ends⟩ := spelled
        obtain rfl : operator = otherOperator := by simp_all
        obtain rfl := states.unique alsoStates
        exact ⟨rfl, ends⟩
      all_goals exfalso; simp_all
  | relation word target which isRelation isValue =>
      intro second rest others stops otherStops same
      cases second <;>
        simp only [tokens, List.cons_append, List.nil_append, List.cons.injEq] at same <;>
        obtain ⟨rfl, spelled⟩ := same
      case relation otherTarget otherWhich isValue' isRelation' =>
        obtain ⟨rfl, ends⟩ := spelled
        obtain rfl : which = otherWhich := by simp_all
        exact ⟨rfl, ends⟩
      all_goals exfalso; simp_all

/-- Whether a token of some kind can start an expression. -/
def startsOperand : TokenKind → Bool
  | .connective .not | .leftParen | .identifier | .operator _ | .relation _ => true
  | _ => false

theorem exists_tokens_operand (derivation : Derivation vocabulary .operand) :
    ∃ token rest, derivation.tokens = token :: rest ∧ startsOperand token.kind = true := by
  cases derivation with
  | not word isNot => exact ⟨word, _, rfl, by rw [isNot]; rfl⟩
  | parenthesis opening opens => exact ⟨opening, _, rfl, by rw [opens]; rfl⟩
  | comparison field _ _ _ isName => exact ⟨field, _, rfl, by rw [isName]; rfl⟩
  | statusWord word isName => exact ⟨word, _, rfl, by rw [isName]; rfl⟩
  | state word _ _ _ hasOperator => exact ⟨word, _, rfl, by rw [hasOperator]; rfl⟩
  | relation word _ _ isRelation => exact ⟨word, _, rfl, by rw [isRelation]; rfl⟩

/-- An expression has a first token, and it can start an expression. -/
theorem exists_tokens_disjunction (derivation : Derivation vocabulary .disjunction) :
    ∃ token rest, derivation.tokens = token :: rest ∧ startsOperand token.kind = true := by
  cases derivation with
  | disjunction first more =>
      cases first with
      | conjunction first moreAnd =>
          obtain ⟨token, rest, spelled, starts⟩ := exists_tokens_operand first
          exact ⟨token, _, by simp only [tokens, spelled, List.cons_append]; rfl, starts⟩

end Derivation

/-! ## Clauses and queries -/

/-- The direction of a sort key, which is ascending when nothing is said. -/
inductive DirectionWord
  | absent
  | asc (word : Token) (isAsc : word.kind = .keyword .ascWord)
  | desc (word : Token) (isDesc : word.kind = .keyword .descWord)

namespace DirectionWord

def tokens : DirectionWord → List Token
  | absent => []
  | asc word _ => [word]
  | desc word _ => [word]

def meaning : DirectionWord → SortDirection
  | absent => .asc
  | asc _ _ => .asc
  | desc _ _ => .desc

end DirectionWord

/-- One key of a sort clause. -/
structure Key where
  field : Token
  isName : field.kind = .identifier
  direction : DirectionWord

namespace Key

def tokens (key : Key) : List Token :=
  key.field :: key.direction.tokens

def meaning (key : Key) : SortKey :=
  ⟨key.field.text, key.direction.meaning⟩

end Key

/-- A clause behind the expression of a query. -/
inductive ClauseDerivation
  | sort (word byWord : Token) (isSort : word.kind = .keyword .sortWord)
      (isBy : byWord.kind = .keyword .byWord) (keys : List Key) (nonempty : keys ≠ [])
  | group (word byWord field : Token) (isGroup : word.kind = .keyword .groupWord)
      (isBy : byWord.kind = .keyword .byWord) (isName : field.kind = .identifier)

namespace ClauseDerivation

/-- Which of the two clauses it is. -/
def clause : ClauseDerivation → Clause
  | sort .. => .sort
  | group .. => .group

def tokens : ClauseDerivation → List Token
  | sort word byWord _ _ keys _ => word :: byWord :: keys.flatMap Key.tokens
  | group word byWord field _ _ _ => [word, byWord, field]

/-- What a clause adds to a query. -/
def apply (query : Query) : ClauseDerivation → Query
  | sort _ _ _ _ keys _ => { query with sort := keys.map Key.meaning }
  | group _ _ field _ _ _ => { query with group := some field.text }

end ClauseDerivation

/-- A derivation of a query: an expression that may be missing, and behind it each
clause at most once. -/
structure QueryDerivation (vocabulary : Vocabulary) where
  expression : Option (Derivation vocabulary .disjunction)
  clauses : List ClauseDerivation
  once : clauses.Pairwise fun first second => first.clause ≠ second.clause

namespace QueryDerivation

def tokens (derivation : QueryDerivation vocabulary) : List Token :=
  derivation.expression.elim [] Derivation.tokens ++
    derivation.clauses.flatMap ClauseDerivation.tokens

/-- The query that a derivation stands for. -/
def query (derivation : QueryDerivation vocabulary) : Query :=
  derivation.clauses.foldl ClauseDerivation.apply
    { filter := derivation.expression.map Derivation.meaning }

end QueryDerivation

/-! ## Unambiguity of queries -/

/-- What follows is a clause, or nothing. -/
def AtClause (tokens : List Token) : Prop :=
  ∀ token ∈ tokens.head?,
    token.kind = .keyword .sortWord ∨ token.kind = .keyword .groupWord

theorem atClause_nil : AtClause [] := by
  intro token isHead
  simp at isHead

theorem atClause_cons_iff {token : Token} {rest : List Token} :
    AtClause (token :: rest) ↔
      token.kind = .keyword .sortWord ∨ token.kind = .keyword .groupWord := by
  simp [AtClause]

theorem ClauseDerivation.atClause_tokens_append (clause : ClauseDerivation) (rest : List Token) :
    AtClause (clause.tokens ++ rest) := by
  cases clause with
  | sort word byWord isSort => exact atClause_cons_iff.mpr (Or.inl isSort)
  | group word byWord field isGroup => exact atClause_cons_iff.mpr (Or.inr isGroup)

theorem atClause_flatMap_tokens (clauses : List ClauseDerivation) :
    AtClause (clauses.flatMap ClauseDerivation.tokens) := by
  cases clauses with
  | nil => exact atClause_nil
  | cons clause clauses =>
      rw [List.flatMap_cons]
      exact clause.atClause_tokens_append _

/-- A clause goes on with no expression. -/
theorem AtClause.stops {rest : List Token} (front : AtClause rest) (rule : Rule) :
    rule.Stops rest := by
  intro token isHead
  cases rule <;> rcases front token isHead with kind | kind <;> rw [kind] <;> rfl

/-- No expression starts where a clause does. -/
theorem not_atClause_of_startsOperand {token : Token} {rest : List Token}
    (starts : Derivation.startsOperand token.kind = true) : ¬ AtClause (token :: rest) := by
  rw [atClause_cons_iff]
  intro front
  rcases front with kind | kind <;> rw [kind] at starts <;> cases starts

/-- What follows does not say a direction. -/
def NoDirection (tokens : List Token) : Prop :=
  ∀ token ∈ tokens.head?,
    token.kind ≠ .keyword .ascWord ∧ token.kind ≠ .keyword .descWord

theorem noDirection_cons_iff {token : Token} {rest : List Token} :
    NoDirection (token :: rest) ↔
      token.kind ≠ .keyword .ascWord ∧ token.kind ≠ .keyword .descWord := by
  simp [NoDirection]

theorem AtClause.noDirection {rest : List Token} (front : AtClause rest) : NoDirection rest := by
  intro token isHead
  rcases front token isHead with kind | kind <;> simp [kind]

theorem Key.noDirection_flatMap_append (keys : List Key) {rest : List Token}
    (front : AtClause rest) : NoDirection (keys.flatMap Key.tokens ++ rest) := by
  cases keys with
  | nil => exact front.noDirection
  | cons key keys =>
      simp [Key.tokens, noDirection_cons_iff, key.isName]

theorem DirectionWord.eq_of_tokens_append_eq (first second : DirectionWord)
    {rest others : List Token} (ends : NoDirection rest) (otherEnds : NoDirection others)
    (same : first.tokens ++ rest = second.tokens ++ others) :
    first = second ∧ rest = others := by
  cases first <;> cases second <;>
    simp only [tokens, List.nil_append, List.cons_append, List.cons.injEq] at same
  case absent.absent => exact ⟨rfl, same⟩
  case absent.asc word isAsc =>
    rw [same, noDirection_cons_iff] at ends
    exact absurd isAsc ends.1
  case absent.desc word isDesc =>
    rw [same, noDirection_cons_iff] at ends
    exact absurd isDesc ends.2
  case asc.absent word isAsc =>
    rw [← same, noDirection_cons_iff] at otherEnds
    exact absurd isAsc otherEnds.1
  case desc.absent word isDesc =>
    rw [← same, noDirection_cons_iff] at otherEnds
    exact absurd isDesc otherEnds.2
  case asc.asc =>
    obtain ⟨rfl, ends⟩ := same
    exact ⟨rfl, ends⟩
  case desc.desc =>
    obtain ⟨rfl, ends⟩ := same
    exact ⟨rfl, ends⟩
  case asc.desc word isAsc other isDesc =>
    rw [same.1, isDesc] at isAsc
    cases isAsc
  case desc.asc word isDesc other isAsc =>
    rw [same.1, isAsc] at isDesc
    cases isDesc

theorem Key.eq_of_flatMap_tokens_append_eq {first second : List Key} {rest others : List Token}
    (front : AtClause rest) (otherFront : AtClause others)
    (same : first.flatMap Key.tokens ++ rest = second.flatMap Key.tokens ++ others) :
    first = second ∧ rest = others := by
  induction first generalizing second with
  | nil =>
      cases second with
      | nil => exact ⟨rfl, same⟩
      | cons key keys =>
          simp only [List.flatMap_nil, List.nil_append, List.flatMap_cons, Key.tokens,
            List.cons_append] at same
          rw [same, atClause_cons_iff, key.isName] at front
          simp at front
  | cons key keys ih =>
      cases second with
      | nil =>
          simp only [List.flatMap_nil, List.nil_append, List.flatMap_cons, Key.tokens,
            List.cons_append] at same
          rw [← same, atClause_cons_iff, key.isName] at otherFront
          simp at otherFront
      | cons other others' =>
          obtain ⟨field, isName, direction⟩ := key
          obtain ⟨otherField, otherIsName, otherDirection⟩ := other
          simp only [List.flatMap_cons, Key.tokens, List.cons_append, List.append_assoc,
            List.cons.injEq] at same
          obtain ⟨rfl, spelled⟩ := same
          obtain ⟨rfl, tails⟩ := direction.eq_of_tokens_append_eq otherDirection
            (noDirection_flatMap_append keys front) (noDirection_flatMap_append others' otherFront)
            spelled
          obtain ⟨rfl, ends⟩ := ih tails
          exact ⟨rfl, ends⟩

theorem ClauseDerivation.eq_of_tokens_append_eq (first second : ClauseDerivation)
    {rest others : List Token} (front : AtClause rest) (otherFront : AtClause others)
    (same : first.tokens ++ rest = second.tokens ++ others) :
    first = second ∧ rest = others := by
  cases first <;> cases second <;>
    simp only [tokens, List.nil_append, List.cons_append, List.cons.injEq] at same
  case sort.sort =>
    obtain ⟨rfl, rfl, spelled⟩ := same
    obtain ⟨rfl, ends⟩ := Key.eq_of_flatMap_tokens_append_eq front otherFront spelled
    exact ⟨rfl, ends⟩
  case group.group =>
    obtain ⟨rfl, rfl, rfl, ends⟩ := same
    exact ⟨rfl, ends⟩
  case sort.group word _ isSort _ _ _ other _ _ isGroup _ _ =>
    rw [same.1, isGroup] at isSort
    cases isSort
  case group.sort word _ _ isGroup _ _ other _ isSort _ _ _ =>
    rw [same.1, isSort] at isGroup
    cases isGroup

theorem ClauseDerivation.eq_of_flatMap_tokens_eq {first second : List ClauseDerivation}
    (same : first.flatMap tokens = second.flatMap tokens) : first = second := by
  induction first generalizing second with
  | nil =>
      cases second with
      | nil => rfl
      | cons clause clauses => cases clause <;> simp [tokens] at same
  | cons clause clauses ih =>
      cases second with
      | nil => cases clause <;> simp [tokens] at same
      | cons other others =>
          rw [List.flatMap_cons, List.flatMap_cons] at same
          obtain ⟨rfl, tails⟩ := clause.eq_of_tokens_append_eq other
            (atClause_flatMap_tokens clauses) (atClause_flatMap_tokens others) same
          rw [ih tails]

/-- A list of tokens has at most one derivation as a query. -/
theorem QueryDerivation.eq_of_tokens_eq {first second : QueryDerivation vocabulary}
    (same : first.tokens = second.tokens) : first = second := by
  obtain ⟨expression, clauses, once⟩ := first
  obtain ⟨otherExpression, otherClauses, otherOnce⟩ := second
  simp only [tokens] at same
  have front := atClause_flatMap_tokens clauses
  have otherFront := atClause_flatMap_tokens otherClauses
  cases expression with
  | none =>
      cases otherExpression with
      | none =>
          obtain rfl := ClauseDerivation.eq_of_flatMap_tokens_eq same
          rfl
      | some other =>
          obtain ⟨token, rest, spelled, starts⟩ := other.exists_tokens_disjunction
          simp only [Option.elim, spelled, List.nil_append, List.cons_append] at same
          exact absurd (same ▸ front) (not_atClause_of_startsOperand starts)
  | some expression =>
      cases otherExpression with
      | none =>
          obtain ⟨token, rest, spelled, starts⟩ := expression.exists_tokens_disjunction
          simp only [Option.elim, spelled, List.nil_append, List.cons_append] at same
          exact absurd (same ▸ otherFront) (not_atClause_of_startsOperand starts)
      | some other =>
          obtain ⟨rfl, tails⟩ := expression.eq_of_tokens_append_eq other (front.stops _)
            (otherFront.stops _) same
          obtain rfl := ClauseDerivation.eq_of_flatMap_tokens_eq tails
          rfl

end Grammar

end TaskQuery

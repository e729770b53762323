/-
# Walks over tokens

Reading answers on every list of tokens, also on lists that the grammar does not derive. A
*walked* expression is the tree of what it goes over there. Parts of it may be missing: an
operand that is malformed is a leaf of its own, and a parenthesis may stay open. The
meaning of a walked expression is given for each kind of node from the meanings of its
parts alone. An operand without a filter is left out of a conjunction, and takes over a
disjunction and a negation.

What is walked is a relation between tokens, expressions and the tokens that are left. All
it says about malformed operands is where they end, so that the rules around them can go
on. Tokens determine their walk, and an end marker behind them changes nothing.
-/

import TaskQuery.Proofs.Grammar
import Mathlib.Data.List.ReduceOption

namespace TaskQuery

namespace Grammar

/-! ## Walked expressions and their meaning -/

/-- An expression as it was walked over, in which some operands may be malformed. -/
inductive Walked
  | malformed
  | primary (filter : Filter)
  | parenthesis (inside : Walked)
  | not (operand : Walked)
  | conjunction (operands : List Walked)
  | disjunction (operands : List Walked)

/-- Filters joined from the left, if there are any. -/
def joined (join : Filter → Filter → Filter) : List Filter → Option Filter
  | [] => none
  | first :: others => some (others.foldl join first)

/-- The conjunction of the operands that are filters. -/
def conjunctionOf (operands : List (Option Filter)) : Option Filter :=
  joined .and operands.reduceOption

/-- The disjunction of all operands, if all of them are filters. -/
def disjunctionOf (operands : List (Option Filter)) : Option Filter :=
  if none ∈ operands then none else joined .or operands.reduceOption

namespace Walked

mutual

/-- The filter that a walked expression stands for, if it stands for one. -/
def meaning : Walked → Option Filter
  | malformed => none
  | primary filter => some filter
  | parenthesis inside => inside.meaning
  | not operand => operand.meaning.map .not
  | conjunction operands => conjunctionOf (meanings operands)
  | disjunction operands => disjunctionOf (meanings operands)

/-- The meanings of some operands, one by one. -/
def meanings : List Walked → List (Option Filter)
  | [] => []
  | operand :: operands => operand.meaning :: meanings operands

end

/-- A malformed operand counts for nothing between two others. -/
example (left right : Filter) :
    (conjunction [primary left, not (parenthesis malformed), primary right]).meaning =
      some (.and left right) :=
  rfl

end Walked

/-! ## Walks -/

/-- What a walk by some rule goes over: a repetition gives the operands one by one. -/
abbrev Rule.Walk : Rule → Type
  | moreOr | moreAnd => List Walked
  | disjunction | conjunction | operand => Walked

variable (vocabulary : Vocabulary)

/-- The operands that are neither negated nor in parentheses, with their filters and the
tokens behind them. -/
inductive IsPrimary : List Token → Filter → List Token → Prop
  | comparison {field word value : Token} {operator : Operator} {rest : List Token}
      (isName : field.kind = .identifier) (hasOperator : word.kind = .operator operator)
      (isValue : IsValue value.kind) :
      IsPrimary (field :: word :: value :: rest) (.comparison field.text operator value.text) rest
  | statusWord {word : Token} {rest : List Token} (isName : word.kind = .identifier)
      (isStatus : vocabulary.isStatusWord word.text = true) (stops : Rule.operand.Stops rest) :
      IsPrimary (word :: rest) (.comparison statusField .is (Text.lowercase word.text)) rest
  | state {word name : Token} {operator : Operator} {filter : Filter} {rest : List Token}
      (hasOperator : word.kind = .operator operator) (isName : name.kind = .identifier)
      (states : StateWords operator (Text.lowercase name.text) filter) :
      IsPrimary (word :: name :: rest) filter rest
  | relation {word target : Token} {which : Relation} {rest : List Token}
      (isRelation : word.kind = .relation which) (isValue : IsValue target.kind) :
      IsPrimary (word :: target :: rest) (.dependency (which.check target.text)) rest

/-- What a name without a value leaves: an operator behind it is taken. -/
def behindName : List Token → List Token
  | [] => []
  | token :: rest => if isOperator token.kind then rest else token :: rest

/-- What a malformed operand leaves. A token that ends an operand stays where it is, and
any other is taken. -/
def behindMalformed : List Token → List Token
  | [] => []
  | token :: rest =>
      if token.kind.endsOperand then token :: rest
      else if token.kind = .identifier then behindName rest
      else rest

/-- Walking over tokens by a rule gives an expression and leaves some tokens. Repetitions
go on as long as their word comes next. A parenthesis that is not closed ends where its
inside does. An operand that is neither negated nor in parentheses and no primary one is
malformed. -/
inductive Walks : (rule : Rule) → List Token → rule.Walk → List Token → Prop
  | disjunction {tokens middle rest : List Token} {first : Walked} {more : List Walked}
      (head : Walks .conjunction tokens first middle) (tail : Walks .moreOr middle more rest) :
      Walks .disjunction tokens (.disjunction (first :: more)) rest
  | endOr {tokens : List Token} (ends : ∀ token ∈ tokens.head?, token.kind ≠ .connective .or) :
      Walks .moreOr tokens [] tokens
  | or {word : Token} {tokens middle rest : List Token} {next : Walked} {more : List Walked}
      (isOr : word.kind = .connective .or) (head : Walks .conjunction tokens next middle)
      (tail : Walks .moreOr middle more rest) : Walks .moreOr (word :: tokens) (next :: more) rest
  | conjunction {tokens middle rest : List Token} {first : Walked} {more : List Walked}
      (head : Walks .operand tokens first middle) (tail : Walks .moreAnd middle more rest) :
      Walks .conjunction tokens (.conjunction (first :: more)) rest
  | endAnd {tokens : List Token} (ends : ∀ token ∈ tokens.head?, token.kind ≠ .connective .and) :
      Walks .moreAnd tokens [] tokens
  | and {word : Token} {tokens middle rest : List Token} {next : Walked} {more : List Walked}
      (isAnd : word.kind = .connective .and) (head : Walks .operand tokens next middle)
      (tail : Walks .moreAnd middle more rest) : Walks .moreAnd (word :: tokens) (next :: more) rest
  | not {word : Token} {tokens rest : List Token} {inner : Walked}
      (isNot : word.kind = .connective .not) (inside : Walks .operand tokens inner rest) :
      Walks .operand (word :: tokens) (.not inner) rest
  | closed {opening closing : Token} {tokens rest : List Token} {inner : Walked}
      (opens : opening.kind = .leftParen) (closes : closing.kind = .rightParen)
      (inside : Walks .disjunction tokens inner (closing :: rest)) :
      Walks .operand (opening :: tokens) (.parenthesis inner) rest
  | unclosed {opening : Token} {tokens rest : List Token} {inner : Walked}
      (opens : opening.kind = .leftParen)
      (noClosing : ∀ token ∈ rest.head?, token.kind ≠ .rightParen)
      (inside : Walks .disjunction tokens inner rest) :
      Walks .operand (opening :: tokens) (.parenthesis inner) rest
  | primary {tokens rest : List Token} {filter : Filter}
      (isPrimary : IsPrimary vocabulary tokens filter rest) :
      Walks .operand tokens (.primary filter) rest
  | malformed {tokens rest : List Token}
      (plain : ∀ token ∈ tokens.head?,
        token.kind ≠ .connective .not ∧ token.kind ≠ .leftParen)
      (noPrimary : ∀ filter others, ¬ IsPrimary vocabulary tokens filter others)
      (ends : rest = behindMalformed tokens) : Walks .operand tokens .malformed rest

/-- Walking over the tokens of a query gives its expression, if it has one. A clause or an
end marker in the first place leaves no room for an expression. -/
inductive WalksQuery : List Token → Option Walked → Prop
  | empty : WalksQuery [] none
  | noExpression {token : Token} {rest : List Token}
      (ends : token.kind.endsExpression = true) : WalksQuery (token :: rest) none
  | expression {token : Token} {tokens rest : List Token} {walked : Walked}
      (goesOn : token.kind.endsExpression = false)
      (walks : Walks vocabulary .disjunction (token :: tokens) walked rest) :
      WalksQuery (token :: tokens) (some walked)

variable {vocabulary} {tokens rest : List Token} {token : Token} {filter : Filter}

/-! ## There is one walk -/

/-- Primary operands start with words of different kinds, a comparison and a status word
apart, and an operator behind a name makes a comparison. -/
theorem IsPrimary.unique {first second : Filter} {others : List Token}
    (isPrimary : IsPrimary vocabulary tokens first rest)
    (alsoPrimary : IsPrimary vocabulary tokens second others) :
    first = second ∧ rest = others := by
  cases isPrimary with
  | @comparison _ _ _ operator _ isName hasOperator =>
      cases alsoPrimary with
      | @comparison _ _ _ otherOperator _ _ alsoOperator =>
          obtain rfl : operator = otherOperator := by simp_all
          exact ⟨rfl, rfl⟩
      | statusWord _ _ stops =>
          rw [Rule.stops_cons_iff, Rule.continuedBy, hasOperator] at stops
          cases stops
      | state alsoOperator => simp [isName] at alsoOperator
      | relation isRelation => simp [isName] at isRelation
  | statusWord isName _ stops =>
      cases alsoPrimary with
      | comparison _ hasOperator =>
          rw [Rule.stops_cons_iff, Rule.continuedBy, hasOperator] at stops
          cases stops
      | statusWord => exact ⟨rfl, rfl⟩
      | state hasOperator => simp [isName] at hasOperator
      | relation isRelation => simp [isName] at isRelation
  | @state _ _ operator _ _ hasOperator _ states =>
      cases alsoPrimary with
      | comparison isName | statusWord isName => simp [hasOperator] at isName
      | @state _ _ otherOperator _ _ alsoOperator _ alsoStates =>
          obtain rfl : operator = otherOperator := by simp_all
          exact ⟨states.unique alsoStates, rfl⟩
      | relation isRelation => simp [hasOperator] at isRelation
  | @relation _ _ which _ isRelation =>
      cases alsoPrimary with
      | comparison isName | statusWord isName => simp [isRelation] at isName
      | state hasOperator => simp [isRelation] at hasOperator
      | @relation _ _ otherWhich _ alsoRelation =>
          obtain rfl : which = otherWhich := by simp_all
          exact ⟨rfl, rfl⟩

/-- A primary operand starts with a name, an operator or a relation. -/
theorem IsPrimary.plain (isPrimary : IsPrimary vocabulary (token :: tokens) filter rest) :
    token.kind ≠ .connective .not ∧ token.kind ≠ .leftParen := by
  cases isPrimary <;> simp_all

/-- Tokens determine what is walked over and what is left. -/
theorem Walks.unique {rule : Rule} {tokens rest : List Token} {walked : rule.Walk}
    (walks : Walks vocabulary rule tokens walked rest) :
    ∀ {other : rule.Walk} {others : List Token}, Walks vocabulary rule tokens other others →
      walked = other ∧ rest = others := by
  induction walks with
  | disjunction head tail ihHead ihTail =>
      intro other others walks
      cases walks with
      | disjunction otherHead otherTail =>
          obtain ⟨rfl, rfl⟩ := ihHead otherHead
          obtain ⟨rfl, rfl⟩ := ihTail otherTail
          exact ⟨rfl, rfl⟩
  | endOr ends =>
      intro other others walks
      cases walks with
      | endOr => exact ⟨rfl, rfl⟩
      | or isOr => exact absurd isOr (ends _ rfl)
  | or isOr head tail ihHead ihTail =>
      intro other others walks
      cases walks with
      | endOr ends => exact absurd isOr (ends _ rfl)
      | or _ otherHead otherTail =>
          obtain ⟨rfl, rfl⟩ := ihHead otherHead
          obtain ⟨rfl, rfl⟩ := ihTail otherTail
          exact ⟨rfl, rfl⟩
  | conjunction head tail ihHead ihTail =>
      intro other others walks
      cases walks with
      | conjunction otherHead otherTail =>
          obtain ⟨rfl, rfl⟩ := ihHead otherHead
          obtain ⟨rfl, rfl⟩ := ihTail otherTail
          exact ⟨rfl, rfl⟩
  | endAnd ends =>
      intro other others walks
      cases walks with
      | endAnd => exact ⟨rfl, rfl⟩
      | and isAnd => exact absurd isAnd (ends _ rfl)
  | and isAnd head tail ihHead ihTail =>
      intro other others walks
      cases walks with
      | endAnd ends => exact absurd isAnd (ends _ rfl)
      | and _ otherHead otherTail =>
          obtain ⟨rfl, rfl⟩ := ihHead otherHead
          obtain ⟨rfl, rfl⟩ := ihTail otherTail
          exact ⟨rfl, rfl⟩
  | not isNot inside ih =>
      intro other others walks
      cases walks with
      | not _ otherInside =>
          obtain ⟨rfl, rfl⟩ := ih otherInside
          exact ⟨rfl, rfl⟩
      | closed opens | unclosed opens => simp [isNot] at opens
      | primary isPrimary => exact absurd isNot isPrimary.plain.1
      | malformed plain => exact absurd isNot (plain _ rfl).1
  | closed opens closes inside ih =>
      intro other others walks
      cases walks with
      | not isNot => simp [opens] at isNot
      | closed _ _ otherInside =>
          obtain ⟨rfl, same⟩ := ih otherInside
          exact ⟨rfl, (List.cons.inj same).2⟩
      | unclosed _ noClosing otherInside =>
          obtain ⟨-, rfl⟩ := ih otherInside
          exact absurd closes (noClosing _ rfl)
      | primary isPrimary => exact absurd opens isPrimary.plain.2
      | malformed plain => exact absurd opens (plain _ rfl).2
  | unclosed opens noClosing inside ih =>
      intro other others walks
      cases walks with
      | not isNot => simp [opens] at isNot
      | closed _ closes otherInside =>
          obtain ⟨-, rfl⟩ := ih otherInside
          exact absurd closes (noClosing _ rfl)
      | unclosed _ _ otherInside =>
          obtain ⟨rfl, rfl⟩ := ih otherInside
          exact ⟨rfl, rfl⟩
      | primary isPrimary => exact absurd opens isPrimary.plain.2
      | malformed plain => exact absurd opens (plain _ rfl).2
  | primary isPrimary =>
      intro other others walks
      cases walks with
      | not isNot => exact absurd isNot isPrimary.plain.1
      | closed opens | unclosed opens => exact absurd opens isPrimary.plain.2
      | primary alsoPrimary =>
          obtain ⟨rfl, rfl⟩ := isPrimary.unique alsoPrimary
          exact ⟨rfl, rfl⟩
      | malformed _ noPrimary => exact absurd isPrimary (noPrimary _ _)
  | malformed plain noPrimary ends =>
      intro other others walks
      cases walks with
      | not isNot => exact absurd isNot (plain _ rfl).1
      | closed opens | unclosed opens => exact absurd opens (plain _ rfl).2
      | primary isPrimary => exact absurd isPrimary (noPrimary _ _)
      | malformed _ _ otherEnds => exact ⟨rfl, ends.trans otherEnds.symm⟩

theorem WalksQuery.unique {first second : Option Walked}
    (walks : WalksQuery vocabulary tokens first) (alsoWalks : WalksQuery vocabulary tokens second) :
    first = second := by
  cases walks with
  | empty =>
      cases alsoWalks
      rfl
  | noExpression ends =>
      cases alsoWalks with
      | noExpression => rfl
      | expression goesOn => simp [ends] at goesOn
  | expression goesOn walks =>
      cases alsoWalks with
      | noExpression ends => simp [ends] at goesOn
      | expression _ alsoWalks => rw [(walks.unique alsoWalks).1]

/-! ## An end marker ends what the end of the tokens ends -/

section EndMarker

variable {marker : Token}

theorem forall_head?_append {property : Token → Prop}
    (holds : ∀ token ∈ tokens.head?, property token) (marked : property marker) :
    ∀ token ∈ (tokens ++ [marker]).head?, property token := by
  cases tokens with
  | nil => simpa using marked
  | cons token tokens => exact holds

theorem behindName_append (isEnd : marker.kind = .endOfInput) (tokens : List Token) :
    behindName (tokens ++ [marker]) = behindName tokens ++ [marker] := by
  cases tokens with
  | nil => simp [behindName, isOperator, isEnd]
  | cons token tokens =>
      rw [List.cons_append, behindName, behindName]
      split <;> rfl

theorem behindMalformed_append (isEnd : marker.kind = .endOfInput) (tokens : List Token) :
    behindMalformed (tokens ++ [marker]) = behindMalformed tokens ++ [marker] := by
  cases tokens with
  | nil => simp [behindMalformed, TokenKind.endsOperand, isEnd]
  | cons token tokens =>
      rw [List.cons_append, behindMalformed, behindMalformed]
      split
      · rfl
      · split
        · exact behindName_append isEnd tokens
        · rfl

theorem IsPrimary.append (isEnd : marker.kind = .endOfInput)
    (isPrimary : IsPrimary vocabulary tokens filter rest) :
    IsPrimary vocabulary (tokens ++ [marker]) filter (rest ++ [marker]) := by
  cases isPrimary with
  | comparison isName hasOperator isValue => exact .comparison isName hasOperator isValue
  | statusWord isName isStatus stops =>
      have markerStops : Rule.operand.continuedBy marker.kind = false := by
        rw [isEnd]
        rfl
      exact .statusWord isName isStatus (forall_head?_append stops markerStops)
  | state hasOperator isName states => exact .state hasOperator isName states
  | relation isRelation isValue => exact .relation isRelation isValue

/-- No primary operand takes an end marker. -/
theorem IsPrimary.exists_of_append (isEnd : marker.kind = .endOfInput)
    (isPrimary : IsPrimary vocabulary (tokens ++ [marker]) filter rest) :
    ∃ others, IsPrimary vocabulary tokens filter others := by
  generalize spelled : tokens ++ [marker] = all at isPrimary
  cases isPrimary with
  | comparison isName hasOperator isValue =>
      rcases tokens with _ | ⟨_, _ | ⟨_, _ | ⟨_, tokens⟩⟩⟩ <;>
        simp only [List.nil_append, List.cons_append, List.cons.injEq, reduceCtorEq, and_false]
          at spelled
      · obtain ⟨rfl, rfl, rfl, rfl⟩ := spelled
        rw [isEnd] at isValue
        cases isValue
      · obtain ⟨rfl, rfl, rfl, rfl⟩ := spelled
        exact ⟨tokens, .comparison isName hasOperator isValue⟩
  | statusWord isName isStatus stops =>
      rcases tokens with _ | ⟨_, tokens⟩ <;>
        simp only [List.nil_append, List.cons_append, List.cons.injEq] at spelled
      · obtain ⟨rfl, rfl⟩ := spelled
        simp [isEnd] at isName
      · obtain ⟨rfl, rfl⟩ := spelled
        refine ⟨tokens, .statusWord isName isStatus fun token isHead => ?_⟩
        exact stops token (List.mem_head?_append_of_mem_head? isHead)
  | state hasOperator isName states =>
      rcases tokens with _ | ⟨_, _ | ⟨_, tokens⟩⟩ <;>
        simp only [List.nil_append, List.cons_append, List.cons.injEq, reduceCtorEq, and_false]
          at spelled
      · obtain ⟨rfl, rfl, rfl⟩ := spelled
        simp [isEnd] at isName
      · obtain ⟨rfl, rfl, rfl⟩ := spelled
        exact ⟨tokens, .state hasOperator isName states⟩
  | relation isRelation isValue =>
      rcases tokens with _ | ⟨_, _ | ⟨_, tokens⟩⟩ <;>
        simp only [List.nil_append, List.cons_append, List.cons.injEq, reduceCtorEq, and_false]
          at spelled
      · obtain ⟨rfl, rfl, rfl⟩ := spelled
        rw [isEnd] at isValue
        cases isValue
      · obtain ⟨rfl, rfl, rfl⟩ := spelled
        exact ⟨tokens, .relation isRelation isValue⟩

/-- A walk over tokens is one over these tokens and an end marker. -/
theorem Walks.append (isEnd : marker.kind = .endOfInput) {rule : Rule} {tokens rest : List Token}
    {walked : rule.Walk} (walks : Walks vocabulary rule tokens walked rest) :
    Walks vocabulary rule (tokens ++ [marker]) walked (rest ++ [marker]) := by
  induction walks with
  | disjunction _ _ ihHead ihTail => exact .disjunction ihHead ihTail
  | endOr ends => exact .endOr (forall_head?_append ends (by simp [isEnd]))
  | or isOr _ _ ihHead ihTail => exact .or isOr ihHead ihTail
  | conjunction _ _ ihHead ihTail => exact .conjunction ihHead ihTail
  | endAnd ends => exact .endAnd (forall_head?_append ends (by simp [isEnd]))
  | and isAnd _ _ ihHead ihTail => exact .and isAnd ihHead ihTail
  | not isNot _ ih => exact .not isNot ih
  | closed opens closes _ ih => exact .closed opens closes ih
  | unclosed opens noClosing _ ih =>
      exact .unclosed opens (forall_head?_append noClosing (by simp [isEnd])) ih
  | primary isPrimary => exact .primary (isPrimary.append isEnd)
  | malformed plain noPrimary ends =>
      refine .malformed (forall_head?_append plain (by simp [isEnd])) ?_ ?_
      · intro filter others isPrimary
        obtain ⟨left, alsoPrimary⟩ := isPrimary.exists_of_append isEnd
        exact noPrimary filter left alsoPrimary
      · rw [behindMalformed_append isEnd, ends]

theorem WalksQuery.append (isEnd : marker.kind = .endOfInput) {walked : Option Walked}
    (walks : WalksQuery vocabulary tokens walked) :
    WalksQuery vocabulary (tokens ++ [marker]) walked := by
  cases walks with
  | empty => exact .noExpression (by rw [isEnd]; rfl)
  | noExpression ends => exact .noExpression ends
  | expression goesOn walks => exact .expression goesOn (walks.append isEnd)

end EndMarker

end Grammar

end TaskQuery

/-
# What lenient reading means

Every list of tokens has a walk, and reading gives the meaning of what is walked over. A
rule that finds nothing to read leaves the tokens where a malformed operand ends, and the
repetitions join their operands one after the other, which comes to the same as joining
those that are filters, or all of them if all are filters.
-/

import TaskQuery.Proofs.Recognition
import TaskQuery.Proofs.Walks
import TaskQuery.Query.Evaluation

namespace TaskQuery

namespace Grammar

/-! ## Chains of operands -/

theorem foldl_conjoin_some (left : Filter) (operands : List (Option Filter)) :
    operands.foldl conjoin (some left) = some (operands.reduceOption.foldl .and left) := by
  induction operands generalizing left with
  | nil => rfl
  | cons operand operands ih =>
      cases operand with
      | none => exact ih left
      | some right => exact ih (.and left right)

/-- Conjoining operands one after the other gives the conjunction of those that are
filters. -/
theorem foldl_conjoin (first : Option Filter) (operands : List (Option Filter)) :
    operands.foldl conjoin first = conjunctionOf (first :: operands) := by
  cases first with
  | some left => exact foldl_conjoin_some left operands
  | none =>
      induction operands with
      | nil => rfl
      | cons operand operands ih =>
          cases operand with
          | none => exact ih
          | some left => exact foldl_conjoin_some left operands

theorem foldl_disjoin_none (operands : List (Option Filter)) :
    operands.foldl disjoin none = none := by
  induction operands with
  | nil => rfl
  | cons operand operands ih => exact ih

theorem foldl_disjoin_some (left : Filter) (operands : List (Option Filter)) :
    operands.foldl disjoin (some left) =
      if none ∈ operands then none else some (operands.reduceOption.foldl .or left) := by
  induction operands generalizing left with
  | nil => rfl
  | cons operand operands ih =>
      cases operand with
      | none =>
          rw [if_pos List.mem_cons_self]
          exact foldl_disjoin_none operands
      | some right =>
          refine (ih (.or left right)).trans ?_
          simp only [List.mem_cons, reduceCtorEq, false_or, List.reduceOption_cons_of_some,
            List.foldl_cons]

/-- Disjoining operands one after the other gives the disjunction of all of them, if all
are filters. -/
theorem foldl_disjoin (first : Option Filter) (operands : List (Option Filter)) :
    operands.foldl disjoin first = disjunctionOf (first :: operands) := by
  cases first with
  | none =>
      rw [disjunctionOf, if_pos List.mem_cons_self]
      exact foldl_disjoin_none operands
  | some left =>
      rw [foldl_disjoin_some, disjunctionOf]
      simp only [List.mem_cons, reduceCtorEq, false_or, List.reduceOption_cons_of_some, joined]

end Grammar

/-! ## Primary and malformed operands -/

/-- Either a value is read, with no report that counts, or none is read and certain tokens
are left. -/
def Reading.FindsOrLeaves {tokens : List Token} (reading : Reading (Option Filter) tokens)
    (left : List Token) : Prop :=
  (∃ filter, reading.Accepts (some filter) reading.rest) ∨
    reading.value = none ∧ reading.rest = left

theorem Reading.FindsOrLeaves.after {tokens left : List Token}
    {reading : Reading (Option Filter) tokens} (found : reading.FindsOrLeaves left)
    (token : Token) : (reading.after token).FindsOrLeaves left := by
  rcases found with ⟨filter, accepted⟩ | missing
  · exact Or.inl ⟨filter, accepts_after_iff.mpr accepted⟩
  · exact Or.inr missing

theorem Reading.after_value {α : Type} {tokens : List Token} (token : Token)
    (reading : Reading α tokens) : (reading.after token).value = reading.value :=
  rfl

theorem closeParenthesis_value {tokens : List Token} (opening : Token)
    (inside : Reading (Option Filter) tokens) :
    (closeParenthesis opening inside).value = inside.value := by
  obtain ⟨value, diagnostics, remaining, suffix⟩ := inside
  cases remaining with
  | nil => rfl
  | cons token remaining =>
      rw [closeParenthesis]
      split <;> rfl

namespace Grammar

open Reading

variable {vocabulary : Vocabulary} {endPosition : Nat} {tokens rest : List Token} {token : Token}
  {filter : Filter}

theorem stateShortcut_findsOrLeaves (operator : Operator) (token : Token)
    (tokens : List Token) : (stateShortcut operator token tokens).FindsOrLeaves tokens := by
  cases tokens with
  | nil => exact Or.inr ⟨rfl, rfl⟩
  | cons word tokens =>
      rw [stateShortcut]
      split
      · exact Or.inl ⟨_, accepts_silent_iff.mpr ⟨rfl, rfl⟩⟩
      · exact Or.inr ⟨rfl, rfl⟩

theorem relationShortcut_findsOrLeaves (relation : Relation) (token : Token)
    (tokens : List Token) : (relationShortcut relation token tokens).FindsOrLeaves tokens := by
  cases tokens with
  | nil => exact Or.inr ⟨rfl, rfl⟩
  | cons target tokens =>
      rw [relationShortcut]
      split
      · exact Or.inl ⟨_, accepts_silent_iff.mpr ⟨rfl, rfl⟩⟩
      · exact Or.inr ⟨rfl, rfl⟩

theorem comparisonValue_findsOrLeaves (field : Token) (operator : Operator)
    (operatorText : String) (tokens : List Token) :
    (comparisonValue vocabulary field operator operatorText tokens).FindsOrLeaves tokens := by
  cases tokens with
  | nil => exact Or.inr ⟨rfl, rfl⟩
  | cons value tokens =>
      rw [comparisonValue]
      split
      · exact Or.inl ⟨_, rfl, rfl, isUnknownField_fieldDiagnostics vocabulary field.text⟩
      · exact Or.inr ⟨rfl, rfl⟩

theorem loneName_findsOrLeaves (field : Token) (tokens : List Token) :
    (loneName vocabulary field tokens).FindsOrLeaves tokens := by
  rw [loneName]
  split
  · exact Or.inl ⟨_, accepts_silent_iff.mpr ⟨rfl, rfl⟩⟩
  · exact Or.inr ⟨rfl, rfl⟩

theorem comparison_findsOrLeaves (field : Token) (tokens : List Token) :
    (comparison vocabulary field tokens).FindsOrLeaves (behindName tokens) := by
  cases tokens with
  | nil => exact loneName_findsOrLeaves field []
  | cons word tokens =>
      rw [comparison]
      split
      · rename_i operator hasOperator
        rw [behindName, hasOperator]
        exact (comparisonValue_findsOrLeaves field operator word.text tokens).after word
      · rename_i noOperator
        have plain : isOperator word.kind ≠ true := by
          rw [isOperator.eq_def]
          split
          · rename_i operator hasOperator
            exact absurd hasOperator (noOperator operator)
          · exact Bool.false_ne_true
        rw [behindName, if_neg plain]
        exact loneName_findsOrLeaves field (word :: tokens)

theorem leaf_findsOrLeaves (tokens : List Token) :
    (leaf vocabulary endPosition tokens).FindsOrLeaves (behindMalformed tokens) := by
  cases tokens with
  | nil => exact Or.inr ⟨rfl, rfl⟩
  | cons token tokens =>
      rw [leaf]
      split
      · rename_i operator hasOperator
        rw [behindMalformed, hasOperator]
        exact (stateShortcut_findsOrLeaves operator token tokens).after token
      · rename_i relation isRelation
        rw [behindMalformed, isRelation]
        exact (relationShortcut_findsOrLeaves relation token tokens).after token
      · rename_i isName
        rw [behindMalformed, isName]
        exact (comparison_findsOrLeaves token tokens).after token
      · rename_i noName
        rw [behindMalformed, if_neg noName]
        split <;> exact Or.inr ⟨rfl, rfl⟩

/-- The primary operands are what is read without a report that counts. -/
theorem isPrimary_iff_leaf_accepts (endPosition : Nat) :
    IsPrimary vocabulary tokens filter rest ↔
      (leaf vocabulary endPosition tokens).Accepts (some filter) rest := by
  constructor
  · intro isPrimary
    cases isPrimary with
    | comparison isName hasOperator isValue =>
        refine leaf_accepts_iff.mpr (Or.inr (Or.inr ⟨isName, comparison_accepts_iff.mpr ?_⟩))
        exact Or.inl ⟨_, _, _, rfl, hasOperator, isValue, rfl⟩
    | statusWord isName isStatus stops =>
        refine leaf_accepts_iff.mpr (Or.inr (Or.inr ⟨isName, comparison_accepts_iff.mpr ?_⟩))
        exact Or.inr ⟨stops, isStatus, rfl, rfl⟩
    | state hasOperator isName states =>
        refine leaf_accepts_iff.mpr (Or.inl ⟨_, hasOperator, stateShortcut_accepts_iff.mpr ?_⟩)
        exact ⟨_, _, rfl, isName, states, rfl⟩
    | relation isRelation isValue =>
        refine leaf_accepts_iff.mpr
          (Or.inr (Or.inl ⟨_, isRelation, relationShortcut_accepts_iff.mpr ?_⟩))
        exact ⟨_, rfl, isValue, rfl⟩
  · intro accepted
    cases tokens with
    | nil => exact absurd accepted not_leaf_nil_accepts
    | cons token tokens =>
        rcases leaf_accepts_iff.mp accepted with ⟨operator, hasOperator, accepted⟩ |
          ⟨which, isRelation, accepted⟩ | ⟨isName, accepted⟩
        · obtain ⟨name, _, rfl, isName, states, same⟩ := stateShortcut_accepts_iff.mp accepted
          obtain rfl := Option.some.inj same
          exact .state hasOperator isName states
        · obtain ⟨target, rfl, isValue, same⟩ := relationShortcut_accepts_iff.mp accepted
          obtain rfl := Option.some.inj same
          exact .relation isRelation isValue
        · rcases comparison_accepts_iff.mp accepted with
            ⟨word, target, operator, rfl, hasOperator, isValue, same⟩ |
            ⟨stops, isStatus, rfl, same⟩
          · obtain rfl := Option.some.inj same
            exact .comparison isName hasOperator isValue
          · obtain rfl := Option.some.inj same
            exact .statusWord isName isStatus stops

/-- Reading an operand that is neither negated nor in parentheses follows a walk. -/
theorem exists_walks_leaf (endPosition : Nat)
    (plain : ∀ token ∈ tokens.head?, token.kind ≠ .connective .not ∧ token.kind ≠ .leftParen) :
    ∃ walked, Walks vocabulary .operand tokens walked (leaf vocabulary endPosition tokens).rest ∧
      (leaf vocabulary endPosition tokens).value = walked.meaning := by
  rcases leaf_findsOrLeaves tokens with ⟨filter, accepted⟩ | ⟨missing, left⟩
  · exact ⟨.primary filter, .primary ((isPrimary_iff_leaf_accepts endPosition).mpr accepted),
      accepted.value_eq⟩
  · refine ⟨.malformed, .malformed plain (fun filter others isPrimary => ?_) left, missing⟩
    have accepted := (isPrimary_iff_leaf_accepts endPosition).mp isPrimary
    rw [accepted.value_eq] at missing
    cases missing

/-! ## Reading follows a walk -/

/-- Closing a parenthesis leaves what its walk leaves. -/
theorem Walks.parenthesis {opening : Token} (opens : opening.kind = .leftParen)
    {inside : Reading (Option Filter) tokens} {inner : Walked}
    (walks : Walks vocabulary .disjunction tokens inner inside.rest) :
    Walks vocabulary .operand (opening :: tokens) (.parenthesis inner)
      (closeParenthesis opening inside).rest := by
  obtain ⟨value, diagnostics, remaining, suffix⟩ := inside
  cases remaining with
  | nil =>
      rw [closeParenthesis]
      exact .unclosed opens (by simp) walks
  | cons closing remaining =>
      rw [closeParenthesis]
      split
      · exact .closed opens ‹_› walks
      · exact .unclosed opens (by simpa using ‹_›) walks

mutual

theorem exists_walks_disjunction (tokens : List Token) :
    ∃ walked,
      Walks vocabulary .disjunction tokens walked (disjunction vocabulary endPosition tokens).rest ∧
      (disjunction vocabulary endPosition tokens).value = walked.meaning := by
  have shorter := (conjunction vocabulary endPosition tokens).suffix.length_le
  obtain ⟨first, head, firstMeans⟩ := exists_walks_conjunction tokens
  obtain ⟨more, tail, moreMeans⟩ := exists_walks_disjunctionTail
    (conjunction vocabulary endPosition tokens).value
    (conjunction vocabulary endPosition tokens).rest
  rw [disjunction]
  refine ⟨.disjunction (first :: more), .disjunction head tail, ?_⟩
  rw [moreMeans, foldl_disjoin, firstMeans]
  rfl
termination_by 3 * tokens.length + 2

theorem exists_walks_disjunctionTail (left : Option Filter) (tokens : List Token) :
    ∃ more,
      Walks vocabulary .moreOr tokens more
        (disjunctionTail vocabulary endPosition left tokens).rest ∧
      (disjunctionTail vocabulary endPosition left tokens).value =
        (Walked.meanings more).foldl disjoin left := by
  match tokens with
  | [] =>
      rw [disjunctionTail]
      exact ⟨[], .endOr (by simp), rfl⟩
  | word :: after =>
      rw [disjunctionTail]
      split
      · rename_i isOr
        have shorter := (conjunction vocabulary endPosition after).suffix.length_le
        obtain ⟨next, head, nextMeans⟩ := exists_walks_conjunction after
        obtain ⟨more, tail, moreMeans⟩ := exists_walks_disjunctionTail
          (disjoin left (conjunction vocabulary endPosition after).value)
          (conjunction vocabulary endPosition after).rest
        refine ⟨next :: more, .or isOr head tail, ?_⟩
        rw [moreMeans, nextMeans]
        rfl
      · rename_i noOr
        exact ⟨[], .endOr (by simpa using noOr), rfl⟩
termination_by 3 * tokens.length + 1

theorem exists_walks_conjunction (tokens : List Token) :
    ∃ walked,
      Walks vocabulary .conjunction tokens walked (conjunction vocabulary endPosition tokens).rest ∧
      (conjunction vocabulary endPosition tokens).value = walked.meaning := by
  have shorter := (operand vocabulary endPosition tokens).suffix.length_le
  obtain ⟨first, head, firstMeans⟩ := exists_walks_operand tokens
  obtain ⟨more, tail, moreMeans⟩ := exists_walks_conjunctionTail
    (operand vocabulary endPosition tokens).value (operand vocabulary endPosition tokens).rest
  rw [conjunction]
  refine ⟨.conjunction (first :: more), .conjunction head tail, ?_⟩
  rw [moreMeans, foldl_conjoin, firstMeans]
  rfl
termination_by 3 * tokens.length + 1

theorem exists_walks_conjunctionTail (left : Option Filter) (tokens : List Token) :
    ∃ more,
      Walks vocabulary .moreAnd tokens more
        (conjunctionTail vocabulary endPosition left tokens).rest ∧
      (conjunctionTail vocabulary endPosition left tokens).value =
        (Walked.meanings more).foldl conjoin left := by
  match tokens with
  | [] =>
      rw [conjunctionTail]
      exact ⟨[], .endAnd (by simp), rfl⟩
  | word :: after =>
      rw [conjunctionTail]
      split
      · rename_i isAnd
        have shorter := (operand vocabulary endPosition after).suffix.length_le
        obtain ⟨next, head, nextMeans⟩ := exists_walks_operand after
        obtain ⟨more, tail, moreMeans⟩ := exists_walks_conjunctionTail
          (conjoin left (operand vocabulary endPosition after).value)
          (operand vocabulary endPosition after).rest
        refine ⟨next :: more, .and isAnd head tail, ?_⟩
        rw [moreMeans, nextMeans]
        rfl
      · rename_i noAnd
        exact ⟨[], .endAnd (by simpa using noAnd), rfl⟩
termination_by 3 * tokens.length

theorem exists_walks_operand (tokens : List Token) :
    ∃ walked, Walks vocabulary .operand tokens walked (operand vocabulary endPosition tokens).rest ∧
      (operand vocabulary endPosition tokens).value = walked.meaning := by
  match tokens with
  | [] =>
      rw [operand]
      exact exists_walks_leaf endPosition (by simp)
  | word :: after =>
      by_cases isNot : word.kind = .connective .not
      · obtain ⟨inner, inside, means⟩ := exists_walks_operand after
        rw [operand, if_pos isNot]
        exact ⟨.not inner, .not isNot inside, congrArg (Option.map Filter.not) means⟩
      · by_cases opens : word.kind = .leftParen
        · obtain ⟨inner, inside, means⟩ := exists_walks_disjunction after
          rw [operand, if_neg isNot, if_pos opens, Reading.after_value, closeParenthesis_value]
          exact ⟨.parenthesis inner, .parenthesis opens inside, means⟩
        · rw [operand, if_neg isNot, if_neg opens]
          exact exists_walks_leaf endPosition (by simpa using ⟨isNot, opens⟩)
termination_by 3 * tokens.length

end

/-! ## Queries -/

/-- The clauses have no say in the filter. -/
theorem clauses_filter (vocabulary : Vocabulary) (endPosition : Nat) (query : Query)
    (sortSeen : Bool) (tokens : List Token) :
    (clauses vocabulary endPosition query sortSeen tokens).query.filter = query.filter := by
  match tokens with
  | [] => rw [clauses]
  | token :: after =>
      have sortShorter := (sortClause vocabulary endPosition after).suffix.length_le
      have groupShorter := (groupClause vocabulary endPosition after).suffix.length_le
      rw [clauses]
      split
      · rfl
      split
      · split <;> exact clauses_filter vocabulary endPosition _ _ _
      split
      · split <;> exact clauses_filter vocabulary endPosition _ _ _
      · exact clauses_filter vocabulary endPosition _ _ _
termination_by tokens.length

theorem exists_walksQuery_readQuery (vocabulary : Vocabulary) (endPosition : Nat)
    (tokens : List Token) :
    ∃ walked, WalksQuery vocabulary tokens walked ∧
      (readQuery vocabulary endPosition tokens).query.filter = walked.bind Walked.meaning := by
  cases tokens with
  | nil => exact ⟨none, .empty, rfl⟩
  | cons token tokens =>
      rw [readQuery]
      split
      · rename_i ends
        exact ⟨none, .noExpression ends, clauses_filter vocabulary endPosition _ _ _⟩
      · rename_i goesOn
        obtain ⟨walked, walks, means⟩ := exists_walks_disjunction (token :: tokens)
        refine ⟨some walked, .expression (by simpa using goesOn) walks, ?_⟩
        exact (clauses_filter vocabulary endPosition _ _ _).trans means

theorem exists_walksQuery_parseTokens (vocabulary : Vocabulary) (tokens : List Token) :
    ∃ walked, WalksQuery vocabulary tokens walked ∧
      (Query.parseTokens vocabulary tokens).query.filter = walked.bind Walked.meaning := by
  obtain ⟨endPosition, front, reads, ends⟩ := Query.exists_parseTokens_eq vocabulary tokens
  obtain ⟨walked, walks, means⟩ := exists_walksQuery_readQuery vocabulary endPosition front
  rw [reads]
  rcases ends with rfl | ⟨marker, isEnd, rfl⟩
  · exact ⟨walked, walks, means⟩
  · exact ⟨walked, walks.append isEnd, means⟩

/-- Lenient reading has one compositional meaning. For every list of tokens there is one
expression that is walked over, if any, and the filter that is read is its meaning. Without
a filter every task is kept. -/
theorem parseTokens_filter_eq_meaning (vocabulary : Vocabulary) (tokens : List Token) :
    (∃ walked, (∀ other, WalksQuery vocabulary tokens other ↔ other = walked) ∧
      (Query.parseTokens vocabulary tokens).query.filter = walked.bind Walked.meaning) ∧
    ∀ (setting : Setting) (tasks : List Task), (Evaluator.of setting none).kept tasks = tasks := by
  refine ⟨?_, fun setting tasks => ?_⟩
  · obtain ⟨walked, walks, means⟩ := exists_walksQuery_parseTokens vocabulary tokens
    refine ⟨walked, fun other => ⟨fun alsoWalks => alsoWalks.unique walks, ?_⟩, means⟩
    rintro rfl
    exact walks
  · exact List.filter_eq_self.mpr fun task member => rfl

end Grammar

end TaskQuery

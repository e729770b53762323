/-
# Reading recognises expressions

Reading is lenient, so it answers on every list of tokens. This module says when the
rules of expressions had nothing to forgive: exactly on the lists that the grammar
derives, and then the filter is the one that the derivation stands for. A field name that
the vocabulary does not expect is no matter of grammar, so its report does not count.

A rule *accepts* when it reads a value, leaves certain tokens and reports nothing
that counts. For every rule there is one lemma that takes its acceptance apart. The
two directions use the same lemmas: that derivations are accepted is an induction on
derivations, and that what is accepted is derived follows the recursion of the
rules.
-/

import TaskQuery.Proofs.Grammar

namespace TaskQuery

/-- A report about a field name, which is no matter of grammar. -/
def Diagnostic.IsUnknownField : Diagnostic → Prop
  | .unknownField _ _ => True
  | _ => False

theorem isUnknownField_fieldDiagnostics (vocabulary : Vocabulary) (field : String) :
    ∀ diagnostic ∈ vocabulary.fieldDiagnostics field, diagnostic.IsUnknownField := by
  intro diagnostic reported
  rw [Vocabulary.fieldDiagnostics] at reported
  split at reported
  · cases reported
  · obtain rfl := List.mem_singleton.mp reported
    exact trivial

theorem not_isUnknownField_unexpected (token : Token) :
    ¬ (Diagnostic.unexpected token).IsUnknownField := by
  rw [Diagnostic.unexpected]
  split <;> exact id

theorem not_isUnknownField_unexpectedFront (endPosition : Nat) (tokens : List Token) :
    ¬ (Diagnostic.unexpectedFront endPosition tokens).IsUnknownField := by
  cases tokens with
  | nil => exact id
  | cons token tokens => exact not_isUnknownField_unexpected token

/-! ## Acceptance -/

namespace Reading

variable {α β : Type} {tokens rest : List Token}

/-- A rule reads a value from its tokens, leaves the tokens in `rest`, and reports no
more than unknown fields. -/
structure Accepts (reading : Reading α tokens) (value : α) (rest : List Token) : Prop where
  value_eq : reading.value = value
  rest_eq : reading.rest = rest
  clean : ∀ diagnostic ∈ reading.diagnostics, diagnostic.IsUnknownField

theorem Accepts.isSuffix {reading : Reading α tokens} {value : α}
    (accepted : reading.Accepts value rest) : rest <:+ tokens :=
  accepted.rest_eq ▸ reading.suffix

/-- A reading that reports nothing accepts what it says. -/
theorem accepts_silent_iff {found value : α} {left : List Token} {suffix} :
    (Reading.mk found [] left suffix : Reading α tokens).Accepts value rest ↔
      value = found ∧ rest = left := by
  constructor
  · intro accepted
    obtain ⟨value_eq, rest_eq, _⟩ := accepted
    exact ⟨value_eq.symm, rest_eq.symm⟩
  · intro accepted
    obtain ⟨value_eq, rest_eq⟩ := accepted
    exact ⟨value_eq.symm, rest_eq.symm, fun diagnostic reported => by cases reported⟩

/-- A reading with a report that counts accepts nothing. -/
theorem not_accepts_of_mem {reading : Reading α tokens} {value : α} {diagnostic : Diagnostic}
    (reported : diagnostic ∈ reading.diagnostics) (counts : ¬ diagnostic.IsUnknownField) :
    ¬ reading.Accepts value rest :=
  fun accepted => counts (accepted.clean diagnostic reported)

theorem not_accepts_cons {found value : α} {diagnostic : Diagnostic}
    {diagnostics : List Diagnostic} {left : List Token} {suffix}
    (counts : ¬ diagnostic.IsUnknownField) :
    ¬ (Reading.mk found (diagnostic :: diagnostics) left suffix : Reading α tokens).Accepts
      value rest :=
  not_accepts_of_mem List.mem_cons_self counts

/-- One reading behind another accepts if both do. -/
theorem accepts_append_iff {outer : List Token} {first : Reading α tokens}
    (second : (value : α) → (rest : List Token) → Reading β rest) {value : β} {suffix} :
    (Reading.mk (second first.value first.rest).value
        (first.diagnostics ++ (second first.value first.rest).diagnostics)
        (second first.value first.rest).rest suffix : Reading β outer).Accepts value rest ↔
      ∃ middle remaining, first.Accepts middle remaining ∧
        (second middle remaining).Accepts value rest := by
  constructor
  · intro accepted
    obtain ⟨value_eq, rest_eq, clean⟩ := accepted
    refine ⟨first.value, first.rest, ⟨rfl, rfl, fun diagnostic reported => ?_⟩,
      value_eq, rest_eq, fun diagnostic reported => ?_⟩
    · exact clean diagnostic (List.mem_append_left _ reported)
    · exact clean diagnostic (List.mem_append_right _ reported)
  · intro found
    obtain ⟨_, _, ⟨rfl, rfl, firstClean⟩, value_eq, rest_eq, secondClean⟩ := found
    exact ⟨value_eq, rest_eq, fun diagnostic reported =>
      (List.mem_append.mp reported).elim (firstClean diagnostic) (secondClean diagnostic)⟩

theorem accepts_after_iff {token : Token} {reading : Reading α tokens} {value : α} :
    (reading.after token).Accepts value rest ↔ reading.Accepts value rest :=
  ⟨fun ⟨value_eq, rest_eq, clean⟩ => ⟨value_eq, rest_eq, clean⟩,
    fun ⟨value_eq, rest_eq, clean⟩ => ⟨value_eq, rest_eq, clean⟩⟩

end Reading

namespace Grammar

open Reading

variable {vocabulary : Vocabulary} {endPosition : Nat} {tokens rest : List Token}
  {value left : Option Filter} {token : Token}

/-! ## Shortcuts, comparisons and status words -/

theorem isValue_iff (kind : TokenKind) : kind.isValue = true ↔ IsValue kind := by
  constructor
  · intro holds
    rw [TokenKind.isValue.eq_def] at holds
    split at holds <;> first | constructor | cases holds
  · intro holds
    cases holds <;> rfl

theorem stateFilter?_eq_some_iff (operator : Operator) (word : String) (filter : Filter) :
    stateFilter? operator word = some filter ↔
      StateWords operator (Text.lowercase word) filter := by
  unfold stateFilter? StateWords
  split <;> simp_all [@eq_comm Filter]

theorem stateShortcut_accepts_iff {operator : Operator} :
    (stateShortcut operator token tokens).Accepts value rest ↔
      ∃ name filter, tokens = name :: rest ∧ name.kind = .identifier ∧
        StateWords operator (Text.lowercase name.text) filter ∧ value = some filter := by
  cases tokens with
  | nil =>
      refine iff_of_false (not_accepts_cons id) ?_
      intro described
      obtain ⟨name, filter, spelled, _⟩ := described
      cases spelled
  | cons name tokens =>
      rw [stateShortcut]
      split
      · rename_i filter found
        rw [Option.ite_none_right_eq_some, stateFilter?_eq_some_iff] at found
        obtain ⟨isName, found⟩ := found
        rw [accepts_silent_iff]
        constructor
        · intro accepted
          obtain ⟨value_eq, rest_eq⟩ := accepted
          exact ⟨name, filter, by rw [rest_eq], isName, found, value_eq⟩
        · intro described
          obtain ⟨other, alsoFilter, spelled, _, alsoFound, value_eq⟩ := described
          cases spelled
          exact ⟨value_eq.trans (congrArg some (alsoFound.unique found)), rfl⟩
      · rename_i missing
        refine iff_of_false (not_accepts_cons id) ?_
        intro described
        obtain ⟨other, filter, spelled, isName, found, _⟩ := described
        cases spelled
        have stated := (stateFilter?_eq_some_iff operator name.text filter).mpr found
        rw [if_pos isName, stated] at missing
        cases missing

theorem relationShortcut_accepts_iff {relation : Relation} :
    (relationShortcut relation token tokens).Accepts value rest ↔
      ∃ target, tokens = target :: rest ∧ IsValue target.kind ∧
        value = some (.dependency (relation.check target.text)) := by
  cases tokens with
  | nil =>
      refine iff_of_false (not_accepts_cons id) ?_
      intro described
      obtain ⟨target, spelled, _⟩ := described
      cases spelled
  | cons target tokens =>
      rw [relationShortcut]
      split
      · rename_i isValue
        rw [accepts_silent_iff]
        constructor
        · intro accepted
          obtain ⟨value_eq, rest_eq⟩ := accepted
          exact ⟨target, by rw [rest_eq], (isValue_iff _).mp isValue, value_eq⟩
        · intro described
          obtain ⟨other, spelled, _, value_eq⟩ := described
          cases spelled
          exact ⟨value_eq, rfl⟩
      · rename_i isValue
        refine iff_of_false (not_accepts_cons id) ?_
        intro described
        obtain ⟨other, spelled, found, _⟩ := described
        cases spelled
        exact isValue ((isValue_iff _).mpr found)

theorem comparisonValue_accepts_iff {operator : Operator} {operatorText : String} :
    (comparisonValue vocabulary token operator operatorText tokens).Accepts value rest ↔
      ∃ target, tokens = target :: rest ∧ IsValue target.kind ∧
        value = some (.comparison token.text operator target.text) := by
  cases tokens with
  | nil =>
      refine iff_of_false (not_accepts_cons id) ?_
      intro described
      obtain ⟨target, spelled, _⟩ := described
      cases spelled
  | cons target tokens =>
      rw [comparisonValue]
      split
      · rename_i isValue
        constructor
        · intro accepted
          obtain ⟨value_eq, rest_eq, _⟩ := accepted
          simp only at value_eq rest_eq
          exact ⟨target, by rw [rest_eq], (isValue_iff _).mp isValue, value_eq.symm⟩
        · intro described
          obtain ⟨other, spelled, _, value_eq⟩ := described
          cases spelled
          exact ⟨value_eq.symm, rfl, isUnknownField_fieldDiagnostics vocabulary token.text⟩
      · rename_i isValue
        refine iff_of_false (not_accepts_cons id) ?_
        intro described
        obtain ⟨other, spelled, found, _⟩ := described
        cases spelled
        exact isValue ((isValue_iff _).mpr found)

theorem loneName_accepts_iff :
    (loneName vocabulary token tokens).Accepts value rest ↔
      vocabulary.isStatusWord token.text = true ∧ rest = tokens ∧
        value = some (.comparison statusField .is (Text.lowercase token.text)) := by
  rw [loneName]
  split
  · rename_i isStatus
    rw [accepts_silent_iff]
    simp [isStatus, and_comm]
  · rename_i isStatus
    exact iff_of_false (not_accepts_cons id) fun found => isStatus found.1

/-- Behind a name an operator asks for a value, and anything else for nothing. -/
theorem comparison_accepts_iff :
    (comparison vocabulary token tokens).Accepts value rest ↔
      (∃ word target operator, tokens = word :: target :: rest ∧ word.kind = .operator operator ∧
        IsValue target.kind ∧ value = some (.comparison token.text operator target.text)) ∨
      (Rule.operand.Stops tokens ∧ vocabulary.isStatusWord token.text = true ∧ rest = tokens ∧
        value = some (.comparison statusField .is (Text.lowercase token.text))) := by
  cases tokens with
  | nil =>
      rw [comparison, loneName_accepts_iff]
      simp [Rule.stops_nil]
  | cons word tokens =>
      rw [comparison]
      split
      · rename_i operator hasOperator
        rw [accepts_after_iff, comparisonValue_accepts_iff]
        simp [Rule.stops_cons_iff, Rule.continuedBy, isOperator, hasOperator, and_assoc]
      · rename_i other
        have stops : Rule.operand.Stops (word :: tokens) := by
          rw [Rule.stops_cons_iff, Rule.continuedBy, isOperator.eq_def]
          split
          · rename_i operator hasOperator
            exact absurd hasOperator (other operator)
          · rfl
        rw [loneName_accepts_iff]
        constructor
        · exact fun found => Or.inr ⟨stops, found⟩
        · intro found
          rcases found with ⟨_, _, operator, spelled, hasOperator, -⟩ | ⟨-, found⟩
          · cases spelled
            exact absurd hasOperator (other operator)
          · exact found

/-! ## Operands -/

theorem not_leaf_nil_accepts : ¬ (leaf vocabulary endPosition []).Accepts value rest := by
  rw [leaf]
  exact not_accepts_cons id

/-- An operand that is neither negated nor in parentheses starts with an operator, a
relation or a name. -/
theorem leaf_accepts_iff :
    (leaf vocabulary endPosition (token :: tokens)).Accepts value rest ↔
      (∃ operator, token.kind = .operator operator ∧
        (stateShortcut operator token tokens).Accepts value rest) ∨
      (∃ relation, token.kind = .relation relation ∧
        (relationShortcut relation token tokens).Accepts value rest) ∨
      (token.kind = .identifier ∧ (comparison vocabulary token tokens).Accepts value rest) := by
  rw [leaf]
  split
  · rename_i operator hasOperator
    rw [accepts_after_iff]
    simp [hasOperator]
  · rename_i relation isRelation
    rw [accepts_after_iff]
    simp [isRelation]
  · rename_i isName
    rw [accepts_after_iff]
    simp [isName]
  · rename_i noOperator noRelation noName
    refine iff_of_false ?_ ?_
    · split <;> exact not_accepts_cons (not_isUnknownField_unexpected token)
    · intro found
      rcases found with ⟨operator, hasOperator, -⟩ | ⟨relation, isRelation, -⟩ | ⟨isName, -⟩
      · exact noOperator operator hasOperator
      · exact noRelation relation isRelation
      · exact noName isName

theorem closeParenthesis_accepts_iff {inside : Reading (Option Filter) tokens} :
    (closeParenthesis token inside).Accepts value rest ↔
      ∃ closing, closing.kind = .rightParen ∧ inside.Accepts value (closing :: rest) := by
  have unclosed {read : Option Filter} {diagnostics : List Diagnostic} {left : List Token}
      {suffix} : ¬ (Reading.mk read (diagnostics ++ [.unclosedParenthesis token.position]) left
        suffix : Reading (Option Filter) tokens).Accepts value rest :=
    not_accepts_of_mem (List.mem_append_right _ List.mem_cons_self) id
  obtain ⟨found, diagnostics, remaining, suffix⟩ := inside
  cases remaining with
  | nil =>
      rw [closeParenthesis]
      refine iff_of_false unclosed ?_
      intro described
      obtain ⟨closing, _, accepted⟩ := described
      cases accepted.rest_eq
  | cons closing remaining =>
      rw [closeParenthesis]
      split
      · rename_i closes
        constructor
        · intro accepted
          obtain ⟨value_eq, rest_eq, clean⟩ := accepted
          exact ⟨closing, closes, value_eq, congrArg (closing :: ·) rest_eq, clean⟩
        · intro described
          obtain ⟨other, _, value_eq, rest_eq, clean⟩ := described
          exact ⟨value_eq, (List.cons.inj rest_eq).2, clean⟩
      · rename_i noClosing
        refine iff_of_false unclosed ?_
        intro described
        obtain ⟨other, closes, accepted⟩ := described
        rw [← (List.cons.inj accepted.rest_eq).1] at closes
        exact noClosing closes

theorem operand_not_accepts_iff (isNot : token.kind = .connective .not) :
    (operand vocabulary endPosition (token :: tokens)).Accepts value rest ↔
      ∃ inner, (operand vocabulary endPosition tokens).Accepts inner rest ∧
        value = inner.map Filter.not := by
  rw [operand, if_pos isNot]
  constructor
  · intro accepted
    obtain ⟨value_eq, rest_eq, clean⟩ := accepted
    exact ⟨_, ⟨rfl, rest_eq, clean⟩, value_eq.symm⟩
  · intro described
    obtain ⟨inner, ⟨inner_eq, rest_eq, clean⟩, value_eq⟩ := described
    exact ⟨by rw [value_eq, ← inner_eq], rest_eq, clean⟩

theorem operand_parenthesis_accepts_iff (opens : token.kind = .leftParen) :
    (operand vocabulary endPosition (token :: tokens)).Accepts value rest ↔
      ∃ closing, closing.kind = .rightParen ∧
        (disjunction vocabulary endPosition tokens).Accepts value (closing :: rest) := by
  rw [operand, if_neg (by simp [opens]), if_pos opens, accepts_after_iff,
    closeParenthesis_accepts_iff]

theorem operand_leaf_accepts_iff (notNot : token.kind ≠ .connective .not)
    (noOpening : token.kind ≠ .leftParen) :
    (operand vocabulary endPosition (token :: tokens)).Accepts value rest ↔
      (leaf vocabulary endPosition (token :: tokens)).Accepts value rest := by
  rw [operand, if_neg notNot, if_neg noOpening]

/-! ## Repetitions -/

theorem disjunction_accepts_iff :
    (disjunction vocabulary endPosition tokens).Accepts value rest ↔
      ∃ first remaining, (conjunction vocabulary endPosition tokens).Accepts first remaining ∧
        (disjunctionTail vocabulary endPosition first remaining).Accepts value rest := by
  rw [disjunction]
  exact accepts_append_iff (disjunctionTail vocabulary endPosition)

theorem conjunction_accepts_iff :
    (conjunction vocabulary endPosition tokens).Accepts value rest ↔
      ∃ first remaining, (operand vocabulary endPosition tokens).Accepts first remaining ∧
        (conjunctionTail vocabulary endPosition first remaining).Accepts value rest := by
  rw [conjunction]
  exact accepts_append_iff (conjunctionTail vocabulary endPosition)

theorem disjunctionTail_accepts_iff_of_end
    (ends : ∀ token ∈ tokens.head?, token.kind ≠ .connective .or) :
    (disjunctionTail vocabulary endPosition left tokens).Accepts value rest ↔
      value = left ∧ rest = tokens := by
  cases tokens with
  | nil => rw [disjunctionTail, accepts_silent_iff]
  | cons token tokens =>
      rw [disjunctionTail, if_neg (ends token rfl), accepts_silent_iff]

theorem disjunctionTail_or_accepts_iff (isOr : token.kind = .connective .or) :
    (disjunctionTail vocabulary endPosition left (token :: tokens)).Accepts value rest ↔
      ∃ right remaining, (conjunction vocabulary endPosition tokens).Accepts right remaining ∧
        (disjunctionTail vocabulary endPosition (disjoin left right) remaining).Accepts
          value rest := by
  rw [disjunctionTail, if_pos isOr]
  exact accepts_append_iff fun right =>
    disjunctionTail vocabulary endPosition (disjoin left right)

theorem conjunctionTail_accepts_iff_of_end
    (ends : ∀ token ∈ tokens.head?, token.kind ≠ .connective .and) :
    (conjunctionTail vocabulary endPosition left tokens).Accepts value rest ↔
      value = left ∧ rest = tokens := by
  cases tokens with
  | nil => rw [conjunctionTail, accepts_silent_iff]
  | cons token tokens =>
      rw [conjunctionTail, if_neg (ends token rfl), accepts_silent_iff]

theorem conjunctionTail_and_accepts_iff (isAnd : token.kind = .connective .and) :
    (conjunctionTail vocabulary endPosition left (token :: tokens)).Accepts value rest ↔
      ∃ right remaining, (operand vocabulary endPosition tokens).Accepts right remaining ∧
        (conjunctionTail vocabulary endPosition (conjoin left right) remaining).Accepts
          value rest := by
  rw [conjunctionTail, if_pos isAnd]
  exact accepts_append_iff fun right =>
    conjunctionTail vocabulary endPosition (conjoin left right)

/-! ## Derivations of expressions are accepted -/

namespace Derivation

/-- The rule of a derivation reads its meaning off its tokens and leaves what follows.
A repetition reads on from a filter on its left. -/
def IsRead (endPosition : Nat) (rest : List Token) :
    {rule : Rule} → Derivation vocabulary rule → Prop
  | .disjunction, derivation =>
      (TaskQuery.disjunction vocabulary endPosition (derivation.tokens ++ rest)).Accepts
        (some derivation.meaning) rest
  | .moreOr, derivation =>
      ∀ left, (disjunctionTail vocabulary endPosition (some left)
        (derivation.tokens ++ rest)).Accepts (some (derivation.meaning left)) rest
  | .conjunction, derivation =>
      (TaskQuery.conjunction vocabulary endPosition (derivation.tokens ++ rest)).Accepts
        (some derivation.meaning) rest
  | .moreAnd, derivation =>
      ∀ left, (conjunctionTail vocabulary endPosition (some left)
        (derivation.tokens ++ rest)).Accepts (some (derivation.meaning left)) rest
  | .operand, derivation =>
      (operand vocabulary endPosition (derivation.tokens ++ rest)).Accepts
        (some derivation.meaning) rest

/-- Every derivation is read back, by induction on it, as long as nothing that follows
could go on with it. -/
theorem isRead (endPosition : Nat) {rule : Rule} (derivation : Derivation vocabulary rule) :
    ∀ {rest : List Token}, rule.Stops rest → derivation.IsRead endPosition rest := by
  induction derivation with
  | disjunction first more ihFirst ihMore =>
      intro rest stops
      rw [IsRead, tokens, List.append_assoc]
      exact disjunction_accepts_iff.mpr
        ⟨_, _, ihFirst (stops_conjunction_append more stops), ihMore stops first.meaning⟩
  | endOr =>
      intro rest stops left
      refine (disjunctionTail_accepts_iff_of_end fun token isHead kind => ?_).mpr ⟨rfl, rfl⟩
      have noOr := stops token isHead
      simp [Rule.continuedBy, kind] at noOr
  | or word isOr next more ihNext ihMore =>
      intro rest stops left
      rw [tokens, List.cons_append, List.append_assoc, disjunctionTail_or_accepts_iff isOr]
      exact ⟨_, _, ihNext (stops_conjunction_append more stops), ihMore stops _⟩
  | conjunction first more ihFirst ihMore =>
      intro rest stops
      rw [IsRead, tokens, List.append_assoc]
      exact conjunction_accepts_iff.mpr
        ⟨_, _, ihFirst (stops_operand_append more stops), ihMore stops first.meaning⟩
  | endAnd =>
      intro rest stops left
      refine (conjunctionTail_accepts_iff_of_end fun token isHead kind => ?_).mpr ⟨rfl, rfl⟩
      have noAnd := stops token isHead
      simp [Rule.continuedBy, kind] at noAnd
  | and word isAnd next more ihNext ihMore =>
      intro rest stops left
      rw [tokens, List.cons_append, List.append_assoc, conjunctionTail_and_accepts_iff isAnd]
      exact ⟨_, _, ihNext (stops_operand_append more stops), ihMore stops _⟩
  | not word isNot inner ih =>
      intro rest stops
      rw [IsRead, tokens, List.cons_append, operand_not_accepts_iff isNot]
      exact ⟨_, ih stops, rfl⟩
  | parenthesis opening opens inside closing closes ih =>
      intro rest stops
      rw [IsRead, tokens, List.cons_append, List.append_assoc,
        operand_parenthesis_accepts_iff opens]
      exact ⟨closing, closes, ih (stops_disjunction_rightParen closes)⟩
  | comparison field word value operator isName hasOperator isValue =>
      intro rest stops
      rw [IsRead, tokens, List.cons_append,
        operand_leaf_accepts_iff (by simp [isName]) (by simp [isName]), leaf_accepts_iff]
      refine Or.inr (Or.inr ⟨isName, comparison_accepts_iff.mpr (Or.inl ?_)⟩)
      exact ⟨word, value, operator, rfl, hasOperator, isValue, rfl⟩
  | statusWord name isName isStatus =>
      intro rest stops
      rw [IsRead, tokens, List.cons_append,
        operand_leaf_accepts_iff (by simp [isName]) (by simp [isName]), leaf_accepts_iff]
      refine Or.inr (Or.inr ⟨isName, comparison_accepts_iff.mpr (Or.inr ?_)⟩)
      exact ⟨stops, isStatus, rfl, rfl⟩
  | state word name operator filter hasOperator isName states =>
      intro rest stops
      rw [IsRead, tokens, List.cons_append,
        operand_leaf_accepts_iff (by simp [hasOperator]) (by simp [hasOperator]),
        leaf_accepts_iff]
      refine Or.inl ⟨operator, hasOperator, stateShortcut_accepts_iff.mpr ?_⟩
      exact ⟨name, filter, rfl, isName, states, rfl⟩
  | relation word target which isRelation isValue =>
      intro rest stops
      rw [IsRead, tokens, List.cons_append,
        operand_leaf_accepts_iff (by simp [isRelation]) (by simp [isRelation]),
        leaf_accepts_iff]
      refine Or.inr (Or.inl ⟨which, isRelation, relationShortcut_accepts_iff.mpr ?_⟩)
      exact ⟨target, rfl, isValue, rfl⟩

end Derivation

/-! ## Accepted expressions are derived -/

theorem exists_derivation_of_leaf_accepts
    (accepted : (leaf vocabulary endPosition tokens).Accepts value rest) :
    ∃ derivation : Derivation vocabulary .operand,
      value = some derivation.meaning ∧ tokens = derivation.tokens ++ rest := by
  cases tokens with
  | nil => exact absurd accepted not_leaf_nil_accepts
  | cons token tokens =>
      rw [leaf_accepts_iff] at accepted
      rcases accepted with ⟨operator, hasOperator, accepted⟩ | ⟨which, isRelation, accepted⟩ |
        ⟨isName, accepted⟩
      · obtain ⟨name, filter, rfl, isName, states, rfl⟩ := stateShortcut_accepts_iff.mp accepted
        exact ⟨.state token name operator filter hasOperator isName states, rfl, rfl⟩
      · obtain ⟨target, rfl, isValue, rfl⟩ := relationShortcut_accepts_iff.mp accepted
        exact ⟨.relation token target which isRelation isValue, rfl, rfl⟩
      · rcases comparison_accepts_iff.mp accepted with
          ⟨word, target, operator, rfl, hasOperator, isValue, rfl⟩ | ⟨-, isStatus, rfl, rfl⟩
        · exact ⟨.comparison token word target operator isName hasOperator isValue, rfl, rfl⟩
        · exact ⟨.statusWord token isName isStatus, rfl, rfl⟩

mutual

theorem exists_derivation_of_disjunction_accepts {tokens rest : List Token}
    {value : Option Filter}
    (accepted : (disjunction vocabulary endPosition tokens).Accepts value rest) :
    ∃ derivation : Derivation vocabulary .disjunction,
      value = some derivation.meaning ∧ tokens = derivation.tokens ++ rest := by
  obtain ⟨_, remaining, head, tail⟩ := disjunction_accepts_iff.mp accepted
  have shorter := head.isSuffix.length_le
  obtain ⟨first, rfl, spelled⟩ := exists_derivation_of_conjunction_accepts head
  obtain ⟨more, rfl, rfl⟩ := exists_derivation_of_disjunctionTail_accepts tail
  exact ⟨.disjunction first more, rfl, by rw [spelled, Derivation.tokens, List.append_assoc]⟩
termination_by 3 * tokens.length + 2

theorem exists_derivation_of_disjunctionTail_accepts {tokens rest : List Token} {left : Filter}
    {value : Option Filter}
    (accepted : (disjunctionTail vocabulary endPosition (some left) tokens).Accepts value rest) :
    ∃ derivation : Derivation vocabulary .moreOr,
      value = some (derivation.meaning left) ∧ tokens = derivation.tokens ++ rest := by
  by_cases ends : ∀ token ∈ tokens.head?, token.kind ≠ .connective .or
  · obtain ⟨rfl, rfl⟩ := (disjunctionTail_accepts_iff_of_end ends).mp accepted
    exact ⟨.endOr, rfl, rfl⟩
  · match tokens with
    | [] => simp at ends
    | word :: after =>
        have isOr : word.kind = .connective .or := by simpa using ends
        obtain ⟨_, remaining, head, tail⟩ := (disjunctionTail_or_accepts_iff isOr).mp accepted
        have shorter := head.isSuffix.length_le
        obtain ⟨next, rfl, spelled⟩ := exists_derivation_of_conjunction_accepts head
        obtain ⟨more, rfl, rfl⟩ := exists_derivation_of_disjunctionTail_accepts tail
        refine ⟨.or word isOr next more, rfl, ?_⟩
        rw [spelled, Derivation.tokens, List.cons_append, List.append_assoc]
termination_by 3 * tokens.length + 1

theorem exists_derivation_of_conjunction_accepts {tokens rest : List Token}
    {value : Option Filter}
    (accepted : (conjunction vocabulary endPosition tokens).Accepts value rest) :
    ∃ derivation : Derivation vocabulary .conjunction,
      value = some derivation.meaning ∧ tokens = derivation.tokens ++ rest := by
  obtain ⟨_, remaining, head, tail⟩ := conjunction_accepts_iff.mp accepted
  have shorter := head.isSuffix.length_le
  obtain ⟨first, rfl, spelled⟩ := exists_derivation_of_operand_accepts head
  obtain ⟨more, rfl, rfl⟩ := exists_derivation_of_conjunctionTail_accepts tail
  exact ⟨.conjunction first more, rfl, by rw [spelled, Derivation.tokens, List.append_assoc]⟩
termination_by 3 * tokens.length + 1

theorem exists_derivation_of_conjunctionTail_accepts {tokens rest : List Token} {left : Filter}
    {value : Option Filter}
    (accepted : (conjunctionTail vocabulary endPosition (some left) tokens).Accepts value rest) :
    ∃ derivation : Derivation vocabulary .moreAnd,
      value = some (derivation.meaning left) ∧ tokens = derivation.tokens ++ rest := by
  by_cases ends : ∀ token ∈ tokens.head?, token.kind ≠ .connective .and
  · obtain ⟨rfl, rfl⟩ := (conjunctionTail_accepts_iff_of_end ends).mp accepted
    exact ⟨.endAnd, rfl, rfl⟩
  · match tokens with
    | [] => simp at ends
    | word :: after =>
        have isAnd : word.kind = .connective .and := by simpa using ends
        obtain ⟨_, remaining, head, tail⟩ := (conjunctionTail_and_accepts_iff isAnd).mp accepted
        have shorter := head.isSuffix.length_le
        obtain ⟨next, rfl, spelled⟩ := exists_derivation_of_operand_accepts head
        obtain ⟨more, rfl, rfl⟩ := exists_derivation_of_conjunctionTail_accepts tail
        refine ⟨.and word isAnd next more, rfl, ?_⟩
        rw [spelled, Derivation.tokens, List.cons_append, List.append_assoc]
termination_by 3 * tokens.length

theorem exists_derivation_of_operand_accepts {tokens rest : List Token} {value : Option Filter}
    (accepted : (operand vocabulary endPosition tokens).Accepts value rest) :
    ∃ derivation : Derivation vocabulary .operand,
      value = some derivation.meaning ∧ tokens = derivation.tokens ++ rest := by
  match tokens with
  | [] =>
      rw [operand] at accepted
      exact exists_derivation_of_leaf_accepts accepted
  | word :: after =>
      by_cases isNot : word.kind = .connective .not
      · obtain ⟨_, negated, rfl⟩ := (operand_not_accepts_iff isNot).mp accepted
        obtain ⟨inner, rfl, rfl⟩ := exists_derivation_of_operand_accepts negated
        exact ⟨.not word isNot inner, rfl, rfl⟩
      · by_cases opens : word.kind = .leftParen
        · obtain ⟨closing, closes, enclosed⟩ := (operand_parenthesis_accepts_iff opens).mp accepted
          obtain ⟨inside, rfl, rfl⟩ := exists_derivation_of_disjunction_accepts enclosed
          refine ⟨.parenthesis word opens inside closing closes, rfl, ?_⟩
          rw [Derivation.tokens, List.cons_append, List.append_assoc]
          rfl
        · exact exists_derivation_of_leaf_accepts
            ((operand_leaf_accepts_iff isNot opens).mp accepted)
termination_by 3 * tokens.length

end

end Grammar

end TaskQuery

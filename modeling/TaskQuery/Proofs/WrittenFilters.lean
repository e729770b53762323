/-
# Written filters are derived

The text of a filter is read as lexemes from which the grammar derives an operand, and
the operand means the filter. The statement is about the text in front of whatever *ends*
it, because a filter is written inside of others; it is proved by induction on the
filter.
-/

import TaskQuery.Proofs.FieldNames
import TaskQuery.Proofs.Grammar

namespace TaskQuery

open Text Grammar

/-! ## What may follow -/

/-- The words that end a pair. -/
def pairEnds : List String := ["not", "includes", "matches", "on"]

/-- A text that may follow any part: it goes on neither with a word nor with a tag, and
its first word ends no pair. -/
structure Ends (rest : List Char) : Prop where
  word : WordStops rest
  tag : ∀ c ∈ rest.head?, isTagChar c = false
  noPair : String.ofList ((nextWord rest).map Char.toLower) ∉ pairEnds

theorem Ends.alone {rest : List Char} (ends : Ends rest) (first : List Char) :
    TokenKind.ofPair? first (nextWord rest) = none :=
  ofPair?_eq_none_of_second ends.noPair first

theorem Ends.ne_on {rest : List Char} (ends : Ends rest) :
    String.ofList ((nextWord rest).map Char.toLower) ≠ "on" := by
  intro same
  apply ends.noPair
  rw [same]
  decide

theorem wordStops_cons {c : Char} (other : isWordChar c = false) (rest : List Char) :
    WordStops (c :: rest) := by
  intro d isHead
  obtain rfl := Option.some.inj isHead
  exact other

theorem wordStops_blank (rest : List Char) : WordStops (' ' :: rest) :=
  wordStops_cons (by decide) rest

theorem ends_nil : Ends [] where
  word := wordStops_nil
  tag c isHead := by cases isHead
  noPair := by decide

theorem ends_sign {c : Char} (noBlank : isBlank c = false) (noWord : isWordChar c = false)
    (noTag : isTagChar c = false) (rest : List Char) : Ends (c :: rest) where
  word := wordStops_cons noWord rest
  tag d isHead := by
    obtain rfl := Option.some.inj isHead
    exact noTag
  noPair := by
    rw [nextWord_sign noBlank noWord]
    decide

theorem ends_rightParen (rest : List Char) : Ends (')' :: rest) :=
  ends_sign (by decide) (by decide) (by decide) rest

theorem ends_comma (rest : List Char) : Ends (',' :: rest) :=
  ends_sign (by decide) (by decide) (by decide) rest

theorem ends_blank_append {word rest : List Char} (isWord : word.all isWordChar = true)
    (nonempty : word ≠ []) (stops : WordStops rest)
    (noPair : String.ofList (word.map Char.toLower) ∉ pairEnds) : Ends (' ' :: (word ++ rest)) where
  word := wordStops_blank _
  tag c isHead := by
    obtain rfl := Option.some.inj isHead
    decide
  noPair := by
    rwa [nextWord_blank_append isWord nonempty stops]

/-! ## Values -/

variable {rest : List Char}

/-- A bare value is a word that is not reserved, a number or a tag. -/
theorem exists_of_isBareValue {cs : List Char} (bare : isBareValue cs = true) :
    ∃ first more, cs = first :: more ∧
      (first.isAlpha = true ∧ more.all isWordChar = true ∧ isReserved cs = false ∨
        first.isDigit = true ∧ more.all isNumberChar = true ∨
        first = '#' ∧ more ≠ [] ∧ more.all isTagChar = true) := by
  cases cs with
  | nil => cases bare
  | cons first more =>
      refine ⟨first, more, rfl, ?_⟩
      rw [isBareValue] at bare
      split at bare
      · rename_i isAlpha
        rw [Bool.and_eq_true] at bare
        exact Or.inl ⟨isAlpha, bare.1, by simpa using bare.2⟩
      · split at bare
        · rename_i isDigit
          exact Or.inr (Or.inl ⟨isDigit, bare⟩)
        · split at bare
          · rename_i isHash
            rw [Bool.and_eq_true] at bare
            exact Or.inr (Or.inr ⟨isHash, by simpa using bare.1, bare.2⟩)
          · cases bare

/-- A written value is read as one token, which can be a value. -/
theorem exists_kind_spells_value (value : String) (ends : Ends rest) :
    ∃ kind, IsValue kind ∧ Spells (valueText value).toList [⟨kind, value⟩] rest := by
  rw [valueText]
  split
  · rename_i bare
    obtain ⟨first, more, spelled, shape⟩ := exists_of_isBareValue bare
    have text : value = String.ofList (first :: more) := by rw [← spelled, String.ofList_toList]
    rw [text, String.toList_ofList]
    rw [spelled] at shape
    rcases shape with ⟨isAlpha, isWord, plain⟩ | ⟨isDigit, isNumber⟩ | ⟨rfl, nonempty, isTag⟩
    · have read := spells_word isAlpha isWord ends.word (ends.alone _)
      rw [(ofWord_eq_identifier_iff _).mpr plain] at read
      exact ⟨_, .identifier, read⟩
    · refine ⟨_, ?_, spells_number isDigit isNumber ends.word⟩
      rw [numberKind]
      split
      · exact .dateLiteral
      · exact .identifier
    · exact ⟨_, .tagLiteral, spells_tag nonempty isTag ends.tag⟩
  · refine ⟨_, .stringLiteral, ?_⟩
    have read := spells_quoted value.toList rest
    rwa [String.ofList_toList, ← String.toList_ofList (l := quoteValue value.toList)] at read

/-- No reserved word comes where a value is written. -/
theorem isReserved_nextWord_value (value : String) (stops : WordStops rest) :
    isReserved (nextWord (' ' :: ((valueText value).toList ++ rest))) = false := by
  rw [valueText]
  split
  · rename_i bare
    obtain ⟨first, more, spelled, shape⟩ := exists_of_isBareValue bare
    rw [spelled] at shape ⊢
    rcases shape with ⟨isAlpha, isWord, plain⟩ | ⟨isDigit, isNumber⟩ | ⟨rfl, nonempty, isTag⟩
    · have isWord' : (first :: more).all isWordChar = true := by
        rw [List.all_cons, isWordChar_of_isAlpha isAlpha, isWord, Bool.and_self]
      rw [nextWord_blank_append isWord' (List.cons_ne_nil _ _) stops]
      exact plain
    · rw [nextWord_blank_append (all_isWordChar_of_number isDigit isNumber) (List.cons_ne_nil _ _)
        stops]
      exact isReserved_of_isDigit isDigit more
    · rw [nextWord_blank, List.cons_append, nextWord_sign (by decide) (by decide)]
      decide
  · rw [String.toList_ofList, quoteValue, nextWord_blank, List.cons_append, List.cons_append,
      nextWord_sign (by decide) (by decide)]
    decide

/-! ## Operators -/

/-- A comparison operator is read as itself, in front of a word that is not reserved. -/
theorem spells_operator (operator : Operator) (stops : WordStops rest)
    (plain : isReserved (nextWord rest) = false) :
    Spells operator.text.toList [⟨.operator operator, operator.text⟩] rest := by
  cases operator with
  | is =>
      have alone : TokenKind.ofPair? ['i', 's'] (nextWord rest) = none :=
        ofPair?_eq_none_of_not_reserved_second plain (by decide)
      exact spells_word rfl (by decide) stops alone
  | includes =>
      exact @spells_lone 'i' ['n', 'c', 'l', 'u', 'd', 'e', 's'] rest rfl (by decide) stops
        (by decide)
  | before =>
      exact @spells_lone 'b' ['e', 'f', 'o', 'r', 'e'] rest rfl (by decide) stops (by decide)
  | after => exact @spells_lone 'a' ['f', 't', 'e', 'r'] rest rfl (by decide) stops (by decide)
  | matchesPattern =>
      exact @spells_lone 'm' ['a', 't', 'c', 'h', 'e', 's'] rest rfl (by decide) stops (by decide)
  | isNot =>
      exact @spells_pair 'i' ['s'] ['n', 'o', 't'] rest _ rfl (by decide) (by decide) (by decide)
        stops rfl
  | notIncludes =>
      exact @spells_pair 'n' ['o', 't'] ['i', 'n', 'c', 'l', 'u', 'd', 'e', 's'] rest _ rfl
        (by decide) (by decide) (by decide) stops rfl
  | notMatchesPattern =>
      exact @spells_pair 'n' ['o', 't'] ['m', 'a', 't', 'c', 'h', 'e', 's'] rest _ rfl
        (by decide) (by decide) (by decide) stops rfl

/-- The first word of an operator does not make a pair with a name in front. -/
theorem nextWord_operator_ne_on (operator : Operator) (rest : List Char) :
    String.ofList ((nextWord (' ' :: (operator.text.toList ++ ' ' :: rest))).map Char.toLower) ≠
      "on" := by
  have start (c : Char) (behind : List Char) (isWord : isWordChar c = true)
      (other : c.toLower ≠ 'o') :
      String.ofList ((nextWord (' ' :: c :: behind)).map Char.toLower) ≠ "on" := by
    have noBlank : ¬ isBlank c = true := by simp [isBlank_eq_false_of_isWordChar isWord]
    rw [nextWord_blank, nextWord, List.dropWhile_cons_of_neg noBlank,
      List.takeWhile_cons_of_pos isWord]
    intro same
    have letters := congrArg String.toList same
    rw [String.toList_ofList] at letters
    exact other (List.cons.inj letters).1
  cases operator <;> exact start _ _ rfl (by decide)

/-! ## Filters -/

variable (vocabulary : Vocabulary)

/-- From tokens that show these lexemes an operand is derived that means the filter. -/
def Derives (lexemes : List Lexeme) (filter : Filter) : Prop :=
  ∀ tokens : List Token, tokens.map Token.lexeme = lexemes →
    ∃ derivation : Derivation vocabulary .operand,
      derivation.tokens = tokens ∧ derivation.meaning = filter

/-- A filter is written: whatever ends its text, the text is read as lexemes from which
the filter is derived. -/
def IsWritten (text : String) (filter : Filter) : Prop :=
  ∀ rest, Ends rest →
    ∃ lexemes, Spells text.toList lexemes rest ∧ Derives vocabulary lexemes filter

variable {vocabulary}

/-- The first lexeme belongs to the first token. -/
theorem exists_token_of_map_lexeme {tokens : List Token} {kind : TokenKind} {text : String}
    {lexemes : List Lexeme} (spelled : tokens.map Token.lexeme = ⟨kind, text⟩ :: lexemes) :
    ∃ token others, tokens = token :: others ∧ token.kind = kind ∧ token.text = text ∧
      others.map Token.lexeme = lexemes := by
  obtain ⟨token, others, rfl, shown, spelled⟩ := List.map_eq_cons_iff.mp spelled
  obtain ⟨isKind, isText⟩ := Lexeme.mk.inj shown
  exact ⟨token, others, rfl, isKind, isText, spelled⟩

theorem derives_comparison (field operatorText value : String) {operator : Operator}
    {kind : TokenKind} (isValue : IsValue kind) :
    Derives vocabulary
      [⟨.identifier, field⟩, ⟨.operator operator, operatorText⟩, ⟨kind, value⟩]
      (.comparison field operator value) := by
  intro tokens spelled
  obtain ⟨name, _, rfl, isName, rfl, behindName⟩ := exists_token_of_map_lexeme spelled
  obtain ⟨word, _, rfl, hasOperator, -, behindWord⟩ := exists_token_of_map_lexeme behindName
  obtain ⟨target, _, rfl, rfl, rfl, behind⟩ := exists_token_of_map_lexeme behindWord
  obtain rfl := List.map_eq_nil_iff.mp behind
  exact ⟨.comparison name word target operator isName hasOperator isValue, rfl, rfl⟩

/-- Two words ask about the state of a task. -/
theorem derives_state (operatorText : String) {word : String} {operator : Operator}
    {filter : Filter} (states : StateWords operator (Text.lowercase word) filter) :
    Derives vocabulary [⟨.operator operator, operatorText⟩, ⟨.identifier, word⟩] filter := by
  intro tokens spelled
  obtain ⟨first, _, rfl, hasOperator, -, behindFirst⟩ := exists_token_of_map_lexeme spelled
  obtain ⟨name, _, rfl, isName, rfl, behind⟩ := exists_token_of_map_lexeme behindFirst
  obtain rfl := List.map_eq_nil_iff.mp behind
  exact ⟨.state first name operator filter hasOperator isName states, rfl, rfl⟩

theorem derives_relation (relationText target : String) {which : Relation} {kind : TokenKind}
    (isValue : IsValue kind) :
    Derives vocabulary [⟨.relation which, relationText⟩, ⟨kind, target⟩]
      (.dependency (which.check target)) := by
  intro tokens spelled
  obtain ⟨first, _, rfl, isRelation, -, behindFirst⟩ := exists_token_of_map_lexeme spelled
  obtain ⟨value, _, rfl, rfl, rfl, behind⟩ := exists_token_of_map_lexeme behindFirst
  obtain rfl := List.map_eq_nil_iff.mp behind
  exact ⟨.relation first value which isRelation isValue, rfl, rfl⟩

theorem isWritten_comparison {field : String} (isName : IsFieldWord field.toList)
    (operator : Operator) (value : String) :
    IsWritten vocabulary (Filter.text (.comparison field operator value))
      (.comparison field operator value) := by
  intro rest ends
  obtain ⟨kind, isValue, valueRead⟩ := exists_kind_spells_value value ends
  have operatorRead : Spells operator.text.toList [⟨.operator operator, operator.text⟩]
      (' ' :: ((valueText value).toList ++ rest)) :=
    spells_operator operator (wordStops_blank _) (isReserved_nextWord_value value ends.word)
  have behindField := (spells_blank _).append (operatorRead.append
    ((spells_blank _).append valueRead))
  have noOn := nextWord_operator_ne_on operator ((valueText value).toList ++ rest)
  have fieldRead : Spells field.toList [⟨.identifier, field⟩]
      ([' '] ++ (operator.text.toList ++ ([' '] ++ (valueText value).toList)) ++ rest) := by
    have read := isName.spells (wordStops_blank _) noOn
    rw [String.ofList_toList] at read
    simpa using read
  have spelled : (Filter.comparison field operator value).text.toList =
      field.toList ++ ([' '] ++ (operator.text.toList ++ ([' '] ++ (valueText value).toList))) := by
    simp [Filter.text]
  refine ⟨_, ?_, derives_comparison field operator.text value isValue⟩
  rw [spelled]
  exact fieldRead.append behindField

/-- An operator and a word are written for a state. -/
theorem isWritten_state {text : String} {first : Char} {more : List Char} {operator : Operator}
    {filter : Filter} (spelled : text.toList = operator.text.toList ++ ([' '] ++ first :: more))
    (isAlpha : first.isAlpha = true) (isWord : (first :: more).all isWordChar = true)
    (plain : isReserved (first :: more) = false)
    (states : StateWords operator (Text.lowercase (String.ofList (first :: more))) filter) :
    IsWritten vocabulary text filter := by
  intro rest ends
  have moreIsWord := (Bool.and_eq_true_iff.mp isWord).2
  have wordRead := spells_word isAlpha moreIsWord ends.word (ends.alone _)
  rw [(ofWord_eq_identifier_iff _).mpr plain] at wordRead
  have operatorRead : Spells operator.text.toList [⟨.operator operator, operator.text⟩]
      (' ' :: (first :: more ++ rest)) := by
    apply spells_operator operator (wordStops_blank _)
    rwa [nextWord_blank_append isWord (List.cons_ne_nil _ _) ends.word]
  refine ⟨_, ?_, derives_state operator.text states⟩
  rw [spelled]
  exact operatorRead.append ((spells_blank _).append wordRead)

/-- A relation and a value are written for a question about another task. -/
theorem isWritten_relation {text relationText target : String} {which : Relation}
    (spelled : text.toList = relationText.toList ++ ([' '] ++ (valueText target).toList))
    (relationRead : ∀ rest, WordStops rest →
      Spells relationText.toList [⟨.relation which, relationText⟩] rest) :
    IsWritten vocabulary text (.dependency (which.check target)) := by
  intro rest ends
  obtain ⟨kind, isValue, valueRead⟩ := exists_kind_spells_value target ends
  refine ⟨_, ?_, derives_relation relationText target isValue⟩
  rw [spelled]
  exact (relationRead _ (wordStops_blank _)).append ((spells_blank _).append valueRead)

theorem isWritten_dependency (check : DependencyCheck) :
    IsWritten vocabulary (Filter.text (.dependency check)) (.dependency check) := by
  cases check with
  | blocked =>
      exact @isWritten_state vocabulary _ 'b' ['l', 'o', 'c', 'k', 'e', 'd'] .is _ rfl rfl
        (by decide) (by decide) (Or.inl ⟨rfl, rfl, rfl⟩)
  | notBlocked =>
      exact @isWritten_state vocabulary _ 'b' ['l', 'o', 'c', 'k', 'e', 'd'] .isNot _ rfl rfl
        (by decide) (by decide) (Or.inr (Or.inl ⟨rfl, rfl, rfl⟩))
  | blocking =>
      exact @isWritten_state vocabulary _ 'b' ['l', 'o', 'c', 'k', 'i', 'n', 'g'] .is _ rfl rfl
        (by decide) (by decide) (Or.inr (Or.inr (Or.inl ⟨rfl, rfl, rfl⟩)))
  | dependsOn target =>
      refine @isWritten_relation vocabulary _ "depends on" target .dependsOn ?_ fun rest stops => ?_
      · simp [Filter.text, DependencyCheck.text]
      · exact @spells_pair 'd' ['e', 'p', 'e', 'n', 'd', 's'] ['o', 'n'] rest _ rfl (by decide)
          (by decide) (by decide) stops rfl
  | blocks target =>
      refine @isWritten_relation vocabulary _ "blocks" target .blocks ?_ fun rest stops => ?_
      · simp [Filter.text, DependencyCheck.text]
      · exact @spells_lone 'b' ['l', 'o', 'c', 'k', 's'] rest rfl (by decide) stops (by decide)

/-! ## Negation -/

/-- The word NOT in front of a written filter stands alone. -/
theorem ofPair?_not_filter (filter : Filter) (named : filter.NamesFields) (rest : List Char) :
    TokenKind.ofPair? ['N', 'O', 'T'] (nextWord (' ' :: (filter.text.toList ++ rest))) = none := by
  have alone (word behind : List Char) (isWord : word.all isWordChar = true)
      (nonempty : word ≠ []) (noPair : TokenKind.ofPair? ['N', 'O', 'T'] word = none) :
      TokenKind.ofPair? ['N', 'O', 'T'] (nextWord (' ' :: (word ++ ' ' :: behind))) = none := by
    rwa [nextWord_blank_append isWord nonempty (wordStops_blank behind)]
  have parenthesis (behind : List Char) :
      TokenKind.ofPair? ['N', 'O', 'T'] (nextWord (' ' :: '(' :: behind)) = none := by
    rw [nextWord_blank, nextWord_sign (by decide) (by decide)]
    rfl
  cases filter with
  | comparison field operator value =>
      have isName := isFieldName_iff.mp (named _ List.mem_cons_self)
      simp only [Filter.text, String.toList_append, List.append_assoc]
      exact alone _ _ isName.all_isWordChar isName.ne_nil
        (ofPair?_eq_none_of_not_reserved_second isName.not_reserved (by decide))
  | and left right | or left right =>
      simp only [Filter.text, String.toList_append, List.append_assoc]
      exact parenthesis _
  | not operand =>
      simp only [Filter.text, String.toList_append, List.append_assoc]
      exact alone ['N', 'O', 'T'] _ (by decide) (by decide) rfl
  | dependency check =>
      cases check <;>
        simp only [Filter.text, DependencyCheck.text, String.toList_append, List.append_assoc]
      case blocked => exact alone ['i', 's'] _ (by decide) (by decide) rfl
      case notBlocked => exact alone ['i', 's'] _ (by decide) (by decide) rfl
      case blocking => exact alone ['i', 's'] _ (by decide) (by decide) rfl
      case dependsOn =>
        exact alone ['d', 'e', 'p', 'e', 'n', 'd', 's'] _ (by decide) (by decide) rfl
      case blocks => exact alone ['b', 'l', 'o', 'c', 'k', 's'] _ (by decide) (by decide) rfl

theorem derives_not (text : String) {lexemes : List Lexeme} {operand : Filter}
    (derives : Derives vocabulary lexemes operand) :
    Derives vocabulary (⟨.connective .not, text⟩ :: lexemes) (.not operand) := by
  intro tokens spelled
  obtain ⟨word, others, rfl, isNot, -, behind⟩ := exists_token_of_map_lexeme spelled
  obtain ⟨inner, rfl, rfl⟩ := derives others behind
  exact ⟨.not word isNot inner, rfl, rfl⟩

theorem isWritten_not {operand : Filter} (named : operand.NamesFields)
    (written : IsWritten vocabulary operand.text operand) :
    IsWritten vocabulary (Filter.text (.not operand)) (.not operand) := by
  intro rest ends
  obtain ⟨lexemes, operandRead, derives⟩ := written rest ends
  have notRead : Spells ['N', 'O', 'T'] [⟨.connective .not, "NOT"⟩]
      (' ' :: (operand.text.toList ++ rest)) :=
    spells_word rfl (by decide) (wordStops_blank _) (ofPair?_not_filter operand named rest)
  have spelled : (Filter.not operand).text.toList =
      ['N', 'O', 'T'] ++ ([' '] ++ operand.text.toList) := by
    simp [Filter.text]
  refine ⟨_, ?_, derives_not "NOT" derives⟩
  rw [spelled]
  exact notRead.append ((spells_blank _).append operandRead)

/-! ## Conjunction and disjunction -/

/-- The tokens of two operands that a word joins, in parentheses. -/
theorem exists_tokens_joined {tokens : List Token} {left right : Filter} {join : Connective}
    {leftLexemes rightLexemes : List Lexeme} {text : String}
    (leftDerives : Derives vocabulary leftLexemes left)
    (rightDerives : Derives vocabulary rightLexemes right)
    (spelled : tokens.map Token.lexeme = ⟨.leftParen, "("⟩ ::
      (leftLexemes ++ ⟨.connective join, text⟩ :: (rightLexemes ++ [⟨.rightParen, ")"⟩]))) :
    ∃ (opening word closing : Token) (first second : Derivation vocabulary .operand),
      opening.kind = .leftParen ∧ word.kind = .connective join ∧ closing.kind = .rightParen ∧
      first.meaning = left ∧ second.meaning = right ∧
      tokens = opening :: (first.tokens ++ word :: (second.tokens ++ [closing])) := by
  obtain ⟨opening, _, rfl, opens, -, inside⟩ := exists_token_of_map_lexeme spelled
  obtain ⟨leftTokens, _, rfl, leftShown, behindLeft⟩ := List.map_eq_append_iff.mp inside
  obtain ⟨word, _, rfl, isJoin, -, behindWord⟩ := exists_token_of_map_lexeme behindLeft
  obtain ⟨rightTokens, _, rfl, rightShown, behindRight⟩ := List.map_eq_append_iff.mp behindWord
  obtain ⟨closing, _, rfl, closes, -, behind⟩ := exists_token_of_map_lexeme behindRight
  obtain rfl := List.map_eq_nil_iff.mp behind
  obtain ⟨first, rfl, firstMeans⟩ := leftDerives leftTokens leftShown
  obtain ⟨second, rfl, secondMeans⟩ := rightDerives rightTokens rightShown
  exact ⟨opening, word, closing, first, second, opens, isJoin, closes, firstMeans, secondMeans, rfl⟩

/-- Two written filters, with a word between them and parentheses around, are read part
by part. The word must neither start nor end a pair. -/
theorem exists_spells_joined {left right : Filter} {first : Char} {more : List Char}
    (leftWritten : IsWritten vocabulary left.text left)
    (rightWritten : IsWritten vocabulary right.text right) (isAlpha : first.isAlpha = true)
    (isWord : (first :: more).all isWordChar = true)
    (noStart : String.ofList ((first :: more).map Char.toLower) ∉ ["is", "not", "depends"])
    (noPair : String.ofList ((first :: more).map Char.toLower) ∉ pairEnds) (rest : List Char) :
    ∃ leftLexemes rightLexemes,
      Spells (['('] ++ (left.text.toList ++ ([' '] ++ ((first :: more) ++ ([' '] ++
          (right.text.toList ++ [')']))))))
        (⟨.leftParen, "("⟩ :: (leftLexemes ++
          ⟨TokenKind.ofWord (first :: more), String.ofList (first :: more)⟩ ::
            (rightLexemes ++ [⟨.rightParen, ")"⟩]))) rest ∧
      Derives vocabulary leftLexemes left ∧ Derives vocabulary rightLexemes right := by
  obtain ⟨rightLexemes, rightRead, rightDerives⟩ := rightWritten _ (ends_rightParen rest)
  have behindWord := (spells_blank _).append (rightRead.append (spells_rightParen rest))
  have wordRead := spells_lone isAlpha (Bool.and_eq_true_iff.mp isWord).2
    (wordStops_blank (right.text.toList ++ [')'] ++ rest)) noStart
  have behindLeft := (spells_blank _).append (wordRead.append behindWord)
  have leftEnds : Ends ([' '] ++ ((first :: more) ++ ([' '] ++
      (right.text.toList ++ [')']))) ++ rest) := by
    have ends := ends_blank_append isWord (List.cons_ne_nil _ _)
      (wordStops_blank (right.text.toList ++ [')'] ++ rest)) noPair
    simpa using ends
  obtain ⟨leftLexemes, leftRead, leftDerives⟩ := leftWritten _ leftEnds
  exact ⟨leftLexemes, rightLexemes, (spells_leftParen _).append (leftRead.append behindLeft),
    leftDerives, rightDerives⟩

theorem isWritten_and {left right : Filter} (leftWritten : IsWritten vocabulary left.text left)
    (rightWritten : IsWritten vocabulary right.text right) :
    IsWritten vocabulary (Filter.text (.and left right)) (.and left right) := by
  intro rest ends
  obtain ⟨leftLexemes, rightLexemes, read, leftDerives, rightDerives⟩ :=
    @exists_spells_joined _ _ _ 'A' ['N', 'D'] leftWritten rightWritten rfl (by decide) (by decide)
      (by decide) rest
  have spelled : (Filter.and left right).text.toList = ['('] ++ (left.text.toList ++ ([' '] ++
      (['A', 'N', 'D'] ++ ([' '] ++ (right.text.toList ++ [')']))))) := by
    simp [Filter.text]
  rw [spelled]
  refine ⟨_, read, fun tokens shown => ?_⟩
  obtain ⟨opening, word, closing, first, second, opens, isAnd, closes, rfl, rfl, rfl⟩ :=
    exists_tokens_joined leftDerives rightDerives shown
  refine ⟨.parenthesis opening opens
    (.disjunction (.conjunction first (.and word isAnd second .endAnd)) .endOr) closing closes, ?_,
    rfl⟩
  simp [Derivation.tokens]

theorem isWritten_or {left right : Filter} (leftWritten : IsWritten vocabulary left.text left)
    (rightWritten : IsWritten vocabulary right.text right) :
    IsWritten vocabulary (Filter.text (.or left right)) (.or left right) := by
  intro rest ends
  obtain ⟨leftLexemes, rightLexemes, read, leftDerives, rightDerives⟩ :=
    @exists_spells_joined _ _ _ 'O' ['R'] leftWritten rightWritten rfl (by decide) (by decide)
      (by decide) rest
  have spelled : (Filter.or left right).text.toList = ['('] ++ (left.text.toList ++ ([' '] ++
      (['O', 'R'] ++ ([' '] ++ (right.text.toList ++ [')']))))) := by
    simp [Filter.text]
  rw [spelled]
  refine ⟨_, read, fun tokens shown => ?_⟩
  obtain ⟨opening, word, closing, first, second, opens, isOr, closes, rfl, rfl, rfl⟩ :=
    exists_tokens_joined leftDerives rightDerives shown
  refine ⟨.parenthesis opening opens (.disjunction (.conjunction first .endAnd)
    (.or word isOr (.conjunction second .endAnd) .endOr)) closing closes, ?_, rfl⟩
  simp [Derivation.tokens]

/-- Every filter whose fields have names is written. -/
theorem Filter.isWritten (filter : Filter) (named : filter.NamesFields) :
    IsWritten vocabulary filter.text filter := by
  induction filter with
  | comparison field operator value =>
      exact isWritten_comparison (isFieldName_iff.mp (named _ List.mem_cons_self)) operator value
  | and left right ihLeft ihRight =>
      obtain ⟨leftNamed, rightNamed⟩ := named.operands rfl
      exact isWritten_and (ihLeft leftNamed) (ihRight rightNamed)
  | or left right ihLeft ihRight =>
      obtain ⟨leftNamed, rightNamed⟩ := named.operands rfl
      exact isWritten_or (ihLeft leftNamed) (ihRight rightNamed)
  | not operand ih =>
      have namedInside : operand.NamesFields := named
      exact isWritten_not namedInside (ih namedInside)
  | dependency check => exact isWritten_dependency check

end TaskQuery

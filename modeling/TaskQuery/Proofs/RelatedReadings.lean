/-
# Readings that are related

Of the tokens that it is given, a rule looks at the kinds, and at the texts where it asks for
a state or a status. Everything else about them it only hands on, into a filter, a sort key,
a group field or a report. So two readings take the same way as long as their tokens agree in
what the rules look at, and whatever relation the single steps of the rules keep between the
filters, names and reports of the two, reading a whole query keeps it as well.

The steps are listed apart for each kind of part: `TokenRelation` says which tokens stand for
each other, `ValueRelation` which filters and names do, and `ReportRelation` which reports do.
So a statement about queries alone leaves the reports out, and one about reports the queries.
A property of a single reading is a relation of this reading with itself, by tokens that stand
for themselves.
-/

import Mathlib.Data.List.Forall2
import TaskQuery.Query.Parser

namespace TaskQuery

/-! ## Steps -/

/-- Tokens of two readings that stand for each other. Where the first reading has no token
left, the second one may have none either, or stand in front of an end marker. -/
structure TokenRelation (first second : Vocabulary) where
  token : Token → Token → Prop
  ended : List Token → Prop
  kinds : ∀ {word other}, token word other → word.kind = other.kind
  kind_of_ended : ∀ {marker behind}, ended (marker :: behind) → marker.kind = .endOfInput
  isStatusWord_eq : ∀ {field other}, token field other → field.kind = .identifier →
    first.isStatusWord field.text = second.isStatusWord other.text

variable {first second : Vocabulary}

/-- A relation between the filters, and between the field names, of two readings that the
rules keep. -/
structure ValueRelation (T : TokenRelation first second) where
  filter : Filter → Filter → Prop
  name : String → String → Prop
  state : ∀ {word other}, T.token word other → word.kind = .identifier → ∀ operator,
    Option.Rel filter (stateFilter? operator word.text) (stateFilter? operator other.text)
  check : ∀ {target other}, T.token target other → target.kind.isValue = true →
    ∀ relation : Relation, filter (.dependency (relation.check target.text))
      (.dependency (relation.check other.text))
  comparison : ∀ {field otherField value otherValue}, T.token field otherField →
    field.kind = .identifier → T.token value otherValue → value.kind.isValue = true →
    ∀ operator, filter (.comparison field.text operator value.text)
      (.comparison otherField.text operator otherValue.text)
  statusWord : ∀ {field other}, T.token field other → field.kind = .identifier →
    filter (.comparison statusField .is (Text.lowercase field.text))
      (.comparison statusField .is (Text.lowercase other.text))
  not : ∀ {operand other}, filter operand other → filter (.not operand) (.not other)
  and : ∀ {left otherLeft right otherRight}, filter left otherLeft → filter right otherRight →
    filter (.and left right) (.and otherLeft otherRight)
  or : ∀ {left otherLeft right otherRight}, filter left otherLeft → filter right otherRight →
    filter (.or left right) (.or otherLeft otherRight)
  field : ∀ {field other}, T.token field other → field.kind = .identifier →
    name field.text other.text

/-- A relation between the reports of two readings, which end at places of their own, that
the rules keep. -/
structure ReportRelation (T : TokenRelation first second) (firstEnd secondEnd : Nat) where
  tells : List Diagnostic → List Diagnostic → Prop
  silence : tells [] []
  append : ∀ {front otherFront back otherBack}, tells front otherFront → tells back otherBack →
    tells (front ++ back) (otherFront ++ otherBack)
  textEnd : ∀ {others}, T.ended others →
    tells [.unexpectedEndOfInput firstEnd] [.unexpectedFront secondEnd others]
  unexpected : ∀ {word other}, T.token word other →
    tells [.unexpected word] [.unexpected other]
  missingTarget : ∀ {word other relation}, T.token word other → word.kind = .relation relation →
    tells [.missingValue "" word.text] [.missingValue "" other.text]
  missingValue : ∀ {field otherField sign otherSign operator}, T.token field otherField →
    field.kind = .identifier → T.token sign otherSign → sign.kind = .operator operator →
    tells [.missingValue field.text sign.text] [.missingValue otherField.text otherSign.text]
  missingOperator : ∀ {field other}, T.token field other → field.kind = .identifier →
    tells [.missingOperator field.text] [.missingOperator other.text]
  unclosedParenthesis : ∀ {opening other}, T.token opening other → opening.kind = .leftParen →
    tells [.unclosedParenthesis opening.position] [.unclosedParenthesis other.position]
  duplicateClause : ∀ clause, tells [.duplicateClause clause] [.duplicateClause clause]
  field : ∀ {field other}, T.token field other → field.kind = .identifier →
    tells (first.fieldDiagnostics field.text) (second.fieldDiagnostics other.text)

/-- What two readings have left: tokens that stand for each other up to the end of the
first. -/
inductive TokenRelation.Tokens (T : TokenRelation first second) : List Token → List Token → Prop
  | textEnd (isEnd : T.ended []) : T.Tokens [] []
  | marker {marker : Token} {behind : List Token} (isEnd : T.ended (marker :: behind)) :
      T.Tokens [] (marker :: behind)
  | cons {word other : Token} {tokens others : List Token} (words : T.token word other)
      (rests : T.Tokens tokens others) : T.Tokens (word :: tokens) (other :: others)

variable {T : TokenRelation first second} {firstEnd secondEnd : Nat} {tokens others : List Token}

/-- Two readings found values in a relation, reported in one, and left tokens that stand for
each other. -/
structure Reading.Related (P : ReportRelation T firstEnd secondEnd) {α β : Type}
    (related : α → β → Prop) (reading : Reading α tokens) (other : Reading β others) : Prop where
  values : related reading.value other.value
  tells : P.tells reading.diagnostics other.diagnostics
  rests : T.Tokens reading.rest other.rest

/-- Two sort keys have names in a relation and the same direction. -/
structure ValueRelation.Keys (V : ValueRelation T) (key other : SortKey) : Prop where
  fields : V.name key.field other.field
  directions : key.direction = other.direction

/-- Two queries are related part by part. -/
structure ValueRelation.Queries (V : ValueRelation T) (query other : Query) : Prop where
  filters : Option.Rel V.filter query.filter other.filter
  sorts : List.Forall₂ V.Keys query.sort other.sort
  groups : Option.Rel V.name query.group other.group

/-- Two outcomes have queries in one relation and reports in another. -/
structure Outcome.Related (V : ValueRelation T) (P : ReportRelation T firstEnd secondEnd)
    (outcome other : Outcome) : Prop where
  queries : V.Queries outcome.query other.query
  tells : P.tells outcome.diagnostics other.diagnostics

variable (V : ValueRelation T) (P : ReportRelation T firstEnd secondEnd)

theorem Reading.Related.after {P : ReportRelation T firstEnd secondEnd} {α β : Type}
    {related : α → β → Prop} {reading : Reading α tokens} {other : Reading β others}
    (readings : reading.Related P related other) (word otherWord : Token) :
    (reading.after word).Related P related (other.after otherWord) :=
  ⟨readings.values, readings.tells, readings.rests⟩

theorem ReportRelation.unexpectedFront (ahead : T.Tokens tokens others) :
    P.tells [.unexpectedFront firstEnd tokens] [.unexpectedFront secondEnd others] := by
  cases ahead with
  | textEnd isEnd | marker isEnd => exact P.textEnd isEnd
  | cons words rests => exact P.unexpected words

/-! ## Operands -/

theorem stateShortcut_related {token other : Token} {operator : Operator}
    (signs : T.token token other) (isOperator : token.kind = .operator operator)
    (ahead : T.Tokens tokens others) :
    (stateShortcut operator token tokens).Related P (Option.Rel V.filter)
      (stateShortcut operator other others) := by
  have misplaced : P.tells [.unexpectedToken token.text token.position]
      [.unexpectedToken other.text other.position] := by
    have unexpected := P.unexpected signs
    have isOther := T.kinds signs ▸ isOperator
    rwa [Diagnostic.unexpected, Diagnostic.unexpected, if_neg (by simp [isOperator]),
      if_neg (by simp [isOther])] at unexpected
  cases ahead with
  | textEnd isEnd => exact ⟨.none, misplaced, .textEnd isEnd⟩
  | marker isEnd =>
      rw [stateShortcut, stateShortcut, if_neg (by simp [T.kind_of_ended isEnd])]
      exact ⟨.none, misplaced, .marker isEnd⟩
  | @cons word otherWord _ _ words rests =>
      -- a state is found in both readings or in neither, so both go the same way
      have states : Option.Rel V.filter
          (if word.kind = .identifier then stateFilter? operator word.text else none)
          (if otherWord.kind = .identifier then stateFilter? operator otherWord.text
            else none) := by
        rw [← T.kinds words]
        split
        · exact V.state words ‹_› operator
        · exact .none
      rw [stateShortcut, stateShortcut]
      generalize (if word.kind = .identifier then stateFilter? operator word.text else none) =
        state at states ⊢
      generalize (if otherWord.kind = .identifier then stateFilter? operator otherWord.text
        else none) = otherState at states ⊢
      cases states with
      | none => exact ⟨.none, misplaced, .cons words rests⟩
      | some filters => exact ⟨.some filters, P.silence, rests⟩

theorem relationShortcut_related {token other : Token} {relation : Relation}
    (signs : T.token token other) (isRelation : token.kind = .relation relation)
    (ahead : T.Tokens tokens others) :
    (relationShortcut relation token tokens).Related P (Option.Rel V.filter)
      (relationShortcut relation other others) := by
  have missing := P.missingTarget signs isRelation
  cases ahead with
  | textEnd isEnd => exact ⟨.none, missing, .textEnd isEnd⟩
  | marker isEnd =>
      rw [relationShortcut, relationShortcut,
        if_neg (by simp [T.kind_of_ended isEnd, TokenKind.isValue])]
      exact ⟨.none, missing, .marker isEnd⟩
  | cons targets rests =>
      rw [relationShortcut, relationShortcut, ← T.kinds targets]
      split
      · exact ⟨.some (V.check targets ‹_› relation), P.silence, rests⟩
      · exact ⟨.none, missing, .cons targets rests⟩

theorem comparisonValue_related {field otherField sign otherSign : Token} {operator : Operator}
    (fields : T.token field otherField) (isName : field.kind = .identifier)
    (signs : T.token sign otherSign) (isOperator : sign.kind = .operator operator)
    (ahead : T.Tokens tokens others) :
    (comparisonValue first field operator sign.text tokens).Related P (Option.Rel V.filter)
      (comparisonValue second otherField operator otherSign.text others) := by
  have missing := P.missingValue fields isName signs isOperator
  cases ahead with
  | textEnd isEnd => exact ⟨.none, missing, .textEnd isEnd⟩
  | marker isEnd =>
      rw [comparisonValue, comparisonValue,
        if_neg (by simp [T.kind_of_ended isEnd, TokenKind.isValue])]
      exact ⟨.none, missing, .marker isEnd⟩
  | cons values rests =>
      rw [comparisonValue, comparisonValue, ← T.kinds values]
      split
      · exact ⟨.some (V.comparison fields isName values ‹_› operator), P.field fields isName,
          rests⟩
      · exact ⟨.none, missing, .cons values rests⟩

theorem loneName_related {field otherField : Token} (fields : T.token field otherField)
    (isName : field.kind = .identifier) (ahead : T.Tokens tokens others) :
    (loneName first field tokens).Related P (Option.Rel V.filter)
      (loneName second otherField others) := by
  rw [loneName, loneName, ← T.isStatusWord_eq fields isName]
  split
  · exact ⟨.some (V.statusWord fields isName), P.silence, ahead⟩
  · exact ⟨.none, P.missingOperator fields isName, ahead⟩

theorem comparison_related {field otherField : Token} (fields : T.token field otherField)
    (isName : field.kind = .identifier) (ahead : T.Tokens tokens others) :
    (comparison first field tokens).Related P (Option.Rel V.filter)
      (comparison second otherField others) := by
  cases ahead with
  | textEnd isEnd => exact loneName_related V P fields isName (.textEnd isEnd)
  | marker isEnd =>
      rw [comparison, comparison, T.kind_of_ended isEnd]
      exact loneName_related V P fields isName (.marker isEnd)
  | cons words rests =>
      rw [comparison, comparison, ← T.kinds words]
      split
      · exact (comparisonValue_related V P fields isName words ‹_› rests).after _ _
      · exact loneName_related V P fields isName (.cons words rests)

theorem leaf_related (ahead : T.Tokens tokens others) :
    (leaf first firstEnd tokens).Related P (Option.Rel V.filter)
      (leaf second secondEnd others) := by
  have misplaced := P.unexpectedFront ahead
  cases ahead with
  | textEnd isEnd => exact ⟨.none, misplaced, .textEnd isEnd⟩
  | marker isEnd =>
      rw [leaf, leaf, T.kind_of_ended isEnd]
      exact ⟨.none, misplaced, .marker isEnd⟩
  | cons words rests =>
      rw [leaf, leaf, ← T.kinds words]
      split
      · exact (stateShortcut_related V P words ‹_› rests).after _ _
      · exact (relationShortcut_related V P words ‹_› rests).after _ _
      · exact (comparison_related V P words ‹_› rests).after _ _
      · split
        · exact ⟨.none, misplaced, .cons words rests⟩
        · exact ⟨.none, misplaced, rests⟩

/-! ## Joined operands -/

variable {V P} in
theorem closeParenthesis_related {opening otherOpening : Token}
    (openings : T.token opening otherOpening) (isOpening : opening.kind = .leftParen)
    {inside : Reading (Option Filter) tokens} {other : Reading (Option Filter) others}
    (insides : inside.Related P (Option.Rel V.filter) other) :
    (closeParenthesis opening inside).Related P (Option.Rel V.filter)
      (closeParenthesis otherOpening other) := by
  have unclosed := P.append insides.tells (P.unclosedParenthesis openings isOpening)
  obtain ⟨value, diagnostics, rest, suffix⟩ := inside
  obtain ⟨otherValue, otherDiagnostics, otherRest, otherSuffix⟩ := other
  obtain ⟨values, tells, rests⟩ := insides
  dsimp only at values tells rests unclosed
  cases rests with
  | textEnd isEnd => exact ⟨values, unclosed, .textEnd isEnd⟩
  | marker isEnd =>
      simp only [closeParenthesis, T.kind_of_ended isEnd, reduceCtorEq, if_false]
      exact ⟨values, unclosed, .marker isEnd⟩
  | cons closings rests =>
      rw [closeParenthesis, closeParenthesis]
      simp only [← T.kinds closings]
      split
      · exact ⟨values, tells, rests⟩
      · exact ⟨values, unclosed, .cons closings rests⟩

namespace ValueRelation

variable {V} {left otherLeft right otherRight : Option Filter}

theorem conjoin (lefts : Option.Rel V.filter left otherLeft)
    (rights : Option.Rel V.filter right otherRight) :
    Option.Rel V.filter (conjoin left right) (conjoin otherLeft otherRight) := by
  cases lefts with
  | none =>
      cases rights with
      | none => exact .none
      | some rights => exact .some rights
  | some lefts =>
      cases rights with
      | none => exact .some lefts
      | some rights => exact .some (V.and lefts rights)

theorem disjoin (lefts : Option.Rel V.filter left otherLeft)
    (rights : Option.Rel V.filter right otherRight) :
    Option.Rel V.filter (disjoin left right) (disjoin otherLeft otherRight) := by
  cases lefts with
  | none => exact .none
  | some lefts =>
      cases rights with
      | none => exact .none
      | some rights => exact .some (V.or lefts rights)

theorem map_not (operands : Option.Rel V.filter left otherLeft) :
    Option.Rel V.filter (left.map .not) (otherLeft.map .not) := by
  cases operands with
  | none => exact .none
  | some operands => exact .some (V.not operands)

end ValueRelation

/-! ## Expressions

The induction is on the recursion of the rules, with their measure: the tokens that a rule
left are no more than those it was given. -/

mutual

theorem disjunction_related {tokens others : List Token} (ahead : T.Tokens tokens others) :
    (disjunction first firstEnd tokens).Related P (Option.Rel V.filter)
      (disjunction second secondEnd others) := by
  have shorter := (conjunction first firstEnd tokens).suffix.length_le
  rw [disjunction, disjunction]
  have heads := conjunction_related ahead
  have wholes := disjunctionTail_related heads.values heads.rests
  exact ⟨wholes.values, P.append heads.tells wholes.tells, wholes.rests⟩
termination_by 3 * tokens.length + 2

theorem disjunctionTail_related {left otherLeft : Option Filter} {tokens others : List Token}
    (joined : Option.Rel V.filter left otherLeft) (ahead : T.Tokens tokens others) :
    (disjunctionTail first firstEnd left tokens).Related P (Option.Rel V.filter)
      (disjunctionTail second secondEnd otherLeft others) := by
  match tokens, others, ahead with
  | [], [], .textEnd isEnd =>
      rw [disjunctionTail, disjunctionTail]
      exact ⟨joined, P.silence, .textEnd isEnd⟩
  | [], marker :: behind, .marker isEnd =>
      rw [disjunctionTail, disjunctionTail, if_neg (by simp [T.kind_of_ended isEnd])]
      exact ⟨joined, P.silence, .marker isEnd⟩
  | token :: after, other :: otherAfter, .cons words rests =>
      have shorter := (conjunction first firstEnd after).suffix.length_le
      rw [disjunctionTail, disjunctionTail, ← T.kinds words]
      split
      · have rights := conjunction_related rests
        have wholes := disjunctionTail_related (V.disjoin joined rights.values) rights.rests
        exact ⟨wholes.values, P.append rights.tells wholes.tells, wholes.rests⟩
      · exact ⟨joined, P.silence, .cons words rests⟩
termination_by 3 * tokens.length + 1

theorem conjunction_related {tokens others : List Token} (ahead : T.Tokens tokens others) :
    (conjunction first firstEnd tokens).Related P (Option.Rel V.filter)
      (conjunction second secondEnd others) := by
  have shorter := (operand first firstEnd tokens).suffix.length_le
  rw [conjunction, conjunction]
  have heads := operand_related ahead
  have wholes := conjunctionTail_related heads.values heads.rests
  exact ⟨wholes.values, P.append heads.tells wholes.tells, wholes.rests⟩
termination_by 3 * tokens.length + 1

theorem conjunctionTail_related {left otherLeft : Option Filter} {tokens others : List Token}
    (joined : Option.Rel V.filter left otherLeft) (ahead : T.Tokens tokens others) :
    (conjunctionTail first firstEnd left tokens).Related P (Option.Rel V.filter)
      (conjunctionTail second secondEnd otherLeft others) := by
  match tokens, others, ahead with
  | [], [], .textEnd isEnd =>
      rw [conjunctionTail, conjunctionTail]
      exact ⟨joined, P.silence, .textEnd isEnd⟩
  | [], marker :: behind, .marker isEnd =>
      rw [conjunctionTail, conjunctionTail, if_neg (by simp [T.kind_of_ended isEnd])]
      exact ⟨joined, P.silence, .marker isEnd⟩
  | token :: after, other :: otherAfter, .cons words rests =>
      have shorter := (operand first firstEnd after).suffix.length_le
      rw [conjunctionTail, conjunctionTail, ← T.kinds words]
      split
      · have rights := operand_related rests
        have wholes := conjunctionTail_related (V.conjoin joined rights.values) rights.rests
        exact ⟨wholes.values, P.append rights.tells wholes.tells, wholes.rests⟩
      · exact ⟨joined, P.silence, .cons words rests⟩
termination_by 3 * tokens.length

theorem operand_related {tokens others : List Token} (ahead : T.Tokens tokens others) :
    (operand first firstEnd tokens).Related P (Option.Rel V.filter)
      (operand second secondEnd others) := by
  match tokens, others, ahead with
  | [], [], .textEnd isEnd =>
      rw [operand, operand]
      exact leaf_related V P (.textEnd isEnd)
  | [], marker :: behind, .marker isEnd =>
      have isMarker := T.kind_of_ended isEnd
      rw [operand, operand, if_neg (by simp [isMarker]), if_neg (by simp [isMarker])]
      exact leaf_related V P (.marker isEnd)
  | token :: after, other :: otherAfter, .cons words rests =>
      rw [operand, operand, ← T.kinds words]
      split
      · have inners := operand_related rests
        exact ⟨V.map_not inners.values, inners.tells, inners.rests⟩
      · split
        · exact (closeParenthesis_related words ‹_› (disjunction_related rests)).after _ _
        · exact leaf_related V P (.cons words rests)
termination_by 3 * tokens.length

end

/-! ## Clauses -/

theorem expectBy_related (ahead : T.Tokens tokens others) :
    (expectBy firstEnd tokens).Related P Eq (expectBy secondEnd others) := by
  have misplaced := P.unexpectedFront ahead
  cases ahead with
  | textEnd isEnd => exact ⟨rfl, misplaced, .textEnd isEnd⟩
  | marker isEnd =>
      rw [expectBy, expectBy, if_neg (by simp [T.kind_of_ended isEnd])]
      exact ⟨rfl, misplaced, .marker isEnd⟩
  | cons words rests =>
      rw [expectBy, expectBy, ← T.kinds words]
      split
      · exact ⟨rfl, P.silence, rests⟩
      · exact ⟨rfl, misplaced, .cons words rests⟩

theorem takeDirection_related (ahead : T.Tokens tokens others) :
    (takeDirection tokens).Related P Eq (takeDirection others) := by
  cases ahead with
  | textEnd isEnd => exact ⟨rfl, P.silence, .textEnd isEnd⟩
  | marker isEnd =>
      rw [takeDirection, takeDirection, T.kind_of_ended isEnd]
      exact ⟨rfl, P.silence, .marker isEnd⟩
  | cons words rests =>
      rw [takeDirection, takeDirection, ← T.kinds words]
      split
      · exact ⟨rfl, P.silence, rests⟩
      · exact ⟨rfl, P.silence, .cons words rests⟩

theorem sortKeys_related {tokens others : List Token} (ahead : T.Tokens tokens others) :
    (sortKeys first tokens).Related P (List.Forall₂ V.Keys) (sortKeys second others) := by
  match tokens, others, ahead with
  | [], [], .textEnd isEnd =>
      rw [sortKeys, sortKeys]
      exact ⟨.nil, P.silence, .textEnd isEnd⟩
  | [], marker :: behind, .marker isEnd =>
      rw [sortKeys, sortKeys, if_neg (by simp [T.kind_of_ended isEnd])]
      exact ⟨.nil, P.silence, .marker isEnd⟩
  | token :: after, other :: otherAfter, .cons words rests =>
      have shorter := (takeDirection after).suffix.length_le
      rw [sortKeys, sortKeys, ← T.kinds words]
      split
      · rename_i isName
        have directions := takeDirection_related P rests
        have further := sortKeys_related directions.rests
        exact ⟨.cons ⟨V.field words isName, directions.values⟩ further.values,
          P.append (P.field words isName) further.tells, further.rests⟩
      · exact ⟨.nil, P.silence, .cons words rests⟩
termination_by tokens.length
decreasing_by exact Nat.lt_succ_of_le shorter

theorem requiredKeys_related (ahead : T.Tokens tokens others) :
    (requiredKeys first firstEnd tokens).Related P (List.Forall₂ V.Keys)
      (requiredKeys second secondEnd others) := by
  have keys := sortKeys_related V P ahead
  have sameEmpty : (sortKeys second others).value.isEmpty =
      (sortKeys first tokens).value.isEmpty := by
    rw [Bool.eq_iff_iff, List.isEmpty_iff_length_eq_zero, List.isEmpty_iff_length_eq_zero,
      keys.values.length_eq]
  refine ⟨keys.values, P.append keys.tells ?_, keys.rests⟩
  rw [sameEmpty]
  split
  · exact P.unexpectedFront keys.rests
  · exact P.silence

theorem sortClause_related (ahead : T.Tokens tokens others) :
    (sortClause first firstEnd tokens).Related P (List.Forall₂ V.Keys)
      (sortClause second secondEnd others) := by
  have openings := expectBy_related P ahead
  have keys := requiredKeys_related V P openings.rests
  exact ⟨keys.values, P.append openings.tells keys.tells, keys.rests⟩

theorem groupField_related (ahead : T.Tokens tokens others) :
    (groupField first firstEnd tokens).Related P (Option.Rel V.name)
      (groupField second secondEnd others) := by
  have misplaced := P.unexpectedFront ahead
  cases ahead with
  | textEnd isEnd => exact ⟨.none, misplaced, .textEnd isEnd⟩
  | marker isEnd =>
      rw [groupField, groupField, if_neg (by simp [T.kind_of_ended isEnd])]
      exact ⟨.none, misplaced, .marker isEnd⟩
  | cons words rests =>
      rw [groupField, groupField, ← T.kinds words]
      split
      · exact ⟨.some (V.field words ‹_›), P.field words ‹_›, rests⟩
      · exact ⟨.none, misplaced, .cons words rests⟩

theorem groupClause_related (ahead : T.Tokens tokens others) :
    (groupClause first firstEnd tokens).Related P (Option.Rel V.name)
      (groupClause second secondEnd others) := by
  have openings := expectBy_related P ahead
  have fields := groupField_related V P openings.rests
  exact ⟨fields.values, P.append openings.tells fields.tells, fields.rests⟩

/-! ## Queries -/

variable {V P} in
theorem Outcome.Related.prepend {outcome other : Outcome} {front otherFront : List Diagnostic}
    (outcomes : outcome.Related V P other) (tells : P.tells front otherFront) :
    (outcome.prepend front).Related V P (other.prepend otherFront) :=
  ⟨outcomes.queries, P.append tells outcomes.tells⟩

namespace ValueRelation.Queries

variable {V} {query other : Query}

theorem isSome_group_eq (queries : V.Queries query other) :
    query.group.isSome = other.group.isSome := by
  have groups := queries.groups
  generalize query.group = group at groups ⊢
  generalize other.group = otherGroup at groups ⊢
  cases groups <;> rfl

theorem sorted (queries : V.Queries query other) {keys otherKeys : List SortKey}
    (sorts : List.Forall₂ V.Keys keys otherKeys) :
    V.Queries { query with sort := keys } { other with sort := otherKeys } :=
  ⟨queries.filters, sorts, queries.groups⟩

theorem grouped (queries : V.Queries query other) {field otherField : Option String}
    (groups : Option.Rel V.name field otherField) :
    V.Queries { query with group := field } { other with group := otherField } :=
  ⟨queries.filters, queries.sorts, groups⟩

end ValueRelation.Queries

theorem clauses_related {query other : Query} (sortSeen : Bool) {tokens others : List Token}
    (queries : V.Queries query other) (ahead : T.Tokens tokens others) :
    (clauses first firstEnd query sortSeen tokens).Related V P
      (clauses second secondEnd other sortSeen others) := by
  match tokens, others, ahead with
  | [], [], .textEnd isEnd =>
      rw [clauses, clauses]
      exact ⟨queries, P.silence⟩
  | [], marker :: behind, .marker isEnd =>
      rw [clauses, clauses, if_pos (T.kind_of_ended isEnd)]
      exact ⟨queries, P.silence⟩
  | token :: after, otherToken :: otherAfter, .cons words rests =>
      have keys := sortClause_related V P rests
      have fields := groupClause_related V P rests
      have sortShorter := (sortClause first firstEnd after).suffix.length_le
      have groupShorter := (groupClause first firstEnd after).suffix.length_le
      rw [clauses, clauses, ← T.kinds words, ← queries.isSome_group_eq]
      split
      · exact ⟨queries, P.silence⟩
      split
      · split
        · exact (clauses_related true queries keys.rests).prepend
            (P.append keys.tells (P.duplicateClause .sort))
        · exact (clauses_related true (queries.sorted keys.values) keys.rests).prepend keys.tells
      split
      · split
        · exact (clauses_related sortSeen queries fields.rests).prepend
            (P.append fields.tells (P.duplicateClause .group))
        · exact (clauses_related sortSeen (queries.grouped fields.values) fields.rests).prepend
            fields.tells
      · exact (clauses_related sortSeen queries rests).prepend (P.unexpected words)
termination_by tokens.length

/-- Tokens that stand for each other are read as queries that are related, and what is
reported about them is related too. -/
theorem readQuery_related (ahead : T.Tokens tokens others) :
    (readQuery first firstEnd tokens).Related V P (readQuery second secondEnd others) := by
  have empties : V.Queries {} {} := ⟨.none, .nil, .none⟩
  cases ahead with
  | textEnd isEnd => exact ⟨empties, P.silence⟩
  | marker isEnd =>
      have isMarker := T.kind_of_ended isEnd
      rw [readQuery, readQuery, if_pos (by rw [isMarker]; rfl), clauses, if_pos isMarker]
      exact ⟨empties, P.silence⟩
  | cons words rests =>
      rw [readQuery, readQuery, ← T.kinds words]
      split
      · exact clauses_related V P false empties (.cons words rests)
      · have expressions := disjunction_related V P (.cons words rests)
        exact (clauses_related V P false ⟨expressions.values, .nil, .none⟩
          expressions.rests).prepend expressions.tells

/-! ## One reading -/

/-- No marker stands where no token is left. -/
theorem kind_of_cons_eq_nil {marker : Token} {behind : List Token}
    (noneLeft : marker :: behind = []) : marker.kind = .endOfInput := by
  cases noneLeft

/-- Tokens that stand for themselves and are good. -/
def TokenRelation.self (vocabulary : Vocabulary) (good : Token → Prop) :
    TokenRelation vocabulary vocabulary where
  token word other := word = other ∧ good word
  ended others := others = []
  kinds := by
    rintro word _ ⟨rfl, -⟩
    rfl
  kind_of_ended := kind_of_cons_eq_nil
  isStatusWord_eq := by
    rintro field _ ⟨rfl, -⟩ -
    rfl

theorem TokenRelation.tokens_self {vocabulary : Vocabulary} {good : Token → Prop}
    {tokens : List Token} (isGood : ∀ token ∈ tokens, good token) :
    (TokenRelation.self vocabulary good).Tokens tokens tokens := by
  induction tokens with
  | nil => exact .textEnd rfl
  | cons token tokens ih =>
      obtain ⟨goodHere, goodLater⟩ := List.forall_mem_cons.mp isGood
      exact .cons ⟨rfl, goodHere⟩ (ih goodLater)

/-- Nothing is asked of the filters and names of one reading. -/
def ValueRelation.any (vocabulary : Vocabulary) (good : Token → Prop) :
    ValueRelation (.self vocabulary good) where
  filter _ _ := True
  name _ _ := True
  state := by
    rintro word _ ⟨rfl, -⟩ - operator
    cases stateFilter? operator word.text with
    | none => exact .none
    | some filter => exact .some trivial
  check _ _ _ := trivial
  comparison _ _ _ _ _ := trivial
  statusWord _ _ := trivial
  not _ := trivial
  and _ _ := trivial
  or _ _ := trivial
  field _ _ := trivial

/-- Nothing is asked of the reports of two readings. -/
def ReportRelation.any (T : TokenRelation first second) (firstEnd secondEnd : Nat) :
    ReportRelation T firstEnd secondEnd where
  tells _ _ := True
  silence := trivial
  append _ _ := trivial
  textEnd _ := trivial
  unexpected _ := trivial
  missingTarget _ _ := trivial
  missingValue _ _ _ _ := trivial
  missingOperator _ _ := trivial
  unclosedParenthesis _ _ := trivial
  duplicateClause _ := trivial
  field _ _ := trivial

/-- What relates two values by a property of the first gives this property. -/
theorem forall_mem_of_rel {α β : Type} {good : α → Prop} {value : Option α} {other : Option β}
    (related : Option.Rel (fun a _ => good a) value other) : ∀ a ∈ value, good a := by
  cases related with
  | none => rintro _ ⟨⟩
  | some isGood =>
      rintro _ ⟨⟩
      exact isGood

variable {V} in
theorem ValueRelation.forall_mem_of_keys {good : String → Prop}
    (isGood : ∀ {name other}, V.name name other → good name) {keys others : List SortKey}
    (related : List.Forall₂ V.Keys keys others) : ∀ key ∈ keys, good key.field := by
  induction related with
  | nil => exact List.forall_mem_nil _
  | cons key _ ih => exact List.forall_mem_cons.mpr ⟨isGood key.fields, ih⟩

end TaskQuery

/-
# Reading recognises queries

Behind an expression come clauses. This module says when reading them had nothing to
forgive, and puts the two parts together: a list of tokens is read without a report that
counts exactly if it is derived as a query.
-/

import TaskQuery.Proofs.Recognition

namespace TaskQuery

namespace Grammar

open Reading

variable {vocabulary : Vocabulary} {endPosition : Nat} {tokens rest : List Token} {token : Token}

/-! ## Sort and group clauses -/

theorem expectBy_accepts_iff {found : Unit} :
    (expectBy endPosition tokens).Accepts found rest ↔
      ∃ word, tokens = word :: rest ∧ word.kind = .keyword .byWord := by
  cases tokens with
  | nil =>
      refine iff_of_false (not_accepts_cons id) ?_
      intro described
      obtain ⟨word, spelled, _⟩ := described
      cases spelled
  | cons word tokens =>
      rw [expectBy]
      split
      · rename_i isBy
        rw [accepts_silent_iff]
        constructor
        · intro accepted
          obtain ⟨_, rest_eq⟩ := accepted
          exact ⟨word, by rw [rest_eq], isBy⟩
        · intro described
          obtain ⟨other, spelled, _⟩ := described
          cases spelled
          exact ⟨rfl, rfl⟩
      · rename_i noBy
        refine iff_of_false (not_accepts_cons (not_isUnknownField_unexpected word)) ?_
        intro described
        obtain ⟨other, spelled, isBy⟩ := described
        cases spelled
        exact noBy isBy

theorem takeDirection_accepts (direction : DirectionWord) (ends : NoDirection rest) :
    (takeDirection (direction.tokens ++ rest)).Accepts direction.meaning rest := by
  cases direction with
  | absent =>
      cases rest with
      | nil => exact accepts_silent_iff.mpr ⟨rfl, rfl⟩
      | cons token rest =>
          have silent : token.kind.direction? = none := by
            rw [noDirection_cons_iff] at ends
            rw [TokenKind.direction?.eq_def]
            split
            · rename_i isAsc
              exact absurd isAsc ends.1
            · rename_i isDesc
              exact absurd isDesc ends.2
            · rfl
          simp only [DirectionWord.tokens, List.nil_append, takeDirection, silent]
          exact accepts_silent_iff.mpr ⟨rfl, rfl⟩
  | asc word isAsc =>
      simp only [DirectionWord.tokens, List.cons_append, List.nil_append, takeDirection, isAsc,
        TokenKind.direction?]
      exact accepts_silent_iff.mpr ⟨rfl, rfl⟩
  | desc word isDesc =>
      simp only [DirectionWord.tokens, List.cons_append, List.nil_append, takeDirection, isDesc,
        TokenKind.direction?]
      exact accepts_silent_iff.mpr ⟨rfl, rfl⟩

theorem exists_directionWord (tokens : List Token) :
    ∃ direction : DirectionWord, (takeDirection tokens).value = direction.meaning ∧
      tokens = direction.tokens ++ (takeDirection tokens).rest := by
  cases tokens with
  | nil => exact ⟨.absent, rfl, rfl⟩
  | cons word tokens =>
      rw [takeDirection]
      split
      · rename_i direction stated
        rw [TokenKind.direction?.eq_def] at stated
        split at stated
        · rename_i isAsc
          cases stated
          exact ⟨.asc word isAsc, rfl, rfl⟩
        · rename_i isDesc
          cases stated
          exact ⟨.desc word isDesc, rfl, rfl⟩
        · cases stated
      · exact ⟨.absent, rfl, rfl⟩

theorem sortKeys_name_accepts {direction : SortDirection} {remaining : List Token}
    {others : List SortKey} (isName : token.kind = .identifier)
    (directionRead : (takeDirection tokens).Accepts direction remaining)
    (othersRead : (sortKeys vocabulary remaining).Accepts others rest) :
    (sortKeys vocabulary (token :: tokens)).Accepts (⟨token.text, direction⟩ :: others) rest := by
  obtain ⟨rfl, rfl, -⟩ := directionRead
  obtain ⟨rfl, rfl, clean⟩ := othersRead
  rw [sortKeys, if_pos isName]
  refine ⟨rfl, rfl, fun diagnostic reported => ?_⟩
  rcases List.mem_append.mp reported with unknown | reported
  · exact isUnknownField_fieldDiagnostics vocabulary token.text diagnostic unknown
  · exact clean diagnostic reported

/-- Sort keys are read back, as long as a clause or nothing follows. -/
theorem sortKeys_accepts (vocabulary : Vocabulary) (keys : List Key) (front : AtClause rest) :
    (sortKeys vocabulary (keys.flatMap Key.tokens ++ rest)).Accepts
      (keys.map Key.meaning) rest := by
  induction keys with
  | nil =>
      cases rest with
      | nil =>
          rw [List.flatMap_nil, List.nil_append, sortKeys]
          exact accepts_silent_iff.mpr ⟨rfl, rfl⟩
      | cons token rest =>
          have noName : token.kind ≠ .identifier := by
            rcases front token rfl with kind | kind <;> simp [kind]
          rw [List.flatMap_nil, List.nil_append, sortKeys, if_neg noName]
          exact accepts_silent_iff.mpr ⟨rfl, rfl⟩
  | cons key keys ih =>
      have direction := takeDirection_accepts key.direction
        (Key.noDirection_flatMap_append keys front)
      rw [List.flatMap_cons, Key.tokens, List.cons_append, List.cons_append, List.append_assoc]
      exact sortKeys_name_accepts key.isName direction ih

/-- Whatever is read as sort keys is a list of them. -/
theorem exists_keys (vocabulary : Vocabulary) (tokens : List Token) :
    ∃ keys : List Key, (sortKeys vocabulary tokens).value = keys.map Key.meaning ∧
      tokens = keys.flatMap Key.tokens ++ (sortKeys vocabulary tokens).rest := by
  match tokens with
  | [] =>
      rw [sortKeys]
      exact ⟨[], rfl, rfl⟩
  | token :: after =>
      rw [sortKeys]
      split
      · rename_i isName
        obtain ⟨direction, meant, spelled⟩ := exists_directionWord after
        have shorter := (takeDirection after).suffix.length_le
        obtain ⟨keys, others, remaining⟩ := exists_keys vocabulary (takeDirection after).rest
        refine ⟨⟨token, isName, direction⟩ :: keys, ?_, ?_⟩
        · simp only [others, meant, List.map_cons, Key.meaning]
        · simp only [List.flatMap_cons, Key.tokens, List.cons_append, List.append_assoc,
            ← remaining, ← spelled]
      · exact ⟨[], rfl, rfl⟩
termination_by tokens.length
decreasing_by exact Nat.lt_succ_of_le shorter

theorem requiredKeys_accepts_iff {keys : List SortKey} :
    (requiredKeys vocabulary endPosition tokens).Accepts keys rest ↔
      (sortKeys vocabulary tokens).Accepts keys rest ∧ keys ≠ [] := by
  rw [requiredKeys]
  constructor
  · intro found
    obtain ⟨rfl, rfl, clean⟩ := found
    refine ⟨⟨rfl, rfl, fun diagnostic reported => ?_⟩, fun empty => ?_⟩
    · exact clean diagnostic (List.mem_append_left _ reported)
    · refine not_isUnknownField_unexpectedFront endPosition (sortKeys vocabulary tokens).rest
        (clean _ (List.mem_append_right _ ?_))
      rw [if_pos (List.isEmpty_iff.mpr empty)]
      exact List.mem_cons_self
  · intro found
    obtain ⟨⟨rfl, rfl, clean⟩, nonempty⟩ := found
    refine ⟨rfl, rfl, fun diagnostic reported => ?_⟩
    rw [if_neg (fun empty => nonempty (List.isEmpty_iff.mp empty)), List.append_nil] at reported
    exact clean diagnostic reported

theorem sortClause_accepts_iff {keys : List SortKey} :
    (sortClause vocabulary endPosition tokens).Accepts keys rest ↔
      ∃ word after, tokens = word :: after ∧ word.kind = .keyword .byWord ∧
        (sortKeys vocabulary after).Accepts keys rest ∧ keys ≠ [] := by
  rw [sortClause]
  refine (accepts_append_iff fun _ => requiredKeys vocabulary endPosition).trans ?_
  simp only [expectBy_accepts_iff, requiredKeys_accepts_iff]
  constructor
  · intro found
    obtain ⟨_, after, ⟨word, rfl, isBy⟩, accepted, nonempty⟩ := found
    exact ⟨word, after, rfl, isBy, accepted, nonempty⟩
  · intro found
    obtain ⟨word, after, rfl, isBy, accepted, nonempty⟩ := found
    exact ⟨(), after, ⟨word, rfl, isBy⟩, accepted, nonempty⟩

theorem groupClause_accepts_iff {found : Option String} :
    (groupClause vocabulary endPosition tokens).Accepts found rest ↔
      ∃ word field, tokens = word :: field :: rest ∧ word.kind = .keyword .byWord ∧
        field.kind = .identifier ∧ found = some field.text := by
  rw [groupClause]
  refine (accepts_append_iff fun _ => groupField vocabulary endPosition).trans ?_
  constructor
  · intro accepted
    obtain ⟨_, remaining, opened, accepted⟩ := accepted
    obtain ⟨word, rfl, isBy⟩ := expectBy_accepts_iff.mp opened
    cases remaining with
    | nil => exact absurd accepted (not_accepts_cons id)
    | cons field remaining =>
        rw [groupField] at accepted
        split at accepted
        · rename_i isName
          obtain ⟨rfl, rfl, -⟩ := accepted
          exact ⟨word, field, rfl, isBy, isName, rfl⟩
        · exact absurd accepted (not_accepts_cons (not_isUnknownField_unexpected field))
  · intro found
    obtain ⟨word, field, rfl, isBy, isName, rfl⟩ := found
    refine ⟨(), field :: rest, expectBy_accepts_iff.mpr ⟨word, rfl, isBy⟩, ?_⟩
    rw [groupField, if_pos isName]
    exact ⟨rfl, rfl, isUnknownField_fieldDiagnostics vocabulary field.text⟩

end Grammar

/-! ## Acceptance of queries -/

namespace Outcome

/-- A query is read, and no more than unknown fields are reported. -/
structure Accepts (outcome : Outcome) (query : Query) : Prop where
  query_eq : outcome.query = query
  clean : ∀ diagnostic ∈ outcome.diagnostics, diagnostic.IsUnknownField

variable {outcome : Outcome} {query : Query}

theorem accepts_silent_iff {found : Query} :
    (Outcome.mk found []).Accepts query ↔ query = found := by
  constructor
  · intro found
    obtain ⟨rfl, -⟩ := found
    rfl
  · rintro rfl
    exact ⟨rfl, fun diagnostic reported => by cases reported⟩

theorem accepts_prepend_iff {diagnostics : List Diagnostic} :
    (outcome.prepend diagnostics).Accepts query ↔
      (∀ diagnostic ∈ diagnostics, diagnostic.IsUnknownField) ∧ outcome.Accepts query := by
  constructor
  · intro found
    obtain ⟨rfl, clean⟩ := found
    refine ⟨fun diagnostic reported => ?_, rfl, fun diagnostic reported => ?_⟩
    · exact clean diagnostic (List.mem_append_left _ reported)
    · exact clean diagnostic (List.mem_append_right _ reported)
  · intro found
    obtain ⟨early, rfl, clean⟩ := found
    refine ⟨rfl, fun diagnostic reported => ?_⟩
    exact (List.mem_append.mp reported).elim (early diagnostic) (clean diagnostic)

/-- What is read behind a rule accepts if both do. -/
theorem accepts_prepend_reading_iff {α : Type} {tokens : List Token} {first : Reading α tokens}
    (second : α → List Token → Outcome) :
    ((second first.value first.rest).prepend first.diagnostics).Accepts query ↔
      ∃ value rest, first.Accepts value rest ∧ (second value rest).Accepts query := by
  rw [accepts_prepend_iff]
  constructor
  · intro accepted
    obtain ⟨clean, accepted⟩ := accepted
    exact ⟨first.value, first.rest, ⟨rfl, rfl, clean⟩, accepted⟩
  · intro found
    obtain ⟨_, _, ⟨rfl, rfl, clean⟩, accepted⟩ := found
    exact ⟨clean, accepted⟩

/-- A report that counts, behind those of a rule, is enough to accept nothing. -/
theorem not_accepts_prepend_append {diagnostics : List Diagnostic} {diagnostic : Diagnostic}
    (counts : ¬ diagnostic.IsUnknownField) :
    ¬ (outcome.prepend (diagnostics ++ [diagnostic])).Accepts query := by
  rw [accepts_prepend_iff]
  intro accepted
  obtain ⟨clean, _⟩ := accepted
  exact counts (clean diagnostic (List.mem_append_right _ List.mem_cons_self))

end Outcome

namespace Grammar

variable {vocabulary : Vocabulary} {endPosition : Nat} {tokens rest : List Token} {token : Token}
  {query result : Query} {sortSeen : Bool}

theorem clauses_nil_accepts_iff :
    (clauses vocabulary endPosition query sortSeen []).Accepts result ↔ result = query := by
  rw [clauses, Outcome.accepts_silent_iff]

theorem clauses_sort_accepts_iff (isSort : token.kind = .keyword .sortWord) :
    (clauses vocabulary endPosition query sortSeen (token :: tokens)).Accepts result ↔
      sortSeen = false ∧ ∃ keys rest, (sortClause vocabulary endPosition tokens).Accepts keys rest ∧
        (clauses vocabulary endPosition { query with sort := keys } true rest).Accepts result := by
  rw [clauses, if_neg (by simp [isSort]), if_pos isSort]
  cases sortSeen with
  | true =>
      refine iff_of_false (Outcome.not_accepts_prepend_append id) ?_
      intro described
      obtain ⟨unseen, _⟩ := described
      cases unseen
  | false =>
      refine (Outcome.accepts_prepend_reading_iff fun keys =>
        clauses vocabulary endPosition { query with sort := keys } true).trans ?_
      simp only [true_and]

theorem clauses_group_accepts_iff (isGroup : token.kind = .keyword .groupWord) :
    (clauses vocabulary endPosition query sortSeen (token :: tokens)).Accepts result ↔
      query.group = none ∧ ∃ field rest,
        (groupClause vocabulary endPosition tokens).Accepts field rest ∧
        (clauses vocabulary endPosition { query with group := field } sortSeen rest).Accepts
          result := by
  rw [clauses, if_neg (by simp [isGroup]), if_neg (by simp [isGroup]), if_pos isGroup]
  by_cases given : query.group = none
  · rw [if_neg (by simp [given])]
    refine (Outcome.accepts_prepend_reading_iff fun field =>
      clauses vocabulary endPosition { query with group := field } sortSeen).trans ?_
    simp only [given, true_and]
  · rw [if_pos (Option.isSome_iff_ne_none.mpr given)]
    exact iff_of_false (Outcome.not_accepts_prepend_append id) fun found => given found.1

/-- Behind an expression no token but those of the clauses is accepted. -/
theorem atClause_of_clauses_accepts (noEnd : token.kind ≠ .endOfInput)
    (accepted : (clauses vocabulary endPosition query sortSeen (token :: tokens)).Accepts result) :
    token.kind = .keyword .sortWord ∨ token.kind = .keyword .groupWord := by
  by_cases isSort : token.kind = .keyword .sortWord
  · exact Or.inl isSort
  · by_cases isGroup : token.kind = .keyword .groupWord
    · exact Or.inr isGroup
    · rw [clauses, if_neg noEnd, if_neg isSort, if_neg isGroup, Outcome.accepts_prepend_iff]
        at accepted
      exact absurd (accepted.1 _ List.mem_cons_self) (not_isUnknownField_unexpected token)

/-- Every clause comes once, and none was there before: neither a sort clause when one
was seen, nor a group clause when the query has a group key. -/
structure Fresh (query : Query) (sortSeen : Bool) (derived : List ClauseDerivation) : Prop where
  once : derived.Pairwise fun first second => first.clause ≠ second.clause
  sort : ∀ clause ∈ derived, clause.clause = .sort → sortSeen = false
  group : ∀ clause ∈ derived, clause.clause = .group → query.group = none

theorem fresh_nil : Fresh query sortSeen [] :=
  ⟨List.Pairwise.nil, by simp, by simp⟩

theorem fresh_cons_sort_iff {clause : ClauseDerivation} {derived : List ClauseDerivation}
    (isSort : clause.clause = .sort) :
    Fresh query sortSeen (clause :: derived) ↔
      sortSeen = false ∧ Fresh (clause.apply query) true derived := by
  have sameGroup : (clause.apply query).group = query.group := by
    cases clause with
    | sort => rfl
    | group => cases isSort
  constructor
  · intro fresh
    obtain ⟨apart, once⟩ := List.pairwise_cons.mp fresh.once
    refine ⟨fresh.sort clause List.mem_cons_self isSort, once, ?_, ?_⟩
    · intro other member otherSort
      exact absurd (isSort.trans otherSort.symm) (apart other member)
    · intro other member isGroup
      exact sameGroup ▸ fresh.group other (List.mem_cons_of_mem _ member) isGroup
  · intro described
    obtain ⟨unseen, fresh⟩ := described
    refine ⟨List.pairwise_cons.mpr ⟨?_, fresh.once⟩, fun _ _ _ => unseen, ?_⟩
    · intro other member same
      cases fresh.sort other member (same ▸ isSort)
    · intro other member isGroup
      rcases List.mem_cons.mp member with rfl | member
      · cases isSort.symm.trans isGroup
      · exact sameGroup ▸ fresh.group other member isGroup

theorem fresh_cons_group_iff {clause : ClauseDerivation} {derived : List ClauseDerivation}
    (isGroup : clause.clause = .group) :
    Fresh query sortSeen (clause :: derived) ↔
      query.group = none ∧ Fresh (clause.apply query) sortSeen derived := by
  have given : (clause.apply query).group ≠ none := by
    cases clause with
    | sort => cases isGroup
    | group => exact Option.some_ne_none _
  constructor
  · intro fresh
    obtain ⟨apart, once⟩ := List.pairwise_cons.mp fresh.once
    refine ⟨fresh.group clause List.mem_cons_self isGroup, once, ?_, ?_⟩
    · intro other member isSort
      exact fresh.sort other (List.mem_cons_of_mem _ member) isSort
    · intro other member otherGroup
      exact absurd (isGroup.trans otherGroup.symm) (apart other member)
  · intro described
    obtain ⟨missing, fresh⟩ := described
    refine ⟨List.pairwise_cons.mpr ⟨?_, fresh.once⟩, ?_, fun _ _ _ => missing⟩
    · intro other member same
      exact given (fresh.group other member (same ▸ isGroup))
    · intro other member isSort
      rcases List.mem_cons.mp member with rfl | member
      · cases isSort.symm.trans isGroup
      · exact fresh.sort other member isSort

/-- Clauses are read back. -/
theorem clauses_accepts (vocabulary : Vocabulary) (endPosition : Nat)
    (derived : List ClauseDerivation) (fresh : Fresh query sortSeen derived) :
    (clauses vocabulary endPosition query sortSeen
      (derived.flatMap ClauseDerivation.tokens)).Accepts
        (derived.foldl ClauseDerivation.apply query) := by
  induction derived generalizing query sortSeen with
  | nil => exact clauses_nil_accepts_iff.mpr rfl
  | cons clause derived ih =>
      have front := atClause_flatMap_tokens derived
      rw [List.flatMap_cons, List.foldl_cons]
      cases clause with
      | sort word byWord isSort isBy keys nonempty =>
          obtain ⟨unseen, fresh⟩ := (fresh_cons_sort_iff rfl).mp fresh
          refine (clauses_sort_accepts_iff isSort).mpr
            ⟨unseen, keys.map Key.meaning, _, ?_, ih fresh⟩
          exact sortClause_accepts_iff.mpr ⟨byWord, _, rfl, isBy,
            sortKeys_accepts vocabulary keys front, mt List.map_eq_nil_iff.mp nonempty⟩
      | group word byWord field isGroup isBy isName =>
          obtain ⟨missing, fresh⟩ := (fresh_cons_group_iff rfl).mp fresh
          refine (clauses_group_accepts_iff isGroup).mpr
            ⟨missing, some field.text, _, ?_, ih fresh⟩
          exact groupClause_accepts_iff.mpr ⟨byWord, field, rfl, isBy, isName, rfl⟩

/-- Accepted clauses are derived. -/
theorem exists_clauses_of_accepts {tokens : List Token} {query : Query} {sortSeen : Bool}
    (noEnd : ∀ token ∈ tokens, token.kind ≠ .endOfInput)
    (accepted : (clauses vocabulary endPosition query sortSeen tokens).Accepts result) :
    ∃ derived : List ClauseDerivation, Fresh query sortSeen derived ∧
      tokens = derived.flatMap ClauseDerivation.tokens ∧
      result = derived.foldl ClauseDerivation.apply query := by
  match tokens with
  | [] => exact ⟨[], fresh_nil, rfl, clauses_nil_accepts_iff.mp accepted⟩
  | word :: after =>
      rcases atClause_of_clauses_accepts (noEnd word List.mem_cons_self) accepted with
        isSort | isGroup
      · obtain ⟨unseen, _, rest, head, tail⟩ := (clauses_sort_accepts_iff isSort).mp accepted
        have shorter := head.isSuffix.length_le
        obtain ⟨byWord, behind, rfl, isBy, keysRead, nonempty⟩ := sortClause_accepts_iff.mp head
        obtain ⟨keys, meant, spelled⟩ := exists_keys vocabulary behind
        rw [keysRead.value_eq] at meant
        rw [keysRead.rest_eq] at spelled
        subst meant spelled
        obtain ⟨derived, fresh, rfl, rfl⟩ := exists_clauses_of_accepts
          (fun token member => noEnd token (by simp [member])) tail
        have someKey : keys ≠ [] := fun empty => nonempty (List.map_eq_nil_iff.mpr empty)
        exact ⟨.sort word byWord isSort isBy keys someKey :: derived,
          (fresh_cons_sort_iff rfl).mpr ⟨unseen, fresh⟩, rfl, rfl⟩
      · obtain ⟨missing, _, rest, head, tail⟩ := (clauses_group_accepts_iff isGroup).mp accepted
        have shorter := head.isSuffix.length_le
        obtain ⟨byWord, field, rfl, isBy, isName, rfl⟩ := groupClause_accepts_iff.mp head
        obtain ⟨derived, fresh, rfl, rfl⟩ := exists_clauses_of_accepts
          (fun token member => noEnd token (by simp [member])) tail
        exact ⟨.group word byWord field isGroup isBy isName :: derived,
          (fresh_cons_group_iff rfl).mpr ⟨missing, fresh⟩, rfl, rfl⟩
termination_by tokens.length

/-! ## Queries -/

theorem readQuery_of_atClause (front : AtClause tokens) :
    readQuery vocabulary endPosition tokens = clauses vocabulary endPosition {} false tokens := by
  cases tokens with
  | nil => rw [readQuery, clauses]
  | cons token tokens =>
      have ends : token.kind.endsExpression = true := by
        rcases atClause_cons_iff.mp front with kind | kind <;> rw [kind] <;> rfl
      rw [readQuery, if_pos ends]

theorem readQuery_accepts_iff (goesOn : token.kind.endsExpression = false) :
    (readQuery vocabulary endPosition (token :: tokens)).Accepts result ↔ ∃ value rest,
      (disjunction vocabulary endPosition (token :: tokens)).Accepts value rest ∧
      (clauses vocabulary endPosition { filter := value } false rest).Accepts result := by
  rw [readQuery, if_neg (by simp [goesOn])]
  exact Outcome.accepts_prepend_reading_iff fun value =>
    clauses vocabulary endPosition { filter := value } false

theorem endsExpression_of_startsOperand {kind : TokenKind}
    (starts : Derivation.startsOperand kind = true) : kind.endsExpression = false := by
  rw [TokenKind.endsExpression.eq_def]
  split <;> first | rfl | cases starts

/-- A derived query is read back. -/
theorem QueryDerivation.readQuery_accepts (endPosition : Nat)
    (derivation : QueryDerivation vocabulary) :
    (readQuery vocabulary endPosition derivation.tokens).Accepts derivation.query := by
  obtain ⟨expression, derived, once⟩ := derivation
  have front := atClause_flatMap_tokens derived
  have fresh (query : Query) (missing : query.group = none) : Fresh query false derived :=
    ⟨once, fun _ _ _ => rfl, fun _ _ _ => missing⟩
  cases expression with
  | none =>
      rw [tokens, Option.elim, List.nil_append, readQuery_of_atClause front]
      exact clauses_accepts vocabulary endPosition derived (fresh _ rfl)
  | some expression =>
      have expressionRead := expression.isRead endPosition (front.stops _)
      obtain ⟨token, rest, spelled, starts⟩ := expression.exists_tokens_disjunction
      rw [Derivation.IsRead, spelled, List.cons_append] at expressionRead
      rw [tokens, Option.elim, spelled, List.cons_append,
        readQuery_accepts_iff (endsExpression_of_startsOperand starts)]
      exact ⟨_, _, expressionRead, clauses_accepts vocabulary endPosition derived (fresh _ rfl)⟩

/-- An accepted query is derived. -/
theorem exists_queryDerivation_of_accepts (noEnd : ∀ token ∈ tokens, token.kind ≠ .endOfInput)
    (accepted : (readQuery vocabulary endPosition tokens).Accepts result) :
    ∃ derivation : QueryDerivation vocabulary, derivation.tokens = tokens := by
  by_cases front : AtClause tokens
  · rw [readQuery_of_atClause front] at accepted
    obtain ⟨derived, fresh, rfl, -⟩ := exists_clauses_of_accepts noEnd accepted
    exact ⟨⟨none, derived, fresh.once⟩, rfl⟩
  · cases tokens with
    | nil => exact absurd atClause_nil front
    | cons token tokens =>
        have goesOn : token.kind.endsExpression = false := by
          have noEndHere := noEnd token List.mem_cons_self
          rw [atClause_cons_iff] at front
          rw [TokenKind.endsExpression.eq_def]
          split <;> simp_all
        obtain ⟨_, rest, head, tail⟩ := (readQuery_accepts_iff goesOn).mp accepted
        obtain ⟨expression, rfl, spelled⟩ := exists_derivation_of_disjunction_accepts head
        rw [spelled] at noEnd ⊢
        obtain ⟨derived, fresh, rfl, -⟩ := exists_clauses_of_accepts
          (fun token member => noEnd token (List.mem_append_right _ member)) tail
        exact ⟨⟨some expression, derived, fresh.once⟩, rfl⟩

theorem parseTokens_append_marker {marker : Token} (isEnd : marker.kind = .endOfInput) :
    Query.parseTokens vocabulary (tokens ++ [marker]) =
      readQuery vocabulary marker.position tokens := by
  rw [Query.parseTokens, List.getLast?_concat]
  simp only [isEnd, if_true, List.dropLast_concat]

/-- Reading recognises the grammar. On tokens that end with the end marker, and have no
other, it reports no more than unknown fields exactly if they are derived, and then it
gives the query of their only derivation. -/
theorem parseTokens_recognizes (vocabulary : Vocabulary) (tokens : List Token) (marker : Token)
    (noEnd : ∀ token ∈ tokens, token.kind ≠ .endOfInput) (isEnd : marker.kind = .endOfInput) :
    ((∀ diagnostic ∈ (Query.parseTokens vocabulary (tokens ++ [marker])).diagnostics,
        diagnostic.IsUnknownField) ↔
      ∃ derivation : QueryDerivation vocabulary, derivation.tokens = tokens) ∧
    ∀ derivation : QueryDerivation vocabulary, derivation.tokens = tokens →
      (Query.parseTokens vocabulary (tokens ++ [marker])).query = derivation.query ∧
      ∀ other : QueryDerivation vocabulary, other.tokens = tokens → other = derivation := by
  rw [parseTokens_append_marker isEnd]
  refine ⟨⟨fun clean => ?_, fun ⟨derivation, spelled⟩ => ?_⟩, fun derivation spelled => ?_⟩
  · exact exists_queryDerivation_of_accepts noEnd ⟨rfl, clean⟩
  · rw [← spelled]
    exact (derivation.readQuery_accepts marker.position).clean
  · rw [← spelled]
    exact ⟨(derivation.readQuery_accepts marker.position).query_eq,
      fun other same => QueryDerivation.eq_of_tokens_eq same⟩

/-- `NOT a is 1 OR blocks b OR blocks c` binds NOT first and groups OR from the left. -/
theorem parseTokens_recognizes_or_or :
    let tokens : List Token :=
      [⟨.connective .not, "NOT", 0⟩, ⟨.identifier, "a", 4⟩, ⟨.operator .is, "is", 6⟩,
       ⟨.identifier, "1", 9⟩, ⟨.connective .or, "OR", 11⟩, ⟨.relation .blocks, "blocks", 14⟩,
       ⟨.identifier, "b", 21⟩, ⟨.connective .or, "OR", 23⟩, ⟨.relation .blocks, "blocks", 26⟩,
       ⟨.identifier, "c", 33⟩]
    (∀ token ∈ tokens, token.kind ≠ .endOfInput) ∧
    (Query.parseTokens .default (tokens ++ [⟨.endOfInput, "", 34⟩])).query =
      { filter := some (.or (.or (.not (.comparison "a" .is "1")) (.dependency (.blocks "b")))
          (.dependency (.blocks "c"))) } := by
  intro tokens
  have noEnd : ∀ token ∈ tokens, token.kind ≠ .endOfInput := by decide
  let negated : Derivation .default .operand :=
    .not tokens[0] rfl (.comparison tokens[1] tokens[2] tokens[3] .is rfl rfl .identifier)
  let second : Derivation .default .operand := .relation tokens[5] tokens[6] .blocks rfl .identifier
  let third : Derivation .default .operand := .relation tokens[8] tokens[9] .blocks rfl .identifier
  let expression : Derivation .default .disjunction :=
    .disjunction (.conjunction negated .endAnd)
      (.or tokens[4] rfl (.conjunction second .endAnd)
        (.or tokens[7] rfl (.conjunction third .endAnd) .endOr))
  let derivation : QueryDerivation .default := ⟨some expression, [], List.Pairwise.nil⟩
  exact ⟨noEnd, ((parseTokens_recognizes .default tokens ⟨.endOfInput, "", 34⟩ noEnd rfl).2
    derivation rfl).1⟩

end Grammar

end TaskQuery

/-
# Written queries read back

The text of a query reads back as the query. A query whose fields have names is written
as a filter and clauses, the lexer reads them part by part, the grammar derives the query
from what was read, and reading accepts what is derived. Every query that was read from a
text has such names, so reading, writing and reading again changes nothing.
-/

import TaskQuery.Proofs.QueryRecognition
import TaskQuery.Proofs.ReadNames
import TaskQuery.Proofs.WrittenFilters

namespace TaskQuery

open Text Grammar

variable {rest : List Char}

/-! ## Clauses -/

theorem exists_kind_spells_direction (direction : SortDirection) (stops : WordStops rest) :
    ∃ kind, Spells direction.text.toList [⟨kind, direction.text⟩] rest ∧
      ∀ word : Token, word.kind = kind →
        ∃ derived : DirectionWord, derived.tokens = [word] ∧ derived.meaning = direction := by
  cases direction with
  | asc =>
      have read := @spells_lone 'a' ['s', 'c'] rest rfl (by decide) stops (by decide)
      exact ⟨_, read, fun word isAsc => ⟨.asc word isAsc, rfl, rfl⟩⟩
  | desc =>
      have read := @spells_lone 'd' ['e', 's', 'c'] rest rfl (by decide) stops (by decide)
      exact ⟨_, read, fun word isDesc => ⟨.desc word isDesc, rfl, rfl⟩⟩

theorem nextWord_direction_ne_on (direction : SortDirection) (stops : WordStops rest) :
    String.ofList ((nextWord (' ' :: (direction.text.toList ++ rest))).map Char.toLower) ≠
      "on" := by
  cases direction with
  | asc =>
      have next := @nextWord_blank_append ['a', 's', 'c'] rest (by decide) (by decide) stops
      rw [SortDirection.text, show "asc".toList = ['a', 's', 'c'] from rfl, next]
      decide
  | desc =>
      have next := @nextWord_blank_append ['d', 'e', 's', 'c'] rest (by decide) (by decide) stops
      rw [SortDirection.text, show "desc".toList = ['d', 'e', 's', 'c'] from rfl, next]
      decide

/-- A sort key is read as lexemes from which it is derived. -/
theorem exists_spells_key (key : SortKey) (isName : IsFieldName key.field)
    (stops : WordStops rest) :
    ∃ lexemes, Spells key.text.toList lexemes rest ∧
      ∀ tokens : List Token, tokens.map Token.lexeme = lexemes →
        ∃ derived : Key, derived.tokens = tokens ∧ derived.meaning = key := by
  obtain ⟨kind, directionRead, derives⟩ := exists_kind_spells_direction key.direction stops
  have fieldRead := (isFieldName_iff.mp isName).spells (wordStops_blank _)
    (nextWord_direction_ne_on key.direction stops)
  rw [String.ofList_toList] at fieldRead
  have spelled : key.text.toList = key.field.toList ++ ([' '] ++ key.direction.text.toList) := by
    simp [SortKey.text]
  rw [spelled]
  refine ⟨_, fieldRead.append ((spells_blank _).append directionRead), fun tokens shown => ?_⟩
  obtain ⟨name, _, rfl, isName, isField, behindName⟩ := exists_token_of_map_lexeme shown
  obtain ⟨word, _, rfl, isDirection, -, behind⟩ := exists_token_of_map_lexeme behindName
  obtain rfl := List.map_eq_nil_iff.mp behind
  obtain ⟨direction, directionTokens, means⟩ := derives word isDirection
  refine ⟨⟨name, isName, direction⟩, ?_, ?_⟩
  · rw [Key.tokens, directionTokens]
  · rw [Key.meaning, means, isField]

/-- Sort keys are read as lexemes from which they are derived. -/
theorem exists_spells_keys (keys : List SortKey) (nonempty : keys ≠ [])
    (named : ∀ key ∈ keys, IsFieldName key.field) (ends : Ends rest) :
    ∃ lexemes, Spells (sortText keys).toList lexemes rest ∧
      ∀ tokens : List Token, tokens.map Token.lexeme = lexemes →
        ∃ derived : List Key, derived.flatMap Key.tokens = tokens ∧
          derived.map Key.meaning = keys := by
  induction keys with
  | nil => exact absurd rfl nonempty
  | cons key keys ih =>
      have isName := named key List.mem_cons_self
      cases keys with
      | nil =>
          obtain ⟨lexemes, read, derives⟩ := exists_spells_key key isName ends.word
          refine ⟨lexemes, by simpa [sortText] using read, fun tokens shown => ?_⟩
          obtain ⟨derived, rfl, rfl⟩ := derives tokens shown
          exact ⟨[derived], by simp, rfl⟩
      | cons next keys =>
          obtain ⟨others, othersRead, othersDerive⟩ := ih (List.cons_ne_nil _ _)
            fun other member => named other (List.mem_cons_of_mem _ member)
          have separated := (spells_comma _).append ((spells_blank _).append othersRead)
          obtain ⟨lexemes, read, derives⟩ := exists_spells_key key isName
            (ends_comma ([' '] ++ (sortText (next :: keys)).toList ++ rest)).word
          have spelled : (sortText (key :: next :: keys)).toList =
              key.text.toList ++ ([','] ++ ([' '] ++ (sortText (next :: keys)).toList)) := by
            simp [sortText, String.intercalate_cons_cons]
          rw [spelled]
          refine ⟨_, read.append separated, fun tokens shown => ?_⟩
          obtain ⟨front, back, rfl, frontShown, backShown⟩ := List.map_eq_append_iff.mp shown
          obtain ⟨derived, rfl, rfl⟩ := derives front frontShown
          obtain ⟨more, rfl, means⟩ := othersDerive back backShown
          exact ⟨derived :: more, rfl, by rw [List.map_cons, means]⟩

/-- A clause as a query has it. -/
inductive WrittenClause
  | sort (keys : List SortKey) (nonempty : keys ≠ [])
  | group (field : String)

namespace WrittenClause

def clause : WrittenClause → Clause
  | sort .. => .sort
  | group _ => .group

def text : WrittenClause → String
  | sort keys _ => "sort by " ++ sortText keys
  | group field => "group by " ++ field

/-- What a clause adds to a query. -/
def apply (query : Query) : WrittenClause → Query
  | sort keys _ => { query with sort := keys }
  | group field => { query with group := some field }

/-- The fields of a clause have names. -/
def NamesFields : WrittenClause → Prop
  | sort keys _ => ∀ key ∈ keys, IsFieldName key.field
  | group field => IsFieldName field

/-- A clause may follow any part of a query. -/
theorem ends (written : WrittenClause) (rest : List Char) :
    Ends (' ' :: (written.text.toList ++ rest)) := by
  cases written with
  | sort keys nonempty =>
      have ends := @ends_blank_append ['s', 'o', 'r', 't']
        (' ' :: 'b' :: 'y' :: ' ' :: ((sortText keys).toList ++ rest)) (by decide) (by decide)
        (wordStops_blank _) (by decide)
      simpa [text] using ends
  | group field =>
      have ends := @ends_blank_append ['g', 'r', 'o', 'u', 'p']
        (' ' :: 'b' :: 'y' :: ' ' :: (field.toList ++ rest)) (by decide) (by decide)
        (wordStops_blank _) (by decide)
      simpa [text] using ends

/-- The word `by` between blanks, behind the first word of a clause. -/
theorem spells_by {cs : List Char} {lexemes : List Lexeme} (read : Spells cs lexemes rest) :
    Spells ([' '] ++ (['b', 'y'] ++ ([' '] ++ cs))) (⟨.keyword .byWord, "by"⟩ :: lexemes) rest := by
  have byRead := @spells_lone 'b' ['y'] (' ' :: (cs ++ rest)) rfl (by decide) (wordStops_blank _)
    (by decide)
  exact (spells_blank _).append (byRead.append ((spells_blank _).append read))

theorem exists_spells (written : WrittenClause) (named : written.NamesFields) (ends : Ends rest) :
    ∃ lexemes, Spells written.text.toList lexemes rest ∧
      ∀ tokens : List Token, tokens.map Token.lexeme = lexemes →
        ∃ derived : ClauseDerivation, derived.tokens = tokens ∧
          derived.clause = written.clause ∧ ∀ query, derived.apply query = written.apply query := by
  cases written with
  | sort keys nonempty =>
      obtain ⟨lexemes, keysRead, derives⟩ := exists_spells_keys keys nonempty named ends
      have sortRead := @spells_lone 's' ['o', 'r', 't'] _ rfl (by decide)
        (wordStops_blank (['b', 'y'] ++ ([' '] ++ (sortText keys).toList) ++ rest)) (by decide)
      have spelled : (text (.sort keys nonempty)).toList =
          ['s', 'o', 'r', 't'] ++ ([' '] ++ (['b', 'y'] ++ ([' '] ++ (sortText keys).toList))) := by
        simp [text]
      rw [spelled]
      refine ⟨_, sortRead.append (spells_by keysRead), fun tokens shown => ?_⟩
      obtain ⟨word, _, rfl, isSort, -, behindWord⟩ := exists_token_of_map_lexeme shown
      obtain ⟨byWord, others, rfl, isBy, -, behindBy⟩ := exists_token_of_map_lexeme behindWord
      obtain ⟨derived, rfl, rfl⟩ := derives others behindBy
      have someKey : derived ≠ [] := mt List.map_eq_nil_iff.mpr nonempty
      exact ⟨.sort word byWord isSort isBy derived someKey, rfl, rfl, fun query => rfl⟩
  | group field =>
      have fieldRead := (isFieldName_iff.mp named).spells ends.word ends.ne_on
      rw [String.ofList_toList] at fieldRead
      have groupRead := @spells_lone 'g' ['r', 'o', 'u', 'p'] _ rfl (by decide)
        (wordStops_blank (['b', 'y'] ++ ([' '] ++ field.toList) ++ rest)) (by decide)
      have spelled : (text (.group field)).toList =
          ['g', 'r', 'o', 'u', 'p'] ++ ([' '] ++ (['b', 'y'] ++ ([' '] ++ field.toList))) := by
        simp [text]
      rw [spelled]
      refine ⟨_, groupRead.append (spells_by fieldRead), fun tokens shown => ?_⟩
      obtain ⟨word, _, rfl, isGroup, -, behindWord⟩ := exists_token_of_map_lexeme shown
      obtain ⟨byWord, _, rfl, isBy, -, behindBy⟩ := exists_token_of_map_lexeme behindWord
      obtain ⟨name, _, rfl, isName, rfl, behind⟩ := exists_token_of_map_lexeme behindBy
      obtain rfl := List.map_eq_nil_iff.mp behind
      exact ⟨.group word byWord name isGroup isBy isName, rfl, rfl, fun query => rfl⟩

end WrittenClause

/-- Clauses as they stand behind a filter. -/
def clausesText (clauses : List WrittenClause) : List Char :=
  clauses.flatMap fun written => ' ' :: written.text.toList

theorem ends_clausesText (clauses : List WrittenClause) : Ends (clausesText clauses) := by
  cases clauses with
  | nil => exact ends_nil
  | cons written clauses => exact written.ends (clausesText clauses)

theorem exists_spells_clauses (clauses : List WrittenClause)
    (named : ∀ written ∈ clauses, written.NamesFields) :
    ∃ lexemes, Spells (clausesText clauses) lexemes [] ∧
      ∀ tokens : List Token, tokens.map Token.lexeme = lexemes →
        ∃ derived : List ClauseDerivation, derived.flatMap ClauseDerivation.tokens = tokens ∧
          derived.map ClauseDerivation.clause = clauses.map WrittenClause.clause ∧
          ∀ query, derived.foldl ClauseDerivation.apply query =
            clauses.foldl WrittenClause.apply query := by
  induction clauses with
  | nil =>
      refine ⟨[], spells_nil [], fun tokens shown => ⟨[], ?_, rfl, fun query => rfl⟩⟩
      exact (List.map_eq_nil_iff.mp shown).symm
  | cons written clauses ih =>
      obtain ⟨others, othersRead, othersDerive⟩ :=
        ih fun other member => named other (List.mem_cons_of_mem _ member)
      have ends : Ends (clausesText clauses ++ []) := by
        rw [List.append_nil]
        exact ends_clausesText clauses
      obtain ⟨lexemes, read, derives⟩ :=
        written.exists_spells (named written List.mem_cons_self) ends
      refine ⟨lexemes ++ others, (spells_blank _).append (read.append othersRead),
        fun tokens shown => ?_⟩
      obtain ⟨front, back, rfl, frontShown, backShown⟩ := List.map_eq_append_iff.mp shown
      obtain ⟨first, rfl, sameClause, sameEffect⟩ := derives front frontShown
      obtain ⟨more, rfl, sameClauses, sameEffects⟩ := othersDerive back backShown
      refine ⟨first :: more, rfl, ?_, fun query => ?_⟩
      · rw [List.map_cons, List.map_cons, sameClause, sameClauses]
      · rw [List.foldl_cons, List.foldl_cons, sameEffect, sameEffects]

/-! ## Queries -/

namespace Query

/-- The clauses of a query, in the order in which they are written. -/
def writtenClauses (query : Query) : List WrittenClause :=
  (if nonempty : query.sort ≠ [] then [.sort query.sort nonempty] else []) ++
    (query.group.map WrittenClause.group).toList

theorem foldl_apply_writtenClauses (query : Query) :
    query.writtenClauses.foldl WrittenClause.apply { filter := query.filter } = query := by
  obtain ⟨filter, sort, group⟩ := query
  cases sort <;> cases group <;> rfl

theorem pairwise_clause_writtenClauses (query : Query) :
    (query.writtenClauses.map WrittenClause.clause).Pairwise (· ≠ ·) := by
  obtain ⟨filter, sort, group⟩ := query
  cases sort <;> cases group <;> simp [writtenClauses, WrittenClause.clause]

theorem namesFields_of_mem_writtenClauses {query : Query} (named : query.NamesFields) :
    ∀ written ∈ query.writtenClauses, written.NamesFields := by
  intro written member
  rcases List.mem_append.mp member with isSort | isGroup
  · split at isSort
    · obtain rfl := List.mem_singleton.mp isSort
      exact named.sort
    · cases isSort
  · rw [Option.mem_toList, Option.map_eq_some_iff] at isGroup
    obtain ⟨field, isField, rfl⟩ := isGroup
    exact named.group field isField

theorem toList_intercalate_cons (text : String) (texts : List String) :
    (" ".intercalate (text :: texts)).toList =
      text.toList ++ texts.flatMap fun other => ' ' :: other.toList := by
  induction texts generalizing text with
  | nil => simp
  | cons next texts ih =>
      rw [String.intercalate_cons_cons, String.toList_append, ih, List.flatMap_cons]
      simp

theorem text_eq (query : Query) :
    query.text = " ".intercalate
      ((query.filter.map Filter.text).toList ++ query.writtenClauses.map WrittenClause.text) := by
  obtain ⟨filter, sort, group⟩ := query
  cases sort <;> cases group <;> simp [Query.text, writtenClauses, WrittenClause.text]

/-- A leading blank is not shown, so a query without a filter may be taken to start with
one. -/
theorem scan_text (query : Query) :
    scan query.text.toList =
      scan (query.filter.elim [] (fun filter => filter.text.toList) ++
        clausesText query.writtenClauses) := by
  rw [text_eq]
  cases query.filter with
  | some filter =>
      simp only [Option.map_some, Option.toList_some, List.singleton_append,
        toList_intercalate_cons, Option.elim, clausesText, List.flatMap_map]
  | none =>
      cases query.writtenClauses with
      | nil => rfl
      | cons written clauses =>
          have blank := spells_blank (written.text.toList ++ clausesText clauses)
          rw [Spells, List.map_nil, List.nil_append] at blank
          simp only [Option.map_none, Option.toList_none, List.nil_append, List.map_cons,
            toList_intercalate_cons, Option.elim, List.flatMap_map]
          exact blank.symm

/-- The text of a query is read without stray characters as tokens from which the query is
derived. -/
theorem exists_derivation_of_text (vocabulary : Vocabulary) (query : Query)
    (named : query.NamesFields) :
    ∃ (derivation : QueryDerivation vocabulary) (finish : Nat),
      tokenize query.text = ⟨derivation.tokens ++ [⟨.endOfInput, "", finish⟩], []⟩ ∧
        derivation.query = query := by
  obtain ⟨clauseLexemes, clausesRead, clausesDerive⟩ :=
    exists_spells_clauses query.writtenClauses (namesFields_of_mem_writtenClauses named)
  have once := pairwise_clause_writtenClauses query
  have shown := scan_text query
  have whole := foldl_apply_writtenClauses query
  have clausesShown : scan (clausesText query.writtenClauses) = clauseLexemes.map some := by
    rw [Spells, List.append_nil, scan_nil, List.append_nil] at clausesRead
    exact clausesRead
  have derived {tokens : List Token} (clauseShown : tokens.map Token.lexeme = clauseLexemes) :
      ∃ derived : List ClauseDerivation, derived.flatMap ClauseDerivation.tokens = tokens ∧
        (derived.Pairwise fun first second => first.clause ≠ second.clause) ∧
        derived.foldl ClauseDerivation.apply { filter := query.filter } = query := by
    obtain ⟨derived, spelled, sameClauses, sameEffects⟩ := clausesDerive tokens clauseShown
    refine ⟨derived, spelled, ?_, ?_⟩
    · rw [← sameClauses, List.pairwise_map] at once
      exact once
    · rw [sameEffects, whole]
  cases hasFilter : query.filter with
  | none =>
      rw [hasFilter] at shown derived
      rw [Option.elim, List.nil_append, clausesShown] at shown
      obtain ⟨tokens, finish, lexed, lexemes⟩ := exists_tokens_of_shown shown 0
      obtain ⟨clauses, rfl, once, means⟩ := derived lexemes
      exact ⟨⟨none, clauses, once⟩, finish, lexed, means⟩
  | some filter =>
      have namedFilter : filter.NamesFields := by
        intro comparison member
        apply named.comparisons
        rw [comparisons, hasFilter]
        exact member
      have written : IsWritten vocabulary filter.text filter := filter.isWritten namedFilter
      obtain ⟨filterLexemes, filterRead, filterDerives⟩ :=
        written _ (ends_clausesText query.writtenClauses)
      rw [hasFilter] at shown derived
      rw [Option.elim, filterRead, clausesShown, ← List.map_append] at shown
      obtain ⟨tokens, finish, lexed, lexemes⟩ := exists_tokens_of_shown shown 0
      obtain ⟨front, back, rfl, frontShown, backShown⟩ := List.map_eq_append_iff.mp lexemes
      obtain ⟨operand, rfl, rfl⟩ := filterDerives front frontShown
      obtain ⟨clauses, rfl, once, means⟩ := derived backShown
      refine ⟨⟨some (.disjunction (.conjunction operand .endAnd) .endOr), clauses, once⟩, finish,
        ?_, means⟩
      rw [tokenize, lexed]
      simp [QueryDerivation.tokens, Derivation.tokens]

end Query

/-- A report about a pattern that is no pattern. -/
def Diagnostic.IsInvalidPattern : Diagnostic → Prop
  | .invalidPattern _ _ => True
  | _ => False

theorem isInvalidPattern_patternDiagnostics (query : Query) :
    ∀ diagnostic ∈ query.patternDiagnostics, diagnostic.IsInvalidPattern := by
  intro diagnostic reported
  obtain ⟨pattern, -, found⟩ := List.mem_filterMap.mp reported
  split at found
  · cases found
  · obtain rfl := Option.some.inj found
    exact trivial

/-- A query whose fields have names is read back from its text, with no more reports than
the vocabulary and the patterns give. -/
theorem Query.parse_text_eq (vocabulary : Vocabulary) (query : Query) (named : query.NamesFields) :
    (Query.parse vocabulary query.text).query = query ∧
      ∀ diagnostic ∈ (Query.parse vocabulary query.text).diagnostics,
        diagnostic.IsUnknownField ∨ diagnostic.IsInvalidPattern := by
  obtain ⟨derivation, finish, lexed, means⟩ := query.exists_derivation_of_text vocabulary named
  have accepted := derivation.readQuery_accepts finish
  have isEnd : (⟨.endOfInput, "", finish⟩ : Token).kind = .endOfInput := rfl
  rw [← parseTokens_append_marker isEnd, means] at accepted
  rw [Query.parse, lexed]
  refine ⟨accepted.query_eq, fun diagnostic reported => ?_⟩
  rw [List.map_nil, List.nil_append] at reported
  rcases List.mem_append.mp reported with reported | reported
  · exact Or.inl (accepted.clean diagnostic reported)
  · exact Or.inr (isInvalidPattern_patternDiagnostics _ diagnostic reported)

/-- Writing and reading are inverse on all queries whose fields have names, for any
vocabulary, and every query that is read from a text is one of them. So reading, writing
and reading again gives what was read first. -/
theorem parse_text_roundTrip :
    (∀ (vocabulary : Vocabulary) (query : Query), query.NamesFields →
      (Query.parse vocabulary query.text).query = query ∧
      ∀ diagnostic ∈ (Query.parse vocabulary query.text).diagnostics,
        diagnostic.IsUnknownField ∨ diagnostic.IsInvalidPattern) ∧
    (∀ (vocabulary : Vocabulary) (input : String),
      (Query.parse vocabulary input).query.NamesFields) ∧
    ∀ (vocabulary other : Vocabulary) (input : String),
      (Query.parse other (Query.parse vocabulary input).query.text).query =
        (Query.parse vocabulary input).query := by
  refine ⟨Query.parse_text_eq, Query.parse_namesFields, fun vocabulary other input => ?_⟩
  exact (Query.parse_text_eq other _ (Query.parse_namesFields vocabulary input)).1

/-- A value that is a reserved word comes back, and so does a quote behind a backslash. -/
theorem parse_text_roundTrip_quoted :
    let query : Query :=
      { filter := some (.and (.comparison "a" .is "not") (.not (.comparison "1" .before "\\\"")))
        sort := [⟨"depends", .desc⟩], group := some "on" }
    query.NamesFields ∧ (Query.parse .default query.text).query = query := by
  intro query
  have name (first : Char) (more : List Char) (isAlpha : first.isAlpha = true)
      (isWord : more.all isWordChar = true) (plain : isReserved (first :: more) = false) :
      IsFieldName (String.ofList (first :: more)) := by
    rw [isFieldName_iff, String.toList_ofList]
    exact .word isAlpha isWord plain
  have one : IsFieldName "1" := isFieldName_iff.mpr (.number rfl (by simp) rfl)
  have named : query.NamesFields := by
    refine ⟨?_, ?_, ?_⟩
    · intro comparison member
      rcases List.mem_cons.mp member with rfl | member
      · exact name 'a' [] rfl (by simp) (by decide)
      · obtain rfl := List.mem_singleton.mp member
        exact one
    · intro key member
      obtain rfl := List.mem_singleton.mp member
      exact name 'd' ['e', 'p', 'e', 'n', 'd', 's'] rfl (by decide) (by decide)
    · intro field isField
      obtain rfl := Option.some.inj isField
      exact name 'o' ['n'] rfl (by decide) (by decide)
  exact ⟨named, (parse_text_roundTrip.1 .default query named).1⟩

end TaskQuery

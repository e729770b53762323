/-
# Plain queries

A query that is read from plain text is plain in all its parts, and so is everything that is
told about it. Field names, values and what diagnostics quote are taken from the tokens, whose
texts are parts of the text. The one thing that comes from elsewhere is the name of a field
that a diagnostic suggests. It is one of the names that the vocabulary offers, so these have
to be plain too.
-/

import TaskQuery.Proofs.LiteralEnds
import TaskQuery.Proofs.OfferedNames
import TaskQuery.Proofs.PlainPatterns
import TaskQuery.Proofs.RelatedReadings

namespace TaskQuery

/-! ## Tokens -/

theorem Literal.not_mem_contents {quote : Char} {cs : List Char} (plain : '\x1b' ∉ cs)
    (held : Nat) : '\x1b' ∉ (Literal.read quote held cs).contents := by
  have noSlash (count : Nat) : '\x1b' ∉ List.replicate count '\\' :=
    not_mem_replicate (by decide) count
  induction cs generalizing held with
  | nil => exact noSlash held
  | cons c cs ih =>
      obtain ⟨isFirst, others⟩ := List.ne_and_not_mem_of_not_mem_cons plain
      have later (count held : Nat) :
          '\x1b' ∉ List.replicate count '\\' ++ c :: (Literal.read quote held cs).contents := by
        rw [List.mem_append, List.mem_cons]
        exact not_or.mpr ⟨noSlash count, not_or.mpr ⟨isFirst, ih others held⟩⟩
      rw [Literal.read]
      split
      · exact ih others (held + 1)
      split
      · split
        · exact noSlash (held / 2)
        · exact later (held / 2) 0
      · exact later held 0

/-- What a piece shows is plain. -/
def Piece.IsPlain : Piece → Prop
  | layout _ => True
  | stray c => c ≠ '\x1b'
  | token _ text _ => '\x1b' ∉ text

theorem Piece.isPlain_next {first : Char} {cs : List Char} (plain : '\x1b' ∉ first :: cs) :
    (next first cs).1.IsPlain := by
  have read := isRead_next first cs
  have whole := next_source first cs
  cases piece : (next first cs).1 with
  | layout c => trivial
  | stray c =>
      rw [piece] at whole
      rintro rfl
      exact plain (whole ▸ List.mem_cons_self)
  | token kind text source =>
      rw [piece] at read whole
      obtain ⟨-, -, spans⟩ := read
      split at spans
      · -- only a quote starts a literal, so the piece is what is read after it
        obtain ⟨quote, body, isQuote, -, starts⟩ := spans
        obtain rfl : quote = first := by
          rcases starts with ⟨rfl, -⟩ | ⟨rfl, -⟩ <;> exact (List.cons.inj whole).1
        rw [next_of_isQuote isQuote] at piece
        obtain ⟨-, rfl, -⟩ := token.inj piece
        exact Literal.not_mem_contents (fun escape => plain (List.mem_cons_of_mem _ escape)) 0
      · subst spans
        exact fun escape => plain (whole ▸ List.mem_append_left _ escape)

theorem Piece.isPlain_of_mem_all {cs : List Char} (plain : '\x1b' ∉ cs) {piece : Piece}
    (member : piece ∈ all cs) : piece.IsPlain := by
  induction cs using Piece.all.induct with
  | case1 =>
      rw [all] at member
      cases member
  | case2 first cs ih =>
      have whole := next_source first cs
      rw [all] at member
      rcases List.mem_cons.mp member with rfl | member
      · exact isPlain_next plain
      · refine ih (fun escape => plain ?_) member
        exact whole ▸ List.mem_append_right _ escape

/-- The texts of some tokens are plain. -/
def PlainTokens (tokens : List Token) : Prop :=
  ∀ token ∈ tokens, IsPlain token.text

/-- What was read is plain, whether it means something or not. -/
structure Lexed.IsPlain (lexed : Lexed) : Prop where
  tokens : PlainTokens lexed.tokens
  strays : ∀ stray ∈ lexed.strays, stray.character ≠ '\x1b'

theorem Lexed.isPlain_ofPieces {pieces : List Piece} (plain : ∀ piece ∈ pieces, piece.IsPlain)
    (position : Nat) : (ofPieces position pieces).IsPlain := by
  induction pieces generalizing position with
  | nil =>
      refine ⟨fun token member => ?_, fun stray member => by cases member⟩
      obtain rfl := List.mem_singleton.mp member
      exact .literal rfl
  | cons piece pieces ih =>
      obtain ⟨isFirst, others⟩ := List.forall_mem_cons.mp plain
      have later := ih others (position + Text.byteLength piece.source)
      cases piece with
      | layout c => exact later
      | stray c => exact ⟨later.tokens, List.forall_mem_cons.mpr ⟨isFirst, later.strays⟩⟩
      | token kind text source =>
          exact ⟨List.forall_mem_cons.mpr ⟨.ofList isFirst, later.tokens⟩, later.strays⟩

theorem isPlain_tokenize {input : String} (plain : IsPlain input) : (tokenize input).IsPlain :=
  Lexed.isPlain_ofPieces (fun _ => Piece.isPlain_of_mem_all plain) 0

/-! ## Filters and diagnostics -/

/-- A dependency check asks about a plain text. -/
def DependencyCheck.IsPlain : DependencyCheck → Prop
  | dependsOn target | blocks target => TaskQuery.IsPlain target
  | _ => True

/-- A filter names plain fields and values. -/
def Filter.IsPlain : Filter → Prop
  | comparison field _ value => TaskQuery.IsPlain field ∧ TaskQuery.IsPlain value
  | and left right | or left right => left.IsPlain ∧ right.IsPlain
  | not operand => operand.IsPlain
  | dependency check => check.IsPlain

/-- A query is plain in all its parts. -/
structure Query.IsPlain (query : Query) : Prop where
  filter : ∀ filter ∈ query.filter, filter.IsPlain
  sort : ∀ key ∈ query.sort, TaskQuery.IsPlain key.field
  group : ∀ field ∈ query.group, TaskQuery.IsPlain field

/-- The wordings of some diagnostics are plain. -/
def TellsPlain [Pattern.Wording] (diagnostics : List Diagnostic) : Prop :=
  ∀ diagnostic ∈ diagnostics, IsPlain diagnostic.message

/-- The names that a vocabulary offers are plain. -/
def Vocabulary.OffersPlain (vocabulary : Vocabulary) : Prop :=
  ∀ name ∈ vocabulary.fieldNames, IsPlain name

variable {vocabulary : Vocabulary} {endPosition : Nat} {tokens : List Token}

namespace TellsPlain

variable [Pattern.Wording]

theorem none : TellsPlain [] := by
  intro diagnostic member
  cases member

theorem one {diagnostic : Diagnostic} (plain : IsPlain diagnostic.message) :
    TellsPlain [diagnostic] :=
  List.forall_mem_singleton.mpr plain

theorem append {first second : List Diagnostic} (isFirst : TellsPlain first)
    (isSecond : TellsPlain second) : TellsPlain (first ++ second) :=
  List.forall_mem_append.mpr ⟨isFirst, isSecond⟩

theorem unexpectedEnd (position : Nat) : TellsPlain [.unexpectedEndOfInput position] :=
  one (.append (.literal rfl) (isPlain_nat position))

theorem unexpectedToken {text : String} (plain : IsPlain text) (position : Nat) :
    TellsPlain [.unexpectedToken text position] :=
  one (.append (.append (.append (.literal rfl) plain) (.literal rfl)) (isPlain_nat position))

theorem unexpected {token : Token} (plain : IsPlain token.text) :
    TellsPlain [.unexpected token] := by
  rw [Diagnostic.unexpected]
  split
  · exact unexpectedEnd _
  · exact unexpectedToken plain _

theorem missingValue {field operator : String} (isField : IsPlain field)
    (isOperator : IsPlain operator) : TellsPlain [.missingValue field operator] :=
  one (.append (.append (.append (.append (.literal rfl) isField) (.literal rfl)) isOperator)
    (.literal rfl))

theorem missingOperator {field : String} (plain : IsPlain field) :
    TellsPlain [.missingOperator field] :=
  one (.append (.append (.literal rfl) plain) (.literal rfl))

theorem unclosedParenthesis (position : Nat) : TellsPlain [.unclosedParenthesis position] :=
  one (.append (.literal rfl) (isPlain_nat position))

theorem duplicateClause (clause : Clause) : TellsPlain [.duplicateClause clause] := by
  cases clause <;> exact one (.append (.append (.literal rfl) (.literal rfl)) (.literal rfl))

theorem fieldDiagnostics {field : String} (offers : vocabulary.OffersPlain)
    (plain : IsPlain field) : TellsPlain (vocabulary.fieldDiagnostics field) := by
  rw [Vocabulary.fieldDiagnostics]
  split
  · exact none
  · cases suggested : vocabulary.suggestField field with
    | none => exact one (.append (.append (.literal rfl) plain) (.literal rfl))
    | some name =>
        have isOffered := offers name (Vocabulary.mem_fieldNames_of_suggestField suggested)
        exact one (.append (.append (.append (.append (.literal rfl) plain) (.literal rfl))
          isOffered) (.literal rfl))

end TellsPlain

/-! ## Reading -/

theorem isPlain_of_stateFilter? {operator : Operator} {word : String} {filter : Filter}
    (found : stateFilter? operator word = some filter) : filter.IsPlain := by
  rw [stateFilter?.eq_def] at found
  split at found <;> cases found
  · trivial
  · trivial
  · trivial
  · trivial

/-- The filters that the rules make of plain texts are plain. -/
def ValueRelation.plain (vocabulary : Vocabulary) :
    ValueRelation (.self vocabulary fun token => IsPlain token.text) where
  filter filter _ := filter.IsPlain
  name name _ := IsPlain name
  state := by
    rintro word _ ⟨rfl, -⟩ - operator
    cases found : stateFilter? operator word.text with
    | none => exact .none
    | some filter => exact .some (isPlain_of_stateFilter? found)
  check := by
    rintro target _ ⟨rfl, plain⟩ - relation
    cases relation <;> exact plain
  comparison fields _ values _ _ := ⟨fields.2, values.2⟩
  statusWord fields _ := ⟨.literal rfl, fields.2.lowercase⟩
  not plain := plain
  and left right := ⟨left, right⟩
  or left right := ⟨left, right⟩
  field fields _ := fields.2

/-- What the rules tell about plain texts is plain. -/
def ReportRelation.plain [Pattern.Wording] (offers : vocabulary.OffersPlain) (endPosition : Nat) :
    ReportRelation (.self vocabulary fun token => IsPlain token.text) endPosition endPosition where
  tells diagnostics _ := TellsPlain diagnostics
  silence := .none
  append front back := front.append back
  textEnd _ := .unexpectedEnd endPosition
  unexpected words := .unexpected words.2
  missingTarget words _ := .missingValue (.literal rfl) words.2
  missingValue fields _ signs _ := .missingValue fields.2 signs.2
  missingOperator fields _ := .missingOperator fields.2
  unclosedParenthesis _ _ := .unclosedParenthesis _
  duplicateClause := .duplicateClause
  field fields _ := .fieldDiagnostics offers fields.2

/-- A query is plain in all its parts, and so is what is told about it. -/
structure Outcome.IsPlain [Pattern.Wording] (outcome : Outcome) : Prop where
  query : outcome.query.IsPlain
  tells : TellsPlain outcome.diagnostics

theorem readQuery_plain [Pattern.Wording] (offers : vocabulary.OffersPlain)
    (plain : PlainTokens tokens) : (readQuery vocabulary endPosition tokens).IsPlain := by
  obtain ⟨queries, tells⟩ := readQuery_related (.plain vocabulary) (.plain offers endPosition)
    (TokenRelation.tokens_self plain)
  exact ⟨⟨forall_mem_of_rel queries.filters, ValueRelation.forall_mem_of_keys id queries.sorts,
    forall_mem_of_rel queries.groups⟩, tells⟩

theorem Query.parseTokens_plain [Pattern.Wording] (offers : vocabulary.OffersPlain)
    (plain : PlainTokens tokens) : (Query.parseTokens vocabulary tokens).IsPlain := by
  obtain ⟨endPosition, front, reads, ends⟩ := Query.exists_parseTokens_eq vocabulary tokens
  rw [reads]
  rcases ends with rfl | ⟨marker, -, rfl⟩
  · exact readQuery_plain offers plain
  · exact readQuery_plain offers fun token member => plain token (List.mem_append_left _ member)

theorem mem_of_mem_patterns {filter : Filter} {pattern : String}
    (plain : filter.IsPlain) (member : pattern ∈ filter.patterns) : IsPlain pattern := by
  obtain ⟨comparison, kept, rfl⟩ := List.mem_map.mp member
  have isComparison := (List.mem_filter.mp kept).1
  clear member kept
  induction filter with
  | comparison field operator value =>
      obtain rfl := List.mem_singleton.mp isComparison
      exact plain.2
  | and left right isLeft isRight =>
      rcases List.mem_append.mp isComparison with first | second
      · exact isLeft plain.1 first
      · exact isRight plain.2 second
  | or left right isLeft isRight =>
      rcases List.mem_append.mp isComparison with first | second
      · exact isLeft plain.1 first
      · exact isRight plain.2 second
  | not operand ih => exact ih plain isComparison
  | dependency check => cases isComparison

theorem Query.IsPlain.pattern {query : Query} (plain : query.IsPlain) {pattern : String}
    (member : pattern ∈ query.filter.elim [] Filter.patterns) : TaskQuery.IsPlain pattern := by
  cases filter : query.filter with
  | none =>
      rw [filter] at member
      cases member
  | some found =>
      rw [filter] at member
      exact mem_of_mem_patterns (plain.filter found filter) member

theorem Query.IsPlain.patternDiagnostics [Pattern.Wording] (refuses : Pattern.RefusesPlainly)
    {query : Query} (plain : query.IsPlain) : TellsPlain query.patternDiagnostics := by
  intro diagnostic member
  obtain ⟨pattern, isPattern, refused⟩ := List.mem_filterMap.mp member
  have isPlain := plain.pattern isPattern
  split at refused
  · cases refused
  · cases refused
    have cause := refuses.reason isPlain ‹_›
    exact .append (.append (.append (.literal rfl) isPlain) (.literal rfl)) cause

/-- What is read from a plain text is plain, and so is what is told about it. -/
theorem Query.parse_isPlain [Pattern.Wording] (refuses : Pattern.RefusesPlainly) {input : String}
    (offers : vocabulary.OffersPlain) (plain : TaskQuery.IsPlain input) :
    (Query.parse vocabulary input).IsPlain := by
  have lexed := isPlain_tokenize plain
  have read := Query.parseTokens_plain offers lexed.tokens
  refine ⟨read.query,
    (TellsPlain.append ?_ read.tells).append (read.query.patternDiagnostics refuses)⟩
  refine List.forall_mem_map.mpr fun stray member => ?_
  exact .append (.append (.append (.literal rfl) (.singleton (lexed.strays stray member)))
    (.literal rfl)) (isPlain_nat _)

/-! ## Settings -/

/-- Settings are plain in all their parts. -/
structure Settings.IsPlain (settings : Settings) : Prop where
  tasksFile : ∀ path ∈ settings.tasksFile, TaskQuery.IsPlain path
  customFields : ∀ name ∈ settings.customFields, TaskQuery.IsPlain name
  aliases : ∀ entry ∈ settings.aliases,
    TaskQuery.IsPlain entry.1 ∧ TaskQuery.IsPlain entry.2
  queries : ∀ entry ∈ settings.queries,
    TaskQuery.IsPlain entry.1 ∧ TaskQuery.IsPlain entry.2

namespace Vocabulary

/-- The names of a vocabulary that are not those of record fields are plain. -/
structure NamesPlain (vocabulary : Vocabulary) : Prop where
  aliases : ∀ entry ∈ vocabulary.aliases, TaskQuery.IsPlain entry.1
  customFields : ∀ name ∈ vocabulary.customFields, TaskQuery.IsPlain name

theorem namesPlain_default : default.NamesPlain := by
  refine ⟨?_, List.forall_mem_nil _⟩
  unfold TaskQuery.IsPlain
  decide +kernel

theorem NamesPlain.withAlias {short : String} (names : vocabulary.NamesPlain)
    (plain : TaskQuery.IsPlain short) (canonical : String) :
    (vocabulary.withAlias short canonical).NamesPlain :=
  ⟨List.forall_mem_cons.mpr ⟨plain.lowercase, names.aliases⟩, names.customFields⟩

theorem NamesPlain.withCustomField {name : String} (names : vocabulary.NamesPlain)
    (plain : TaskQuery.IsPlain name) : (vocabulary.withCustomField name).NamesPlain :=
  ⟨names.aliases, List.forall_mem_cons.mpr ⟨plain, names.customFields⟩⟩

theorem NamesPlain.offersPlain (names : vocabulary.NamesPlain) : vocabulary.OffersPlain := by
  have records : ∀ name ∈ recordFields, TaskQuery.IsPlain name := by
    unfold TaskQuery.IsPlain
    decide +kernel
  intro name offered
  rw [fieldNames, List.mem_mergeSort, List.mem_eraseDups] at offered
  rcases List.mem_append.mp offered with known | custom
  · rcases List.mem_append.mp known with record | short
    · exact records name record
    · obtain ⟨entry, member, rfl⟩ := List.mem_map.mp short
      exact names.aliases entry member
  · exact names.customFields name custom

end Vocabulary

/-- Plain settings make a vocabulary that offers plain names. -/
theorem Settings.IsPlain.offersPlain {settings : Settings} (plain : settings.IsPlain) :
    settings.vocabulary.OffersPlain := by
  have aliased : (settings.aliases.foldl (fun vocabulary entry =>
      vocabulary.withAlias entry.1 entry.2) Vocabulary.default).NamesPlain :=
    List.foldlRecOn settings.aliases _ Vocabulary.namesPlain_default
      fun _ names entry member => names.withAlias (plain.aliases entry member).1 entry.2
  have named : settings.vocabulary.NamesPlain :=
    List.foldlRecOn settings.customFields Vocabulary.withCustomField aliased
      fun _ names name member => names.withCustomField (plain.customFields name member)
  exact named.offersPlain

end TaskQuery

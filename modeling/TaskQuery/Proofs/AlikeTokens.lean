/-
# Reading tokens that are alike

What a query is depends on little of the tokens that it is read from: on their kinds, and on
the texts of those that can be a value. So tokens whose texts are the same in some sense are
read as queries whose texts are the same in that sense. The sense has to respect what the
rules look at, and all they look at in a text is its lowered form, where they ask for the
words of a state or of a status.

Of a vocabulary the rules use the status words only. The two readings may have vocabularies
of their own, as long as these agree on the status words; what else is in them shows up in
the reports and not in the query.
-/

import TaskQuery.Proofs.RelatedReadings

namespace TaskQuery

/-! ## Alike queries -/

section Alike

variable (same : String → String → Prop)

/-- The checks ask the same, of targets that are the same. -/
inductive DependencyCheck.Alike : DependencyCheck → DependencyCheck → Prop
  | blocked : Alike .blocked .blocked
  | notBlocked : Alike .notBlocked .notBlocked
  | blocking : Alike .blocking .blocking
  | dependsOn {target other : String} (targets : same target other) :
      Alike (.dependsOn target) (.dependsOn other)
  | blocks {target other : String} (targets : same target other) :
      Alike (.blocks target) (.blocks other)

/-- The filters have one shape and the same operators, and at each place texts that are the
same. -/
inductive Filter.Alike : Filter → Filter → Prop
  | comparison {field otherField value otherValue : String} (operator : Operator)
      (fields : same field otherField) (values : same value otherValue) :
      Alike (.comparison field operator value) (.comparison otherField operator otherValue)
  | and {left otherLeft right otherRight : Filter} (lefts : Alike left otherLeft)
      (rights : Alike right otherRight) : Alike (.and left right) (.and otherLeft otherRight)
  | or {left otherLeft right otherRight : Filter} (lefts : Alike left otherLeft)
      (rights : Alike right otherRight) : Alike (.or left right) (.or otherLeft otherRight)
  | not {operand other : Filter} (operands : Alike operand other) :
      Alike (.not operand) (.not other)
  | dependency {check other : DependencyCheck} (checks : DependencyCheck.Alike same check other) :
      Alike (.dependency check) (.dependency other)

/-- The sort keys have the same direction and fields that are the same. -/
structure SortKey.Alike (first second : SortKey) : Prop where
  fields : same first.field second.field
  directions : first.direction = second.direction

/-- The queries are alike part by part: both or neither have a filter and a group key, and
they have equally many sort keys. -/
structure Query.Alike (first second : Query) : Prop where
  filters : Option.Rel (Filter.Alike same) first.filter second.filter
  sorts : List.Forall₂ (SortKey.Alike same) first.sort second.sort
  groups : Option.Rel same first.group second.group

/-- The tokens are of one kind and, where that kind can be a value, have texts that are the
same. -/
structure Token.Alike (first second : Token) : Prop where
  kinds : first.kind = second.kind
  texts : first.kind.isValue = true → same first.text second.text

end Alike

/-- The rules read texts alike that are the same in this sense, by one vocabulary and by the
other. -/
structure ReadsAlike (same : String → String → Prop) (first second : Vocabulary) : Prop where
  refl : ∀ text, same text text
  lowercase_eq : ∀ {text other}, same text other → Text.lowercase text = Text.lowercase other
  isStatusWord_eq : ∀ word, first.isStatusWord word = second.isStatusWord word

theorem DependencyCheck.Alike.eq {first second : DependencyCheck} (alike : first.Alike Eq second) :
    first = second := by
  cases alike <;> simp_all

theorem Filter.Alike.eq {first second : Filter} (alike : first.Alike Eq second) :
    first = second := by
  induction alike with
  | comparison operator fields values => rw [fields, values]
  | and _ _ left right => rw [left, right]
  | or _ _ left right => rw [left, right]
  | not _ operand => rw [operand]
  | dependency checks => rw [checks.eq]

theorem SortKey.Alike.eq {first second : SortKey} (alike : first.Alike Eq second) :
    first = second := by
  obtain ⟨fields, directions⟩ := alike
  cases first
  cases second
  simp_all

theorem Query.Alike.eq {first second : Query} (alike : first.Alike Eq second) :
    first = second := by
  obtain ⟨filter, sort, group⟩ := first
  obtain ⟨otherFilter, otherSort, otherGroup⟩ := second
  obtain ⟨filters, sorts, groups⟩ := alike
  dsimp only at filters sorts groups
  have sameSort : sort = otherSort :=
    List.forall₂_eq_eq_eq ▸ sorts.imp fun _ _ keys => keys.eq
  congr 1
  · cases filters with
    | some filters => rw [filters.eq]
    | none => rfl
  · cases groups with
    | some groups => rw [groups]
    | none => rfl

variable {same : String → String → Prop} {first second : Vocabulary}
  {endPosition otherEnd : Nat} {tokens others : List Token}

/-! ## Tokens and values -/

theorem TokenKind.isValue_of_eq_identifier {kind : TokenKind} (isName : kind = .identifier) :
    kind.isValue = true := by
  rw [isName]
  rfl

theorem stateFilter?_alike (readsAlike : ReadsAlike same first second) {operator : Operator}
    {word other : String} (words : same word other) :
    Option.Rel (Filter.Alike same) (stateFilter? operator word) (stateFilter? operator other) := by
  rw [stateFilter?.eq_def, stateFilter?.eq_def, readsAlike.lowercase_eq words]
  split
  · exact .some (.dependency .blocked)
  · exact .some (.dependency .notBlocked)
  · exact .some (.dependency .blocking)
  · exact .some (.not (.dependency .blocking))
  · exact .none

theorem Relation.check_alike (relation : Relation) {target other : String}
    (targets : same target other) :
    (relation.check target).Alike same (relation.check other) := by
  cases relation with
  | dependsOn => exact .dependsOn targets
  | blocks => exact .blocks targets

/-- The rules keep filters alike and names the same, if the tokens have texts that are. -/
def ValueRelation.alike {T : TokenRelation first second} (readsAlike : ReadsAlike same first second)
    (texts : ∀ {token other}, T.token token other → token.kind.isValue = true →
      same token.text other.text) : ValueRelation T where
  filter := Filter.Alike same
  name := same
  state words isName _ :=
    stateFilter?_alike readsAlike (texts words (TokenKind.isValue_of_eq_identifier isName))
  check targets isValue relation := .dependency (relation.check_alike (texts targets isValue))
  comparison fields isName values isValue operator :=
    .comparison operator (texts fields (TokenKind.isValue_of_eq_identifier isName))
      (texts values isValue)
  statusWord fields isName := by
    rw [readsAlike.lowercase_eq (texts fields (TokenKind.isValue_of_eq_identifier isName))]
    exact .comparison .is (readsAlike.refl _) (readsAlike.refl _)
  not := .not
  and := .and
  or := .or
  field fields isName := texts fields (TokenKind.isValue_of_eq_identifier isName)

theorem ValueRelation.Queries.alike {T : TokenRelation first second}
    {readsAlike : ReadsAlike same first second}
    {texts : ∀ {token other}, T.token token other → token.kind.isValue = true →
      same token.text other.text} {query other : Query}
    (queries : (ValueRelation.alike readsAlike texts).Queries query other) :
    query.Alike same other :=
  ⟨queries.filters, queries.sorts.imp fun _ _ keys => ⟨keys.fields, keys.directions⟩,
    queries.groups⟩

/-- Tokens that are alike, with no marker where they end. -/
def TokenRelation.alike (readsAlike : ReadsAlike same first second) :
    TokenRelation first second where
  token := Token.Alike same
  ended others := others = []
  kinds words := words.kinds
  kind_of_ended := kind_of_cons_eq_nil
  isStatusWord_eq fields isName := by
    have isValue := TokenKind.isValue_of_eq_identifier isName
    have lowered := readsAlike.lowercase_eq (fields.texts isValue)
    rw [← readsAlike.isStatusWord_eq, Vocabulary.isStatusWord, Vocabulary.isStatusWord, lowered]

theorem TokenRelation.tokens_alike (readsAlike : ReadsAlike same first second)
    (alike : List.Forall₂ (Token.Alike same) tokens others) :
    (TokenRelation.alike readsAlike).Tokens tokens others := by
  induction alike with
  | nil => exact .textEnd rfl
  | cons words _ ih => exact .cons words ih

/-! ## Queries -/

theorem readQuery_alike (readsAlike : ReadsAlike same first second)
    (alike : List.Forall₂ (Token.Alike same) tokens others) :
    (readQuery first endPosition tokens).query.Alike same
      (readQuery second otherEnd others).query := by
  let values : ValueRelation (.alike readsAlike) := .alike readsAlike fun words => words.texts
  have related := readQuery_related values (.any _ endPosition otherEnd)
    (TokenRelation.tokens_alike readsAlike alike)
  exact related.queries.alike

theorem forall₂_concat_cases {α β : Type} {related : α → β → Prop} {as : List α} {bs : List β}
    (alike : List.Forall₂ related as bs) :
    as = [] ∧ bs = [] ∨ ∃ front a otherFront b, as = front ++ [a] ∧ bs = otherFront ++ [b] ∧
      List.Forall₂ related front otherFront ∧ related a b := by
  induction alike with
  | nil => exact Or.inl ⟨rfl, rfl⟩
  | @cons a b as bs head tail ih =>
      rcases ih with ⟨rfl, rfl⟩ | ⟨front, last, otherFront, otherLast, rfl, rfl, fronts, lasts⟩
      · exact Or.inr ⟨[], a, [], b, rfl, rfl, .nil, head⟩
      · refine Or.inr ⟨a :: front, last, b :: otherFront, otherLast, rfl, rfl, ?_, lasts⟩
        exact .cons head fronts

/-- Tokens that are alike are read as queries that are alike, also by two vocabularies, if
these have the same status words. -/
theorem Query.parseTokens_alike (readsAlike : ReadsAlike same first second)
    (alike : List.Forall₂ (Token.Alike same) tokens others) :
    (Query.parseTokens first tokens).query.Alike same (Query.parseTokens second others).query := by
  rcases forall₂_concat_cases alike with
    ⟨rfl, rfl⟩ | ⟨front, last, otherFront, otherLast, rfl, rfl, fronts, lasts⟩
  · exact ⟨.none, .nil, .none⟩
  · simp only [Query.parseTokens, List.getLast?_concat, List.dropLast_concat, ← lasts.kinds]
    split
    · exact readQuery_alike readsAlike fronts
    · exact readQuery_alike readsAlike alike

end TaskQuery

/-
# Queries that were read have names

Whatever a text is, every field of the query that is read from it has a name: it is the
text of an identifier, or it is the status field that a status word stands for. No rule
makes a field name in any other way, and that is all there is to show about them.
-/

import TaskQuery.Proofs.FieldNames
import TaskQuery.Proofs.RelatedReadings

namespace TaskQuery

variable {vocabulary : Vocabulary} {endPosition : Nat} {tokens : List Token}

/-- Every identifier among some tokens is a name. -/
def NamesTokens (tokens : List Token) : Prop :=
  ∀ token ∈ tokens, token.kind = .identifier → IsFieldName token.text

namespace Filter.NamesFields

theorem comparison {field : String} (isName : IsFieldName field) (operator : Operator)
    (value : String) : (Filter.comparison field operator value).NamesFields :=
  List.forall_mem_singleton.mpr isName

theorem dependency (check : DependencyCheck) : (Filter.dependency check).NamesFields :=
  List.forall_mem_nil _

/-- A filter of which the comparisons are those of two others. -/
theorem join {left right joined : Filter} (leftNamed : left.NamesFields)
    (rightNamed : right.NamesFields)
    (comparisons : joined.comparisons = left.comparisons ++ right.comparisons) :
    joined.NamesFields := by
  rw [NamesFields, comparisons]
  exact List.forall_mem_append.mpr ⟨leftNamed, rightNamed⟩

end Filter.NamesFields

theorem isFieldName_statusField : IsFieldName statusField := by
  have isWord : IsFieldWord ['s', 't', 'a', 't', 'u', 's'] :=
    .word rfl (by decide) (by decide)
  exact isFieldName_iff.mpr isWord

theorem namesFields_of_stateFilter? {operator : Operator} {word : String} {filter : Filter}
    (found : stateFilter? operator word = some filter) : filter.NamesFields := by
  rw [stateFilter?.eq_def] at found
  split at found <;> cases found
  · exact .dependency _
  · exact .dependency _
  · exact .dependency _
  · exact Filter.NamesFields.dependency .blocking

/-- The filters that the rules make of names compare nothing but fields with names. -/
def ValueRelation.named (vocabulary : Vocabulary) :
    ValueRelation (.self vocabulary fun token =>
      token.kind = .identifier → IsFieldName token.text) where
  filter filter _ := filter.NamesFields
  name name _ := IsFieldName name
  state := by
    rintro word _ ⟨rfl, -⟩ - operator
    cases found : stateFilter? operator word.text with
    | none => exact .none
    | some filter => exact .some (namesFields_of_stateFilter? found)
  check _ _ _ := .dependency _
  comparison := by
    rintro field _ value _ ⟨rfl, named⟩ isName - - operator
    exact .comparison (named isName) operator value.text
  statusWord _ _ := .comparison isFieldName_statusField _ _
  not named := named
  and left right := left.join right rfl
  or left right := left.join right rfl
  field := by
    rintro field _ ⟨rfl, named⟩ isName
    exact named isName

theorem Query.comparisons_named {query : Query}
    (named : ∀ filter ∈ query.filter, filter.NamesFields) :
    ∀ comparison ∈ query.comparisons, IsFieldName comparison.field := by
  obtain ⟨filter, sort, group⟩ := query
  cases filter with
  | none => exact List.forall_mem_nil _
  | some filter => exact named filter rfl

theorem readQuery_named (named : NamesTokens tokens) :
    (readQuery vocabulary endPosition tokens).query.NamesFields := by
  have queries := (readQuery_related (.named vocabulary) (.any _ endPosition endPosition)
    (TokenRelation.tokens_self named)).queries
  exact ⟨Query.comparisons_named (forall_mem_of_rel queries.filters),
    ValueRelation.forall_mem_of_keys id queries.sorts, forall_mem_of_rel queries.groups⟩

/-- Every query that is read from tokens takes its field names from them. -/
theorem Query.parseTokens_named (vocabulary : Vocabulary) (named : NamesTokens tokens) :
    (Query.parseTokens vocabulary tokens).query.NamesFields := by
  obtain ⟨endPosition, front, reads, ends⟩ := Query.exists_parseTokens_eq vocabulary tokens
  rw [reads]
  rcases ends with rfl | ⟨marker, -, rfl⟩
  · exact readQuery_named named
  · exact readQuery_named fun token member => named token (List.mem_append_left _ member)

/-- Every field of a query that is read from a text has a name. -/
theorem Query.parse_namesFields (vocabulary : Vocabulary) (input : String) :
    (Query.parse vocabulary input).query.NamesFields :=
  Query.parseTokens_named vocabulary fun _ member isName =>
    isFieldName_of_mem_tokenize member isName

end TaskQuery

/-
# What follows an expression

An expression that is complete keeps its reading, whatever is put behind it. There are two
places where this could fail. One is the end of the expression, where the token behind it is
looked at: a status word would become the field of a comparison in front of an operator, and
AND or OR would join another operand. The other one is what follows. It may start another
expression, repeat a clause, close a parenthesis that was never opened or have an end marker
in its middle; but an expression is read in one place only, and behind that place nothing
says anything about the filter.
-/

import TaskQuery.Proofs.AppendedClause
import TaskQuery.Proofs.LenientReading

namespace TaskQuery

namespace Grammar

variable {vocabulary : Vocabulary} {expression rest : List Token}

/-- No more than an end marker is taken off at the end of what follows. -/
theorem exists_parseTokens_append_eq (vocabulary : Vocabulary)
    (noEnd : ∀ token ∈ expression, token.kind ≠ .endOfInput) (rest : List Token) :
    ∃ endPosition remaining, remaining <+: rest ∧
      Query.parseTokens vocabulary (expression ++ rest) =
        readQuery vocabulary endPosition (expression ++ remaining) := by
  obtain ⟨endPosition, front, reads, rfl | ⟨marker, isEnd, ends⟩⟩ :=
    Query.exists_parseTokens_eq vocabulary (expression ++ rest)
  · exact ⟨endPosition, rest, List.prefix_rfl, reads⟩
  · rcases List.eq_nil_or_concat rest with rfl | ⟨earlier, last, rfl⟩
    · -- the expression would end with the marker
      have member : marker ∈ expression ++ [] := ends ▸ List.mem_append_right front (.head _)
      rw [List.append_nil] at member
      exact absurd isEnd (noEnd marker member)
    · rw [List.concat_eq_append, ← List.append_assoc] at ends
      obtain ⟨rfl, -⟩ := List.append_inj' ends rfl
      refine ⟨endPosition, earlier, ?_, reads⟩
      rw [List.concat_eq_append]
      exact List.prefix_append earlier [last]

theorem Rule.Stops.of_prefix {rule : Rule} {remaining : List Token} (stops : rule.Stops rest)
    (isPrefix : remaining <+: rest) : rule.Stops remaining := by
  intro token isHead
  obtain ⟨others, rfl⟩ := isPrefix
  exact stops token (List.mem_head?_append_of_mem_head? isHead)

theorem stops_disjunction_iff : Rule.disjunction.Stops rest ↔ ∀ token ∈ rest.head?,
    token.kind ≠ .connective .and ∧ token.kind ≠ .connective .or ∧
      ∀ operator, token.kind ≠ .operator operator := by
  refine forall₂_congr fun token isHead => ?_
  cases token.kind <;> simp [Rule.continuedBy, isOperator]

namespace Derivation

/-- An expression alone is the whole query. -/
theorem parseTokens_tokens (derivation : Derivation vocabulary .disjunction) :
    Query.parseTokens vocabulary derivation.tokens =
      ⟨{ filter := some derivation.meaning },
        derivation.fields.flatMap vocabulary.fieldDiagnostics⟩ := by
  obtain ⟨endPosition, remaining, isPrefix, reads⟩ :=
    exists_parseTokens_append_eq vocabulary (derivation.kind_ne_of_endsExpression rfl) []
  obtain rfl := List.prefix_nil.mp isPrefix
  have alone := readQuery_derivation endPosition derivation (Rule.stops_nil .disjunction)
  simp only [List.append_nil, clauses, Outcome.prepend] at reads alone
  exact reads.trans alone

/-- What follows an expression is read after it, and adds to its reports at most. -/
theorem parseTokens_tokens_append (derivation : Derivation vocabulary .disjunction)
    (stops : Rule.disjunction.Stops rest) :
    (Query.parseTokens vocabulary (derivation.tokens ++ rest)).query.filter =
        some derivation.meaning ∧
      derivation.fields.flatMap vocabulary.fieldDiagnostics <+:
        (Query.parseTokens vocabulary (derivation.tokens ++ rest)).diagnostics := by
  obtain ⟨endPosition, remaining, isPrefix, reads⟩ :=
    exists_parseTokens_append_eq vocabulary (derivation.kind_ne_of_endsExpression rfl) rest
  rw [reads, readQuery_derivation endPosition derivation (stops.of_prefix isPrefix)]
  exact ⟨clauses_filter vocabulary endPosition _ _ _, List.prefix_append _ _⟩

end Derivation

/-- What follows a complete expression does not change it. Take the tokens of any derivation
of an expression. Alone they are read as a query of nothing but the filter that the
derivation stands for, and no more than unknown fields are reported. With any tokens behind
them that do not start with AND, OR or an operator, however malformed these are, the filter
is the same and so are the reports about the expression, which come first. -/
theorem parseTokens_filter_append_eq (vocabulary : Vocabulary)
    (derivation : Derivation vocabulary .disjunction) (rest : List Token)
    (apart : ∀ token ∈ rest.head?,
      token.kind ≠ .connective .and ∧ token.kind ≠ .connective .or ∧
        ∀ operator, token.kind ≠ .operator operator) :
    let alone := Query.parseTokens vocabulary derivation.tokens
    let followed := Query.parseTokens vocabulary (derivation.tokens ++ rest)
    alone.Accepts { filter := some derivation.meaning } ∧
      followed.query.filter = alone.query.filter ∧
      alone.diagnostics <+: followed.diagnostics := by
  intro alone followed
  have aloneReads : alone = _ := derivation.parseTokens_tokens
  obtain ⟨sameFilter, reports⟩ :=
    derivation.parseTokens_tokens_append (stops_disjunction_iff.mpr apart)
  rw [aloneReads]
  refine ⟨⟨rfl, fun diagnostic reported => ?_⟩, sameFilter, reports⟩
  obtain ⟨field, -, reported⟩ := List.mem_flatMap.mp reported
  exact isUnknownField_fieldDiagnostics vocabulary field diagnostic reported

/-- Behind `depends on x OR done`, which ends with a status word, a parenthesis is closed that
was not opened, another operand is joined, a clause breaks off, and after an end marker there
is more. -/
theorem parseTokens_filter_append_eq_parenthesis :
    let expression : List Token :=
      [⟨.relation .dependsOn, "depends on", 0⟩, ⟨.identifier, "x", 11⟩,
       ⟨.connective .or, "OR", 13⟩, ⟨.identifier, "done", 16⟩]
    let rest : List Token :=
      [⟨.rightParen, ")", 20⟩, ⟨.connective .and, "AND", 22⟩, ⟨.identifier, "todo", 26⟩,
       ⟨.keyword .sortWord, "sort", 31⟩, ⟨.endOfInput, "", 35⟩, ⟨.relation .blocks, "blocks", 36⟩]
    (∀ token ∈ rest.head?,
      token.kind ≠ .connective .and ∧ token.kind ≠ .connective .or ∧
        ∀ operator, token.kind ≠ .operator operator) ∧
    (Query.parseTokens .default (expression ++ rest)).query.filter =
      some (.or (.dependency (.dependsOn "x")) (.comparison "status" .is "done")) := by
  intro expression rest
  have apart : ∀ token ∈ rest.head?,
      token.kind ≠ .connective .and ∧ token.kind ≠ .connective .or ∧
        ∀ operator, token.kind ≠ .operator operator := by
    simp [rest]
  let derivation : Derivation .default .disjunction :=
    .disjunction
      (.conjunction (.relation expression[0] expression[1] .dependsOn rfl .identifier) .endAnd)
      (.or expression[2] rfl
        (.conjunction (.statusWord expression[3] rfl (by decide +kernel)) .endAnd) .endOr)
  have lowered : Text.lowercase "done" = "done" := by decide +kernel
  have kept := parseTokens_filter_append_eq .default derivation rest apart
  refine ⟨apart, (kept.2.1.trans (congrArg Query.filter kept.1.query_eq)).trans ?_⟩
  simp [derivation, expression, Derivation.meaning, lowered, statusField, Relation.check]

end Grammar

end TaskQuery

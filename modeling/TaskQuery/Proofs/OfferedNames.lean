/-
# Names that are offered and names that are accepted

A vocabulary offers the names of the record, its aliases and its own fields, and from these
the suggestion for a misspelt field is taken. Which names it accepts is decided in another
way: a name is replaced by what it stands for, and this has to be a field that is expected.
So the two agree on every name but one kind of alias. An alias of a property that was never
declared is offered and not accepted, and the same holds of an alias of another alias, of
one that names a field of the record in capitals, and of one that hides a field of the
record. Such an alias is the closest name to itself, so it may be suggested for itself.

All of this is about the vocabularies that can be built from the one in force, by any calls
in any order. Only one fact about the calls is needed, that the short names of aliases are
kept in lower case.
-/

import TaskQuery.Command.Settings
import TaskQuery.Proofs.Lowering
import TaskQuery.Proofs.Reports
import TaskQuery.Proofs.SortOrder

namespace TaskQuery

open Text

/-! ## Vocabularies that can be built -/

/-- A call that extends a vocabulary. -/
inductive Declaration
  | fieldAlias (short canonical : String)
  | customField (name : String)
  | priorityRank (name : String) (rank : Nat)
  | dateField (name : String)
  | statusWord (word : String)

namespace Vocabulary

variable {vocabulary : Vocabulary} {name : String}

/-- Extends a vocabulary by one call. -/
def declare (vocabulary : Vocabulary) : Declaration → Vocabulary
  | .fieldAlias short canonical => vocabulary.withAlias short canonical
  | .customField name => vocabulary.withCustomField name
  | .priorityRank name rank => vocabulary.withPriorityRank name rank
  | .dateField name => vocabulary.withDateField name
  | .statusWord word => vocabulary.withStatusWord word

/-- The vocabulary that some calls make, from the one that is in force when nothing is
configured. -/
def declaring (declarations : List Declaration) : Vocabulary :=
  declarations.foldl declare default

/-- The vocabulary of some settings is made by calls. -/
theorem declaring_settings (settings : Settings) :
    settings.vocabulary =
      declaring (settings.aliases.map (fun (short, canonical) => .fieldAlias short canonical) ++
        settings.customFields.map .customField) := by
  rw [declaring, List.foldl_append, List.foldl_map, List.foldl_map]
  rfl

/-- The short names of aliases are in lower case. -/
def LoweredAliases (vocabulary : Vocabulary) : Prop :=
  ∀ entry ∈ vocabulary.aliases, lowercase entry.1 = entry.1

theorem loweredAliases_default : default.LoweredAliases := by
  unfold LoweredAliases
  decide +kernel

theorem LoweredAliases.after_declare (lowered : vocabulary.LoweredAliases)
    (declaration : Declaration) : (vocabulary.declare declaration).LoweredAliases := by
  cases declaration with
  | fieldAlias short canonical =>
      intro entry member
      rcases List.mem_cons.mp member with rfl | member
      · exact lowercase_lowercase short
      · exact lowered entry member
  | customField name => exact lowered
  | priorityRank name rank => exact lowered
  | dateField name => exact lowered
  | statusWord word => exact lowered

theorem LoweredAliases.foldl_declare (lowered : vocabulary.LoweredAliases)
    (declarations : List Declaration) : (declarations.foldl declare vocabulary).LoweredAliases := by
  induction declarations generalizing vocabulary with
  | nil => exact lowered
  | cons declaration declarations ih => exact ih (lowered.after_declare declaration)

theorem loweredAliases_declaring (declarations : List Declaration) :
    (declaring declarations).LoweredAliases :=
  loweredAliases_default.foldl_declare declarations

/-! ## Offered names -/

theorem mem_fieldNames_iff :
    name ∈ vocabulary.fieldNames ↔
      name ∈ recordFields ∨ (vocabulary.aliases.lookup name).isSome ∨
        name ∈ vocabulary.customFields := by
  have isShort : name ∈ vocabulary.aliases.map Prod.fst ↔
      (vocabulary.aliases.lookup name).isSome := by
    simp only [List.lookup_isSome_iff, List.mem_map, beq_iff_eq, @eq_comm _ name]
  rw [fieldNames, List.mem_mergeSort, List.mem_eraseDups, List.mem_append, List.mem_append,
    isShort, or_assoc]

/-- The offered names are the only list of them that is in order. -/
theorem fieldNames_eq_of_perm {names : List String} (inOrder : names.Pairwise (· ≤ ·))
    (perm : names.Perm
      (recordFields ++ vocabulary.aliases.map Prod.fst ++ vocabulary.customFields).eraseDups) :
    vocabulary.fieldNames = names := by
  have sorted : vocabulary.fieldNames.Pairwise (· ≤ ·) := pairwise_mergeSort_text id _
  exact ((List.mergeSort_perm _ _).trans perm.symm).eq_of_pairwise
    (fun a b _ _ ab ba => String.le_antisymm ab ba) sorted inOrder

/-- An offered name that is no field of the vocabulary's own is in lower case. -/
theorem LoweredAliases.lowercase_eq (lowered : vocabulary.LoweredAliases)
    (offered : name ∈ vocabulary.fieldNames) (notCustom : name ∉ vocabulary.customFields) :
    lowercase name = name := by
  rcases mem_fieldNames_iff.mp offered with isField | isAlias | isCustom
  · have checked : ∀ field ∈ recordFields, lowercase field = field := by decide +kernel
    exact checked name isField
  · obtain ⟨entry, member, same⟩ := List.lookup_isSome_iff.mp isAlias
    rw [beq_iff_eq.mp same]
    exact lowered entry member
  · exact absurd isCustom notCustom

/-! ## Accepted names -/

/-- A vocabulary expects a field by this name, whatever its aliases are. -/
def Expects (vocabulary : Vocabulary) (name : String) : Prop :=
  name ∈ recordFields ∨ isDotted name = true ∨ name ∈ vocabulary.customFields

/-- A name is an alias of something that the vocabulary does not expect, and nothing but
the alias could make it known: it is no path and no field of the vocabulary's own. -/
structure IsDeadAlias (vocabulary : Vocabulary) (name target : String) : Prop where
  isAlias : vocabulary.aliases.lookup name = some target
  notExpected : ¬ vocabulary.Expects target
  notDotted : isDotted name = false
  notCustom : name ∉ vocabulary.customFields

theorem isKnownField_iff :
    vocabulary.isKnownField name = true ↔
      vocabulary.Expects (vocabulary.canonicalField name) ∨ isDotted name = true ∨
        name ∈ vocabulary.customFields := by
  simp only [isKnownField, Expects, Bool.or_eq_true, List.contains_iff_mem, or_assoc, or_comm,
    or_left_comm]

theorem IsDeadAlias.isKnownField_eq_false {target : String}
    (dead : vocabulary.IsDeadAlias name target) (lowered : lowercase name = name) :
    vocabulary.isKnownField name = false := by
  have stands : vocabulary.canonicalField name = target := by
    rw [canonicalField, lowered, dead.isAlias]
  rw [← Bool.not_eq_true, isKnownField_iff, stands]
  rintro (expected | dotted | custom)
  · exact dead.notExpected expected
  · exact Bool.noConfusion (dead.notDotted.symm.trans dotted)
  · exact dead.notCustom custom

/-- A name that is offered and not accepted is an alias of what is not expected. -/
theorem LoweredAliases.exists_isDeadAlias (lowered : vocabulary.LoweredAliases)
    (offered : name ∈ vocabulary.fieldNames) (unknown : vocabulary.isKnownField name = false) :
    ∃ target, vocabulary.IsDeadAlias name target := by
  rw [← Bool.not_eq_true, isKnownField_iff, not_or, not_or] at unknown
  obtain ⟨notExpected, notDotted, notCustom⟩ := unknown
  rw [canonicalField, lowered.lowercase_eq offered notCustom] at notExpected
  cases found : vocabulary.aliases.lookup name with
  | some target =>
      rw [found] at notExpected
      exact ⟨target, found, notExpected, Bool.eq_false_iff.mpr notDotted, notCustom⟩
  | none =>
      -- without an alias it is a field of the record, which every vocabulary expects
      rw [mem_fieldNames_iff, found] at offered
      have isField : name ∈ recordFields := by simpa [notCustom] using offered
      rw [found, if_pos (List.contains_iff_mem.mpr isField)] at notExpected
      exact absurd (Or.inl isField) notExpected

/-- An offered name is accepted exactly if it is no alias of what is not expected. -/
theorem LoweredAliases.isKnownField_iff_not_isDeadAlias (lowered : vocabulary.LoweredAliases)
    (offered : name ∈ vocabulary.fieldNames) :
    vocabulary.isKnownField name = true ↔ ¬ ∃ target, vocabulary.IsDeadAlias name target := by
  constructor
  · rintro known ⟨target, dead⟩
    have unknown := dead.isKnownField_eq_false (lowered.lowercase_eq offered dead.notCustom)
    exact Bool.noConfusion (unknown.symm.trans known)
  · intro alive
    rw [← Bool.not_eq_false]
    intro unknown
    exact alive (lowered.exists_isDeadAlias offered unknown)

/-! ## Suggestions -/

theorem mem_of_foldl_betterSuggestion {best : Option (String × Float)}
    {candidates : List (String × Float)} {chosen : String × Float}
    (found : candidates.foldl betterSuggestion best = some chosen) :
    best = some chosen ∨ chosen ∈ candidates := by
  induction candidates generalizing best with
  | nil => exact Or.inl found
  | cons candidate candidates ih =>
      rcases ih found with isBetter | later
      · rw [betterSuggestion.eq_def] at isBetter
        split at isBetter
        · split at isBetter
          · exact Or.inl isBetter
          · exact Or.inr (Option.some.inj isBetter ▸ List.mem_cons_self)
        · exact Or.inr (Option.some.inj isBetter ▸ List.mem_cons_self)
      · exact Or.inr (List.mem_cons_of_mem _ later)

/-- A suggestion is one of the offered names. -/
theorem mem_fieldNames_of_suggestField {suggestion : String}
    (suggested : vocabulary.suggestField name = some suggestion) :
    suggestion ∈ vocabulary.fieldNames := by
  obtain ⟨chosen, found, rfl⟩ := Option.map_eq_some_iff.mp suggested
  rcases mem_of_foldl_betterSuggestion found with none | member
  · cases none
  · obtain ⟨candidate, isName, rfl⟩ := List.mem_map.mp (List.mem_filter.mp member).1
    exact isName

/-- Reading a text or a list of tokens reports a field as unknown. -/
def ReportsUnknown (vocabulary : Vocabulary) (field : String) (suggestion : Option String) :
    Prop :=
  (∃ input, .unknownField field suggestion ∈ (Query.parse vocabulary input).diagnostics) ∨
    ∃ tokens, .unknownField field suggestion ∈ (Query.parseTokens vocabulary tokens).diagnostics

theorem mem_parseTokens_of_unknownField_mem_parse {input field : String}
    {suggestion : Option String}
    (reported : .unknownField field suggestion ∈ (Query.parse vocabulary input).diagnostics) :
    .unknownField field suggestion ∈
      (Query.parseTokens vocabulary (tokenize input).tokens).diagnostics := by
  rw [Query.parse] at reported
  rcases List.mem_append.mp reported with reported | badPattern
  · rcases List.mem_append.mp reported with stray | forgiven
    · obtain ⟨_, _, differs⟩ := List.mem_map.mp stray
      cases differs
    · exact forgiven
  · obtain ⟨pattern, -, isFault⟩ := List.mem_filterMap.mp badPattern
    split at isFault <;> cases isFault

/-- A field that is reported as unknown is unknown, and its suggestion is what the
vocabulary has for it. -/
theorem ReportsUnknown.unknown_and_eq {field : String} {suggestion : Option String}
    (reported : vocabulary.ReportsUnknown field suggestion) :
    vocabulary.isKnownField field = false ∧ suggestion = vocabulary.suggestField field := by
  have read {tokens : List Token}
      (forgiven : .unknownField field suggestion ∈
        (Query.parseTokens vocabulary tokens).diagnostics) :
      vocabulary.isKnownField field = false ∧ suggestion = vocabulary.suggestField field := by
    cases Query.parseTokens_reports vocabulary tokens _ forgiven with
    | unknownField about isName unknown => exact ⟨unknown, rfl⟩
  rcases reported with ⟨input, reported⟩ | ⟨tokens, reported⟩
  · exact read (mem_parseTokens_of_unknownField_mem_parse reported)
  · exact read reported

/-- Whatever calls a vocabulary is made by, an offered name is accepted exactly if it is no
alias of what the vocabulary does not expect. Under the same condition the suggestion for
an unknown field is accepted and is not that field itself; it is offered in any case. -/
theorem isKnownField_iff_not_isDeadAlias_of_offered (declarations : List Declaration) :
    (∀ name ∈ (declaring declarations).fieldNames,
        (declaring declarations).isKnownField name = true ↔
          ¬ ∃ target, (declaring declarations).IsDeadAlias name target) ∧
      ∀ field suggestion, (declaring declarations).ReportsUnknown field (some suggestion) →
        (declaring declarations).isKnownField field = false ∧
          suggestion ∈ (declaring declarations).fieldNames ∧
          ((declaring declarations).isKnownField suggestion = true ∧ suggestion ≠ field ↔
            ¬ ∃ target, (declaring declarations).IsDeadAlias suggestion target) := by
  have lowered := loweredAliases_declaring declarations
  refine ⟨fun name offered => lowered.isKnownField_iff_not_isDeadAlias offered, ?_⟩
  intro field suggestion reported
  obtain ⟨unknown, suggested⟩ := reported.unknown_and_eq
  have offered := mem_fieldNames_of_suggestField suggested.symm
  refine ⟨unknown, offered, ?_⟩
  rw [← lowered.isKnownField_iff_not_isDeadAlias offered]
  refine ⟨And.left, fun known => ⟨known, ?_⟩⟩
  rintro rfl
  exact Bool.noConfusion (unknown.symm.trans known)

/-- An alias of a property that was not declared is offered, is not accepted, and is
suggested for itself. -/
theorem alias_of_undeclared_is_suggested_for_itself :
    let vocabulary := declaring [.fieldAlias "who" "owner"]
    "who" ∈ vocabulary.fieldNames ∧ vocabulary.isKnownField "who" = false ∧
      .unknownField "who" (some "who") ∈ (Query.parse vocabulary "who is bob").diagnostics := by
  intro vocabulary
  have offered : "who" ∈ vocabulary.fieldNames :=
    mem_fieldNames_iff.mpr (Or.inr (Or.inl (by decide +kernel)))
  have unknown : vocabulary.isKnownField "who" = false := by decide +kernel
  have suggested : vocabulary.suggestField "who" = some "who" := by
    -- sorting recurses on a measure, so the names are given in order and checked to be that
    let names : List String :=
      ["completed", "content", "created", "created_date", "dep", "dependencies", "dependency",
        "dependency_id", "depends_on", "deps", "description", "done", "done_date", "due",
        "due_date", "file", "filename", "id", "path", "priority", "recurrence", "recurring",
        "repeat", "scheduled", "scheduled_date", "start", "starts", "status", "tag", "tags",
        "text", "who"]
    have inOrder : vocabulary.fieldNames = names :=
      fieldNames_eq_of_perm (by decide +kernel) (by decide +kernel)
    rw [suggestField, inOrder]
    decide +kernel
  have lexed : (tokenize "who is bob").tokens =
      [⟨.identifier, "who", 0⟩, ⟨.operator .is, "is", 4⟩, ⟨.identifier, "bob", 7⟩,
        ⟨.endOfInput, "", 10⟩] := by
    decide +kernel
  have reported : vocabulary.fieldDiagnostics "who" = [.unknownField "who" (some "who")] := by
    rw [fieldDiagnostics, unknown, suggested]
    rfl
  refine ⟨offered, unknown, List.mem_append_left _ (List.mem_append_right _ ?_)⟩
  rw [lexed]
  simp [Query.parseTokens, readQuery, disjunction, conjunction, operand, leaf, comparison,
    comparisonValue, TokenKind.endsExpression, TokenKind.isValue, Reading.after,
    Outcome.prepend, reported]

end Vocabulary

end TaskQuery

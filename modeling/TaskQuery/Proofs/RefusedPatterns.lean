/-
# Refused patterns

A pattern that is refused is reported twice. Reading a query reports it for every
comparison that it stands in, from left to right and behind all other problems. An
evaluator reports it once, whatever the number of these comparisons, and puts its reports
in the order of their wordings. Both go over the same comparisons and ask the same
function, so they name the same patterns with the same faults.

A comparison with a refused pattern is false, and so is its negated form. With a pattern
that was accepted the negated form is the exact negation, and a query that was read
without any problem has no other patterns.
-/

import TaskQuery.Proofs.Evaluation
import TaskQuery.Proofs.QueryRecognition
import TaskQuery.Proofs.Reports
import TaskQuery.Proofs.SortOrder
import Mathlib.Data.List.Nodup

namespace TaskQuery

/-! ## Reports about patterns -/

/-- What a report about a pattern names: the pattern, and why it is refused. -/
def Diagnostic.refusal? : Diagnostic → Option (String × Pattern.Fault)
  | invalidPattern pattern fault => some (pattern, fault)
  | _ => none

/-- What the reports about patterns among some problems name. -/
def refusals (diagnostics : List Diagnostic) : List (String × Pattern.Fault) :=
  diagnostics.filterMap Diagnostic.refusal?

/-- Why a pattern is refused, if it is. -/
def Pattern.fault? (pattern : String) : Option Pattern.Fault :=
  match Pattern.compile pattern with
  | .ok _ => none
  | .error fault => some fault

/-- The report about a pattern, if it is refused. -/
def Pattern.report? (pattern : String) : Option Diagnostic :=
  (Pattern.fault? pattern).map (Diagnostic.invalidPattern pattern)

/-- The report about a comparison, if it has a pattern and this one is refused. -/
def Comparison.report? (comparison : Comparison) : Option Diagnostic :=
  if comparison.operator = .matchesPattern ∨ comparison.operator = .notMatchesPattern then
    Pattern.report? comparison.value
  else none

namespace Pattern

variable {pattern : String} {fault : Pattern.Fault}

theorem fault?_eq_some_iff : fault? pattern = some fault ↔ compile pattern = .error fault := by
  rw [fault?]
  cases compile pattern <;> simp

theorem report?_eq (pattern : String) :
    report? pattern =
      match compile pattern with
      | .ok _ => none
      | .error fault => some (.invalidPattern pattern fault) := by
  rw [report?, fault?]
  cases compile pattern <;> rfl

theorem report?_bind_refusal? (pattern : String) :
    (report? pattern).bind Diagnostic.refusal? = (fault? pattern).map (pattern, ·) := by
  rw [report?]
  cases fault? pattern <;> rfl

end Pattern

theorem refusals_filterMap_report? (patterns : List String) :
    refusals (patterns.filterMap Pattern.report?) =
      patterns.filterMap fun pattern => (Pattern.fault? pattern).map (pattern, ·) := by
  rw [refusals, List.filterMap_filterMap]
  exact List.filterMap_congr fun pattern _ => Pattern.report?_bind_refusal? pattern

theorem mem_refusals_filterMap_report? {patterns : List String} {pattern : String}
    {fault : Pattern.Fault} :
    (pattern, fault) ∈ refusals (patterns.filterMap Pattern.report?) ↔
      pattern ∈ patterns ∧ Pattern.fault? pattern = some fault := by
  rw [refusals_filterMap_report?, List.mem_filterMap]
  constructor
  · intro found
    obtain ⟨other, member, named⟩ := found
    obtain ⟨reason, refused, same⟩ := Option.map_eq_some_iff.mp named
    obtain ⟨rfl, rfl⟩ := Prod.mk.inj same
    exact ⟨member, refused⟩
  · intro found
    obtain ⟨member, refused⟩ := found
    exact ⟨pattern, member, by rw [refused]; rfl⟩

/-- Different patterns are named by different reports. -/
theorem nodup_refusals_filterMap_report? {patterns : List String} (apart : patterns.Nodup) :
    ((refusals (patterns.filterMap Pattern.report?)).map Prod.fst).Nodup := by
  rw [refusals_filterMap_report?, List.map_filterMap]
  refine apart.filterMap fun first second named isFirst isSecond => ?_
  simp only [Option.map_map, Option.mem_def, Option.map_eq_some_iff] at isFirst isSecond
  obtain ⟨_, _, rfl⟩ := isFirst
  obtain ⟨_, _, same⟩ := isSecond
  exact same.symm

/-! ## What reading reports -/

theorem Operator.takesPattern_iff (operator : Operator) :
    operator.takesPattern = true ↔
      operator = .matchesPattern ∨ operator = .notMatchesPattern := by
  cases operator <;> decide

/-- Tokens that a derivation spells are read without any problem when every name among
them is a known field. -/
theorem Grammar.QueryDerivation.parseTokens_eq {vocabulary : Vocabulary}
    (derivation : QueryDerivation vocabulary) {tokens : List Token} {marker : Token}
    (spelled : tokens = derivation.tokens ++ [marker]) (isEnd : marker.kind = .endOfInput)
    (known : ∀ token ∈ tokens, token.kind = .identifier →
      vocabulary.isKnownField token.text = true) :
    Query.parseTokens vocabulary tokens = ⟨derivation.query, []⟩ := by
  have accepted := derivation.readQuery_accepts marker.position
  rw [← parseTokens_append_marker isEnd, ← spelled] at accepted
  have silent : (Query.parseTokens vocabulary tokens).diagnostics = [] := by
    refine List.eq_nil_iff_forall_not_mem.mpr fun diagnostic reported => ?_
    have isUnknownField := accepted.clean diagnostic reported
    cases Query.parseTokens_reports vocabulary tokens diagnostic reported with
    | unknownField member isName unknown =>
        rw [known _ member isName] at unknown
        cases unknown
    | _ => exact isUnknownField
  rw [← accepted.query_eq, ← silent]

namespace Query

theorem patternDiagnostics_eq_patterns (query : Query) :
    query.patternDiagnostics =
      (query.filter.elim [] Filter.patterns).filterMap Pattern.report? :=
  List.filterMap_congr fun pattern _ => (Pattern.report?_eq pattern).symm

/-- The reports about patterns are those of the comparisons, in their order. -/
theorem patternDiagnostics_eq (query : Query) :
    query.patternDiagnostics = query.comparisons.filterMap Comparison.report? := by
  rw [patternDiagnostics_eq_patterns, comparisons]
  cases query.filter with
  | none => rfl
  | some filter =>
      simp only [Option.elim, Filter.patterns, List.filterMap_map, List.filterMap_filter]
      refine List.filterMap_congr fun comparison _ => ?_
      simp only [Comparison.report?, Operator.takesPattern_iff, Function.comp_apply]

/-- Reading reports about patterns behind everything else. -/
theorem exists_parse_diagnostics_eq (vocabulary : Vocabulary) (input : String) :
    ∃ others, (parse vocabulary input).diagnostics =
        others ++ (parse vocabulary input).query.patternDiagnostics ∧
      ∀ diagnostic ∈ others, diagnostic.refusal? = none := by
  refine ⟨_, rfl, fun diagnostic member => ?_⟩
  rcases List.mem_append.mp member with stray | forgiven
  · obtain ⟨_, _, rfl⟩ := List.mem_map.mp stray
    rfl
  · cases parseTokens_reports vocabulary _ diagnostic forgiven <;> rfl

theorem refusals_parse (vocabulary : Vocabulary) (input : String) :
    refusals (parse vocabulary input).diagnostics =
      refusals (parse vocabulary input).query.patternDiagnostics := by
  obtain ⟨others, split, silent⟩ := exists_parse_diagnostics_eq vocabulary input
  rw [split, refusals, List.filterMap_append, List.filterMap_eq_nil_iff.mpr silent,
    List.nil_append, refusals]

/-- A query that was read without any problem has no pattern that is refused. -/
theorem fault?_eq_none_of_parseStrict {vocabulary : Vocabulary} {input : String} {query : Query}
    (accepted : parseStrict vocabulary input = .ok query) {comparison : Comparison}
    (member : comparison ∈ query.comparisons)
    (hasPattern : comparison.operator.takesPattern = true) :
    Pattern.fault? comparison.value = none := by
  rw [parseStrict] at accepted
  cases clean : (parse vocabulary input).diagnostics with
  | cons problem others =>
      simp only [clean] at accepted
      cases accepted
  | nil =>
      simp only [clean] at accepted
      obtain rfl := Except.ok.inj accepted
      obtain ⟨others, split, -⟩ := exists_parse_diagnostics_eq vocabulary input
      rw [clean, patternDiagnostics_eq] at split
      have silent := (List.append_eq_nil_iff.mp split.symm).2
      have unreported := List.filterMap_eq_nil_iff.mp silent comparison member
      rw [Comparison.report?, if_pos ((Operator.takesPattern_iff _).mp hasPattern),
        Pattern.report?, Option.map_eq_none_iff] at unreported
      exact unreported

end Query

/-! ## What evaluators report -/

namespace Evaluator

variable (setting : Setting) (filter : Option Filter)

section

variable [Pattern.Wording]

theorem patternErrors_of :
    (Evaluator.of setting filter).patternErrors =
      ((filter.elim [] Filter.patterns).eraseDups.filterMap Pattern.report?).mergeSort
        fun a b => a.message ≤ b.message := by
  rw [patternErrors, Evaluator.of, List.filterMap_map]
  congr 1
  exact List.filterMap_congr fun pattern _ => (Pattern.report?_eq pattern).symm

theorem refusals_patternErrors_perm :
    (refusals (Evaluator.of setting filter).patternErrors).Perm
      (refusals ((filter.elim [] Filter.patterns).eraseDups.filterMap Pattern.report?)) := by
  rw [patternErrors_of]
  exact (List.mergeSort_perm _ _).filterMap _

/-- An evaluator reports each pattern of its filter that is refused. -/
theorem mem_refusals_patternErrors_iff {pattern : String} {fault : Pattern.Fault} :
    (pattern, fault) ∈ refusals (Evaluator.of setting filter).patternErrors ↔
      pattern ∈ filter.elim [] Filter.patterns ∧ Pattern.fault? pattern = some fault := by
  rw [(refusals_patternErrors_perm setting filter).mem_iff, mem_refusals_filterMap_report?,
    List.mem_eraseDups]

theorem nodup_refusals_patternErrors :
    ((refusals (Evaluator.of setting filter).patternErrors).map Prod.fst).Nodup :=
  ((refusals_patternErrors_perm setting filter).map Prod.fst).nodup_iff.mpr
    (nodup_refusals_filterMap_report? (nodup_eraseDups _))

/-- An evaluator puts its reports in the order of their wordings. -/
theorem pairwise_patternErrors :
    (Evaluator.of setting filter).patternErrors.Pairwise fun a b => a.message ≤ b.message := by
  rw [patternErrors_of]
  exact pairwise_mergeSort_text Diagnostic.message _

/-- An evaluator reports nothing but patterns. -/
theorem refusal?_isSome_of_mem_patternErrors {diagnostic : Diagnostic}
    (reported : diagnostic ∈ (Evaluator.of setting filter).patternErrors) :
    diagnostic.refusal?.isSome := by
  rw [patternErrors_of, List.mem_mergeSort] at reported
  obtain ⟨pattern, -, isReport⟩ := List.mem_filterMap.mp reported
  obtain ⟨fault, -, rfl⟩ := Option.map_eq_some_iff.mp isReport
  rfl

end

/-! ## What comparisons with patterns say -/

variable (task : Task) (field : String) {pattern : String}

/-- A comparison with a refused pattern is false, negated or not. -/
theorem evaluate_of_fault? {fault : Pattern.Fault}
    (refused : Pattern.fault? pattern = some fault) :
    (Evaluator.of setting filter).evaluate task (.comparison field .matchesPattern pattern) =
        false ∧
      (Evaluator.of setting filter).evaluate task
        (.comparison field .notMatchesPattern pattern) = false := by
  have found : (Evaluator.of setting filter).patternOf pattern = .error fault := by
    rw [(isFaithful_of setting filter).patternOf_eq, Pattern.fault?_eq_some_iff.mp refused]
  constructor <;> simp only [evaluate, compare, relatesToPattern, found]

/-- With a pattern that was accepted, the negated form is the negation. -/
theorem evaluate_notMatchesPattern (accepted : Pattern.fault? pattern = none) :
    (Evaluator.of setting filter).evaluate task (.comparison field .notMatchesPattern pattern) =
      !(Evaluator.of setting filter).evaluate task
        (.comparison field .matchesPattern pattern) := by
  have found := (isFaithful_of setting filter).patternOf_eq pattern
  rw [Pattern.fault?] at accepted
  cases compiled : Pattern.compile pattern with
  | error fault => simp [compiled] at accepted
  | ok expr => simp [evaluate, compare, relatesToPattern, found, compiled]

end Evaluator

/-- Reading and evaluation agree on which patterns are refused. For every text, the reports
of reading and those of an evaluator for the filter that was read name the same patterns
with the same faults. The evaluator names each pattern once and in the order of the wordings,
whatever these are; reading has one report for each comparison with a refused pattern, from
left to right and behind everything else. So in a query that was read without any problem a
`not matches` is the exact negation of `matches`; and a comparison with a refused pattern is
false in either form. -/
theorem refusals_parse_iff_refusals_patternErrors [Pattern.Wording] (vocabulary : Vocabulary)
    (input : String) (setting : Setting) :
    let outcome := Query.parse vocabulary input
    let errors := (Evaluator.of setting outcome.query.filter).patternErrors
    (∀ refusal, refusal ∈ refusals outcome.diagnostics ↔ refusal ∈ refusals errors) ∧
    ((∀ diagnostic ∈ errors, diagnostic.refusal?.isSome) ∧
      ((refusals errors).map Prod.fst).Nodup ∧
      errors.Pairwise fun a b => a.message ≤ b.message) ∧
    (∃ others, outcome.diagnostics =
        others ++ outcome.query.comparisons.filterMap Comparison.report? ∧
      ∀ diagnostic ∈ others, diagnostic.refusal? = none) ∧
    (∀ query, Query.parseStrict vocabulary input = .ok query →
      ∀ comparison ∈ query.comparisons, comparison.operator = .notMatchesPattern →
        ∀ (filter : Option Filter) (task : Task),
          let evaluator := Evaluator.of setting filter
          evaluator.evaluate task
              (.comparison comparison.field .notMatchesPattern comparison.value) =
            !evaluator.evaluate task
              (.comparison comparison.field .matchesPattern comparison.value)) ∧
    ∀ (filter : Option Filter) (task : Task) (field pattern : String) (fault : Pattern.Fault),
      Pattern.compile pattern = .error fault →
        let evaluator := Evaluator.of setting filter
        evaluator.evaluate task (.comparison field .matchesPattern pattern) = false ∧
          evaluator.evaluate task (.comparison field .notMatchesPattern pattern) = false := by
  intro outcome errors
  refine ⟨fun refusal => ?_, ⟨fun diagnostic reported => ?_, ?_, ?_⟩, ?_, ?_, ?_⟩
  · obtain ⟨pattern, fault⟩ := refusal
    rw [Query.refusals_parse, Query.patternDiagnostics_eq_patterns,
      mem_refusals_filterMap_report?, Evaluator.mem_refusals_patternErrors_iff]
  · exact Evaluator.refusal?_isSome_of_mem_patternErrors setting _ reported
  · exact Evaluator.nodup_refusals_patternErrors setting _
  · exact Evaluator.pairwise_patternErrors setting _
  · rw [← Query.patternDiagnostics_eq]
    exact Query.exists_parse_diagnostics_eq vocabulary input
  · intro query accepted comparison member isNegated filter task
    refine Evaluator.evaluate_notMatchesPattern setting filter task comparison.field ?_
    refine Query.fault?_eq_none_of_parseStrict accepted member ?_
    rw [isNegated]
    rfl
  · intro filter task field pattern fault refused
    exact Evaluator.evaluate_of_fault? setting filter task field
      (Pattern.fault?_eq_some_iff.mpr refused)

/-- A text with an accepted pattern, and a pattern that is refused. -/
theorem refusals_parse_iff_refusals_patternErrors_path :
    let query : Query := { filter := some (.comparison "path" .notMatchesPattern "a") }
    (Query.parseStrict .default "path not matches \"a\"" = .ok query ∧
        ⟨"path", .notMatchesPattern, "a"⟩ ∈ query.comparisons ∧
        Pattern.compile "[" = .error .classUnclosed) ∧
      ∀ (setting : Setting) (task : Task),
        let evaluator := Evaluator.of setting query.filter
        evaluator.evaluate task (.comparison "path" .notMatchesPattern "a") =
            !evaluator.evaluate task (.comparison "path" .matchesPattern "a") ∧
          evaluator.evaluate task (.comparison "path" .notMatchesPattern "[") = false := by
  intro query
  have lexed : tokenize "path not matches \"a\"" =
      ⟨[⟨.identifier, "path", 0⟩, ⟨.operator .notMatchesPattern, "not matches", 5⟩,
        ⟨.stringLiteral, "a", 17⟩, ⟨.endOfInput, "", 20⟩], []⟩ := by
    decide +kernel
  have compiles : Pattern.fault? "a" = none := by decide +kernel
  have silent : query.patternDiagnostics = [] := by
    rw [Query.patternDiagnostics_eq]
    simp [query, Query.comparisons, Filter.comparisons, Comparison.report?, Pattern.report?,
      compiles]
  let expression : Grammar.Derivation .default .operand :=
    .comparison ⟨.identifier, "path", 0⟩ ⟨.operator .notMatchesPattern, "not matches", 5⟩
      ⟨.stringLiteral, "a", 17⟩ .notMatchesPattern rfl rfl .stringLiteral
  let derivation : Grammar.QueryDerivation .default :=
    ⟨some (.disjunction (.conjunction expression .endAnd) .endOr), [], List.Pairwise.nil⟩
  have read : Query.parseTokens .default (tokenize "path not matches \"a\"").tokens =
      ⟨query, []⟩ := by
    rw [lexed]
    exact derivation.parseTokens_eq rfl rfl (by decide +kernel)
  have accepted : Query.parseStrict .default "path not matches \"a\"" = .ok query := by
    simp only [Query.parseStrict, Query.parse, read, silent]
    simp only [lexed, List.map_nil, List.append_nil]
  have member : ⟨"path", .notMatchesPattern, "a"⟩ ∈ query.comparisons := List.mem_cons_self
  have refused : Pattern.compile "[" = .error .classUnclosed :=
    Pattern.fault?_eq_some_iff.mp (by decide +kernel)
  refine ⟨⟨accepted, member, refused⟩, fun setting task => ?_⟩
  obtain ⟨-, -, -, negation, bad⟩ :=
    refusals_parse_iff_refusals_patternErrors .default "path not matches \"a\"" setting
  exact ⟨negation query accepted _ member rfl query.filter task,
    (bad query.filter task "path" "[" .classUnclosed refused).2⟩

end TaskQuery

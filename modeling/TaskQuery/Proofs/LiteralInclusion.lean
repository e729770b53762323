/-
# Values that are literally there

A text that holds a value as it is written should also be found to include it, but both are
lowered before the search. Lowering goes letter by letter, so what stands lowered in the place
of the value is the lowered value, with one exception. A capital sigma is lowered to the final
form at the end of a word, and the end of the value need not be the end of a word of the text.
So the value is found in its place exactly if each of its capital sigmas ends a word in the
value and in the text, or does so in neither.
-/

import TaskQuery.Query.Evaluation

namespace TaskQuery

open Text

namespace Text

/-! ## Lowering a part of a text -/

/-- Lowers a part of a text in its place. What stands before it is given nearest first. -/
def lowercaseWithin (before after : List Char) : List Char → List Char
  | [] => []
  | c :: rest =>
      (if c = 'Σ' then [if endsWord before (rest ++ after) then 'ς' else 'σ']
        else lowercaseChar c) ++ lowercaseWithin (c :: before) after rest

/-- Lowering a text lowers its parts in their places. -/
theorem lowercaseAfter_append (before part after : List Char) :
    lowercaseAfter before (part ++ after) =
      lowercaseWithin before after part ++ lowercaseAfter (part.reverse ++ before) after := by
  induction part generalizing before with
  | nil => rfl
  | cons c part ih =>
      rw [List.cons_append, lowercaseAfter, lowercaseWithin, ih, List.reverse_cons,
        List.append_assoc, List.append_assoc]
      rfl

theorem lowercaseWithin_nil (before part : List Char) :
    lowercaseWithin before [] part = lowercaseAfter before part := by
  have whole := lowercaseAfter_append before part []
  rw [List.append_nil, lowercaseAfter_nil, List.append_nil] at whole
  exact whole.symm

/-- Two places are alike for the capital sigmas of a part. -/
def SigmasAlike (before after before' after' part : List Char) : Prop :=
  ∀ front back, part = front ++ 'Σ' :: back →
    endsWord (front.reverse ++ before) (back ++ after) =
      endsWord (front.reverse ++ before') (back ++ after')

variable {before after before' after' : List Char}

theorem sigmasAlike_cons_iff {c : Char} {rest : List Char} :
    SigmasAlike before after before' after' (c :: rest) ↔
      (c = 'Σ' → endsWord before (rest ++ after) = endsWord before' (rest ++ after')) ∧
        SigmasAlike (c :: before) after (c :: before') after' rest := by
  constructor
  · intro alike
    refine ⟨?_, fun front back split => ?_⟩
    · rintro rfl
      exact alike [] rest rfl
    · have further := alike (c :: front) back (congrArg (c :: ·) split)
      rwa [List.reverse_cons, List.append_assoc, List.append_assoc] at further
  · rintro ⟨first, further⟩ front back whole
    cases front with
    | nil =>
        obtain ⟨isSigma, rfl⟩ := List.cons.inj whole
        exact first isSigma
    | cons d front =>
        obtain ⟨rfl, split⟩ := List.cons.inj whole
        rw [List.reverse_cons, List.append_assoc, List.append_assoc]
        exact further front back split

/-- A part is lowered alike in two places exactly if they are alike for its capital sigmas. -/
theorem lowercaseWithin_eq_iff {part : List Char} :
    lowercaseWithin before after part = lowercaseWithin before' after' part ↔
      SigmasAlike before after before' after' part := by
  induction part generalizing before before' with
  | nil =>
      refine iff_of_true rfl fun front back split => ?_
      cases front <;> cases split
  | cons c part ih =>
      rw [sigmasAlike_cons_iff, ← ih, lowercaseWithin, lowercaseWithin]
      by_cases isSigma : c = 'Σ'
      · rw [if_pos isSigma, if_pos isSigma, List.singleton_append, List.singleton_append,
          List.cons.injEq]
        refine and_congr_left fun _ => ?_
        cases endsWord before (part ++ after) <;> cases endsWord before' (part ++ after') <;>
          simp [isSigma]
      · rw [if_neg isSigma, if_neg isSigma, List.append_right_inj]
        simp [isSigma]

end Text

/-! ## Values in texts and in lists -/

/-- Each capital sigma of a value ends a word of the value if it ends one of the text in which
the value stands, and only then. -/
def SigmasAgree (before value after : String) : Prop :=
  SigmasAlike before.toList.reverse after.toList [] [] value.toList

variable {before value after : String}

/-- In its place a value is lowered as on its own exactly if its capital sigmas agree. -/
theorem lowercaseWithin_eq_lowercase_iff :
    lowercaseWithin before.toList.reverse after.toList value.toList = (lowercase value).toList ↔
      SigmasAgree before value after := by
  rw [SigmasAgree, ← lowercaseWithin_eq_iff, lowercaseWithin_nil, lowercase, String.toList_ofList]

instance (before value after : String) : Decidable (SigmasAgree before value after) :=
  decidable_of_iff _ lowercaseWithin_eq_lowercase_iff

theorem sigmasAgree_of_not_mem (noSigma : 'Σ' ∉ value.toList) (before after : String) :
    SigmasAgree before value after := by
  intro front back split
  rw [split] at noSigma
  exact absurd (List.mem_append_right front List.mem_cons_self) noSigma

/-- The parts of a lowered text. -/
theorem toList_lowercase_append (before value after : String) :
    (lowercase (before ++ value ++ after)).toList =
      lowercaseWithin [] (value ++ after).toList before.toList ++
        (lowercaseWithin before.toList.reverse after.toList value.toList ++
          lowercaseAfter (before ++ value).toList.reverse after.toList) := by
  simp only [lowercase, String.toList_ofList, String.toList_append]
  rw [List.append_assoc, lowercaseAfter_append, List.append_nil, lowercaseAfter_append,
    List.reverse_append]

namespace FieldValue

/-- A text includes the values that are lowered in it as on their own. -/
theorem includes_text_of_sigmasAgree (agree : SigmasAgree before value after) :
    (text (before ++ value ++ after)).includes value = true := by
  rw [includes, occursIn_iff, toList_lowercase_append,
    lowercaseWithin_eq_lowercase_iff.mpr agree]
  exact List.infix_append' _ _ _

theorem includes_list_of_mem {items : List String} (member : value ∈ items) :
    (list items).includes value = true :=
  List.any_eq_true.mpr ⟨value, member, beq_self_eq_true _⟩

end FieldValue

namespace Evaluator

variable {evaluator : Evaluator} {task : Task} {field : String}

theorem evaluate_includes_and_notIncludes
    (included : (evaluator.vocabulary.resolve task field).includes value = true) :
    evaluator.evaluate task (.comparison field .includes value) = true ∧
      evaluator.evaluate task (.comparison field .notIncludes value) = false := by
  have related : evaluator.relates task field .includes value = true := included
  constructor
  · change (evaluator.relates task field .includes value != false) = true
    rw [related]
    rfl
  · change (evaluator.relates task field .includes value != true) = false
    rw [related]
    rfl

/-- A value that stands in the text of a field is included if its capital sigmas agree, that is
if it is lowered there as on its own. A value without a capital sigma always is, and so is an
item of a list. -/
theorem evaluate_includes_literal (evaluator : Evaluator) (task : Task) (field : String) :
    (∀ before value after,
      (SigmasAgree before value after ↔
        lowercaseWithin before.toList.reverse after.toList value.toList =
          (lowercase value).toList) ∧
      ('Σ' ∉ value.toList → SigmasAgree before value after) ∧
      (evaluator.vocabulary.resolve task field = .text (before ++ value ++ after) →
        SigmasAgree before value after →
        evaluator.evaluate task (.comparison field .includes value) = true ∧
          evaluator.evaluate task (.comparison field .notIncludes value) = false)) ∧
    ∀ items value, evaluator.vocabulary.resolve task field = .list items → value ∈ items →
      evaluator.evaluate task (.comparison field .includes value) = true ∧
        evaluator.evaluate task (.comparison field .notIncludes value) = false := by
  refine ⟨fun before value after => ⟨lowercaseWithin_eq_lowercase_iff.symm,
    fun noSigma => sigmasAgree_of_not_mem noSigma before after, fun isText agree => ?_⟩,
    fun items value isList member => ?_⟩
  · refine evaluate_includes_and_notIncludes ?_
    rw [isText]
    exact FieldValue.includes_text_of_sigmasAgree agree
  · refine evaluate_includes_and_notIncludes ?_
    rw [isList]
    exact FieldValue.includes_list_of_mem member

/-- A word in capitals is found at the end of its word, and a tag among others. -/
theorem evaluate_includes_literal_word_and_tag :
    let evaluator := Evaluator.of ⟨.default, .empty, Date.first⟩ none
    let task : Task := { id := "a", description := "Η ΟΔΟΣ ΗΜΑ", tags := ["#x", "#Σ"] }
    ((evaluator.vocabulary.resolve task "text" = .text ("Η " ++ "ΟΔΟΣ" ++ " ΗΜΑ") ∧
      SigmasAgree "Η " "ΟΔΟΣ" " ΗΜΑ") ∧
      evaluator.evaluate task (.comparison "text" .includes "ΟΔΟΣ") = true) ∧
    (evaluator.vocabulary.resolve task "tag" = .list ["#x", "#Σ"] ∧ "#Σ" ∈ ["#x", "#Σ"]) ∧
      evaluator.evaluate task (.comparison "tag" .notIncludes "#Σ") = false := by
  intro evaluator task
  have isText : evaluator.vocabulary.resolve task "text" =
      .text ("Η " ++ "ΟΔΟΣ" ++ " ΗΜΑ") := by decide +kernel
  have isList : evaluator.vocabulary.resolve task "tag" = .list ["#x", "#Σ"] := by
    decide +kernel
  have agree : SigmasAgree "Η " "ΟΔΟΣ" " ΗΜΑ" := by decide +kernel
  have isItem : "#Σ" ∈ ["#x", "#Σ"] := by decide
  have inText := (evaluate_includes_literal evaluator task "text").1 "Η " "ΟΔΟΣ" " ΗΜΑ"
  have inList := (evaluate_includes_literal evaluator task "tag").2
  exact ⟨⟨⟨isText, agree⟩, (inText.2.2 isText agree).1⟩, ⟨isList, isItem⟩,
    (inList _ _ isList isItem).2⟩

/-- At the end of the value the sigma is final, and in the text it is not. -/
theorem evaluate_includes_misses_capital_sigma :
    let evaluator := Evaluator.of ⟨.default, .empty, Date.first⟩ none
    let task : Task := { id := "a", description := "ΟΔΟΣΗΜΑ" }
    evaluator.vocabulary.resolve task "description" = .text ("" ++ "ΟΔΟΣ" ++ "ΗΜΑ") ∧
      evaluator.evaluate task (.comparison "description" .includes "ΟΔΟΣ") = false ∧
      evaluator.evaluate task (.comparison "description" .notIncludes "ΟΔΟΣ") = true := by
  decide +kernel

end Evaluator

end TaskQuery

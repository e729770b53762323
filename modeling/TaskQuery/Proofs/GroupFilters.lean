/-
# Filters for groups

A group is under a text of the field, and the filter that asks whether the field is this text
keeps every task in it. Two things could come in between. A text that stands for a date is
compared as a date, and on the side of the value some words stand for dates too; but a date is
written with hyphens, which stay when a text is lowered, so no text is a date and one of these
words. And of a list, the filter asks for any item, in any letter case.

The label for tasks without a value is left out: such tasks have nothing that could be asked
for.
-/

import TaskQuery.Proofs.DateComparisons
import TaskQuery.Proofs.Groups
import TaskQuery.Proofs.Lowering

namespace TaskQuery

open Text Scan

/-! ## Texts with a date -/

/-- Lowering keeps the characters that are lowered already. -/
theorem Text.IsLowered.mem_lowercaseAfter {c : Char} (lowered : IsLowered c) {cs : List Char}
    (member : c ∈ cs) (before : List Char) : c ∈ lowercaseAfter before cs := by
  induction cs generalizing before with
  | nil => cases member
  | cons d cs ih =>
      rw [lowercaseAfter]
      apply List.mem_append.mpr
      rcases List.mem_cons.mp member with rfl | later
      · left
        rw [if_neg lowered.ne_sigma, lowered.lowercaseChar_eq]
        exact List.mem_cons_self
      · exact Or.inr (ih later _)

theorem isLowered_hyphen : IsLowered '-' where
  ne_sigma := by decide
  lowercaseChar_eq := by decide

namespace PlainScan

variable {cs rest : List Char}

theorem eq_cons_of_yields_character {c : Char} {read : Unit}
    (reads : (character c).Yields cs read rest) : cs = c :: rest := by
  obtain ⟨found, between, accepts, more⟩ := yields_bind_iff.mp reads
  rcases yields_accept_iff.mp accepts with ⟨rfl, same⟩ | ⟨rfl, -, -⟩
  · obtain ⟨-, rfl⟩ := yields_pure_iff.mp more
    exact same
  · exact absurd more not_yields_fail

/-- There is a hyphen between the year of a date and its month. -/
theorem hyphen_mem_of_yields_date {date : Date} (reads : PlainScan.date.Yields cs date rest) :
    '-' ∈ cs := by
  obtain ⟨year, behind, isYear, more⟩ := yields_bind_iff.mp reads
  obtain ⟨_, between, isHyphen, -⟩ := yields_bind_iff.mp more
  obtain ⟨front, rfl, -⟩ := isLocal_year isYear
  rw [eq_cons_of_yields_character isHyphen]
  exact List.mem_append_right _ List.mem_cons_self

end PlainScan

/-- The text of a date is lowered to a text with a hyphen. -/
theorem hyphen_mem_lowercase_of_ofField? {text : String} {date : Date}
    (isDate : Date.ofField? text = some date) : '-' ∈ (lowercase text).toList := by
  obtain ⟨head, more, whole, -, reads⟩ := Date.ofField?_eq_some_iff.mp isDate
  rw [lowercase, String.toList_ofList, whole]
  apply isLowered_hyphen.mem_lowercaseAfter
  exact List.mem_append_left _ (PlainScan.hyphen_mem_of_yields_date reads)

/-- A text with a date in a field has the same date as a value. -/
theorem Setting.dateOf_of_ofField? (setting : Setting) {text : String} {date : Date}
    (isDate : Date.ofField? text = some date) : setting.dateOf text = some date := by
  have hyphen := hyphen_mem_lowercase_of_ofField? isDate
  rw [dateOf]
  split
  case h_4 => exact isDate
  -- the three words have no hyphen
  all_goals
    rename_i word
    simp [word] at hyphen

/-! ## Labels as values -/

namespace FieldValue

variable {actual : FieldValue} {label : String}

theorem HasText.holds (has : actual.HasText label) : actual.holds label = true := by
  cases has with
  | text nonempty => simp [FieldValue.holds]
  | item isItem nonempty =>
      simp only [FieldValue.holds, List.any_eq_true]
      exact ⟨label, isItem, beq_self_eq_true _⟩

/-- Where a value is compared as a date with one of its texts, the dates are the same. -/
theorem HasText.eq_of_datePair (has : actual.HasText label) (setting : Setting)
    {date limit : Date} (pair : setting.datePair actual label = some (date, limit)) :
    date = limit := by
  cases has with
  | text nonempty =>
      simp only [Setting.datePair, bind, Option.bind_eq_some_iff] at pair
      obtain ⟨first, isDate, second, isLimit, same⟩ := pair
      rw [setting.dateOf_of_ofField? isDate] at isLimit
      cases isLimit
      cases same
      rfl
  | item isItem nonempty => cases pair

theorem HasText.isEqual (has : actual.HasText label) (setting : Setting) (field : String) :
    setting.isEqual field actual label = true := by
  simp only [Setting.isEqual]
  split
  · cases pair : setting.datePair actual label with
    | none => exact has.holds
    | some dates => simpa using has.eq_of_datePair setting pair
  · exact has.holds

end FieldValue

namespace Evaluator

/-- Whatever the field, each task of a group under a text of the field is kept by the filter
that asks for this text, and is dropped by the one that asks for anything else. -/
theorem evaluate_is_label (evaluator : Evaluator) (field : String) (tasks : List Task)
    {group : TaskGroup} {task : Task}
    (isGroup : group ∈ (evaluator.vocabulary.groupTasks field tasks).groups)
    (labelled : group.label ≠ noneLabel) (isMember : task ∈ group.tasks) :
    evaluator.evaluate task (.comparison field .is group.label) = true ∧
      evaluator.evaluate task (.comparison field .isNot group.label) = false := by
  obtain ⟨-, tasksEq⟩ := evaluator.vocabulary.eq_of_mem_groups isGroup
  rw [tasksEq] at isMember
  have hasLabel := of_decide_eq_true (List.mem_filter.mp isMember).2
  have isEqual : evaluator.isEqual field (evaluator.vocabulary.resolve task field) group.label =
      true := by
    generalize group.label = label at hasLabel labelled ⊢
    cases hasLabel with
    | text has => exact has.isEqual evaluator.toSetting field
    | none without => exact absurd rfl labelled
  constructor
  · rw [evaluate_is_eq, isEqual]
  · simp [evaluate, compare, Setting.relates, Operator.splitNegation, isEqual]

/-- A date with a time of day, which two tasks have and a third has not, on a day without a next
one. -/
theorem evaluate_is_label_date :
    let evaluator : Evaluator := .of ⟨.default, .empty, .last⟩ none
    let first : Task := { id := "a", due := some "2025-01-15T10:00" }
    let other : Task := { id := "b", due := some "Tomorrow" }
    let second : Task := { id := "c", due := some "2025-01-15T10:00" }
    let group : TaskGroup := ⟨"2025-01-15T10:00", [first, second]⟩
    group ∈ (evaluator.vocabulary.groupTasks "Due_Date" [first, other, second]).groups ∧
      group.label ≠ noneLabel ∧ second ∈ group.tasks ∧
      evaluator.evaluate second (.comparison "Due_Date" .is "2025-01-15T10:00") = true ∧
      evaluator.evaluate second (.comparison "Due_Date" .isNot "2025-01-15T10:00") = false := by
  intro evaluator first other second group
  have isGroup :
      group ∈ (evaluator.vocabulary.groupTasks "Due_Date" [first, other, second]).groups := by
    apply List.mem_of_getElem? (i := 0)
    rfl
  have labelled : group.label ≠ noneLabel := by decide
  have isMember : second ∈ group.tasks := List.mem_cons_of_mem _ List.mem_cons_self
  exact ⟨isGroup, labelled, isMember,
    evaluator.evaluate_is_label "Due_Date" [first, other, second] isGroup labelled isMember⟩

end Evaluator

end TaskQuery

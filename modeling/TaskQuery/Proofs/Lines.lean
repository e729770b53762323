/-
# Lines of a text

A line break ends a line. A text that is written line by line has these lines again, unless a
break stands inside one of them, and then it has one line more for each.
-/

import Mathlib.Algebra.GroupWithZero.Nat
import TaskQuery.Proofs.Spelling
import TaskQuery.Text.Padding

namespace TaskQuery.Text

/-- The lines of some characters. What stands behind the last line break is a line if there is
anything. -/
def linesOf : List Char → List (List Char)
  | [] => []
  | c :: cs =>
      if c = '\n' then [] :: linesOf cs
      else
        match linesOf cs with
        | [] => [[c]]
        | line :: others => (c :: line) :: others

/-- The lines of a text. -/
def lines (text : String) : List String :=
  (linesOf text.toList).map String.ofList

/-- The number of line breaks in a text. -/
def breaks (text : String) : Nat :=
  text.toList.count '\n'

/-- Lines as they are written, with a break behind each. -/
def unlines (written : List String) : String :=
  String.join (written.map (· ++ "\n"))

/-- The number of blanks at the front of a line. -/
def indentation (line : String) : Nat :=
  (line.toList.takeWhile (· == ' ')).length

theorem linesOf_append_break {line : List Char} (whole : '\n' ∉ line) (rest : List Char) :
    linesOf (line ++ '\n' :: rest) = line :: linesOf rest := by
  induction line with
  | nil => rw [List.nil_append, linesOf, if_pos rfl]
  | cons c line ih =>
      rw [List.mem_cons, not_or] at whole
      obtain ⟨other, others⟩ := whole
      rw [List.cons_append, linesOf, if_neg (Ne.symm other), ih others]

theorem length_linesOf_append_break (front rest : List Char) :
    (linesOf (front ++ '\n' :: rest)).length = 1 + front.count '\n' + (linesOf rest).length := by
  induction front with
  | nil => rw [List.nil_append, linesOf, if_pos rfl, List.length_cons, List.count_nil, Nat.add_comm]
  | cons c front ih =>
      rw [List.cons_append, linesOf]
      split
      · rename_i isBreak
        rw [List.length_cons, ih, isBreak, List.count_cons_self]
        omega
      · rename_i other
        rw [List.count_cons_of_ne other]
        cases read : linesOf (front ++ '\n' :: rest) with
        | nil =>
            rw [read, List.length_nil] at ih
            omega
        | cons line others =>
            rw [read] at ih
            exact ih

theorem unlines_cons (line : String) (written : List String) :
    unlines (line :: written) = line ++ "\n" ++ unlines written := by
  rw [unlines, List.map_cons, String.join_cons]
  rfl

theorem unlines_append (first second : List String) :
    unlines (first ++ second) = unlines first ++ unlines second := by
  rw [unlines, List.map_append, String.join_append]
  rfl

theorem toList_unlines_cons (line : String) (written : List String) :
    (unlines (line :: written)).toList = line.toList ++ '\n' :: (unlines written).toList := by
  rw [unlines_cons, String.toList_append, String.toList_append, List.append_assoc]
  rfl

/-- Lines without a break inside are what a text of them has as lines. -/
theorem lines_unlines {written : List String} (whole : ∀ line ∈ written, '\n' ∉ line.toList) :
    lines (unlines written) = written := by
  induction written with
  | nil => rfl
  | cons line written ih =>
      obtain ⟨here, later⟩ := List.forall_mem_cons.mp whole
      rw [lines, toList_unlines_cons, linesOf_append_break here, List.map_cons,
        String.ofList_toList]
      exact congrArg _ (ih later)

/-- A break inside a line makes two lines of it. -/
theorem length_lines_unlines (written : List String) :
    (lines (unlines written)).length = written.length + (written.map breaks).sum := by
  induction written with
  | nil => rfl
  | cons line written ih =>
      rw [lines, List.length_map] at ih ⊢
      rw [toList_unlines_cons, length_linesOf_append_break, ih, List.length_cons, List.map_cons,
        List.sum_cons, breaks]
      omega

theorem breaks_append (first second : String) :
    breaks (first ++ second) = breaks first + breaks second := by
  rw [breaks, String.toList_append, List.count_append]
  rfl

theorem breaks_eq_zero_iff {text : String} : breaks text = 0 ↔ '\n' ∉ text.toList :=
  List.count_eq_zero

/-- Blanks in front of what starts with none are the indentation. -/
theorem indentation_spaces_append (count : Nat) {text : String}
    (noBlank : ∀ c ∈ text.toList.head?, c ≠ ' ') : indentation (spaces count ++ text) = count := by
  have inside : (List.replicate count ' ').all (· == ' ') = true := by simp
  have stop : ∀ c ∈ text.toList.head?, (c == ' ') = false :=
    fun c isHead => beq_eq_false_iff_ne.mpr (noBlank c isHead)
  rw [indentation, String.toList_append, spaces, String.toList_ofList,
    takeWhile_append_of_stop inside stop, List.length_replicate]

end TaskQuery.Text

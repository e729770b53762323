/-
# How far scanners reach

What a scanner reads off the front of a text depends on the characters that it takes and
on the one behind them, and on nothing else. So it reads the same from any text with that
front which ends there or goes on with the same character.

The scanners of dates are put together from three that take characters and from decisions
that read nothing. What each of the three takes is said outright, and the rest follows for
scanners in a row.
-/

import Mathlib.Data.List.TakeWhile
import TaskQuery.Calendar.Instant
import TaskQuery.Proofs.LiteralEnds

namespace TaskQuery

open Text

namespace Scan

variable {ε α β : Type} {p : Char → Bool} {cs rest : List Char}

/-- A scanner reads a value off the front of a text and leaves the rest. -/
def Yields (scanner : Scan ε α) (cs : List Char) (value : α) (rest : List Char) : Prop :=
  ∃ read, scanner cs = .ok read ∧ read.value = value ∧ read.rest = rest

theorem Yields.unique {scanner : Scan ε α} {value value' : α} {rest' : List Char}
    (first : scanner.Yields cs value rest) (second : scanner.Yields cs value' rest') :
    value = value' ∧ rest = rest' := by
  obtain ⟨read, isRead, rfl, rfl⟩ := first
  obtain ⟨read', isRead', rfl, rfl⟩ := second
  obtain rfl := Except.ok.inj (isRead.symm.trans isRead')
  exact ⟨rfl, rfl⟩

theorem yields_bind_iff {first : Scan ε α} {second : α → Scan ε β} {value : β} :
    (first >>= second).Yields cs value rest ↔
      ∃ read between, first.Yields cs read between ∧
        (second read).Yields between value rest := by
  have step : (first >>= second) cs = Scan.bind first second cs := rfl
  rw [Yields, step, Scan.bind]
  constructor
  · rintro ⟨read, isRead, rfl, rfl⟩
    split at isRead
    · cases isRead
    · rename_i read₁ isFirst
      split at isRead
      · cases isRead
      · rename_i read₂ isSecond
        cases isRead
        exact ⟨_, _, ⟨read₁, isFirst, rfl, rfl⟩, read₂, isSecond, rfl, rfl⟩
  · rintro ⟨_, _, ⟨read₁, isFirst, rfl, rfl⟩, read₂, isSecond, rfl, rfl⟩
    rw [isFirst]
    simp only [isSecond]
    exact ⟨_, rfl, rfl, rfl⟩

theorem yields_pure_iff {given value : α} :
    (pure given : Scan ε α).Yields cs value rest ↔ given = value ∧ cs = rest := by
  constructor
  · rintro ⟨read, isRead, rfl, rfl⟩
    cases isRead
    exact ⟨rfl, rfl⟩
  · rintro ⟨rfl, rfl⟩
    exact ⟨_, rfl, rfl, rfl⟩

theorem not_yields_fail {fault : ε} {value : α} :
    ¬ (fail fault : Scan ε α).Yields cs value rest := by
  rintro ⟨read, isRead, -⟩
  cases isRead

theorem yields_takeWhile_iff {taken : List Char} :
    (takeWhile p : Scan ε (List Char)).Yields cs taken rest ↔
      cs = taken ++ rest ∧ (∀ c ∈ taken, p c = true) ∧ ∀ c ∈ rest.head?, p c = false := by
  constructor
  · rintro ⟨read, isRead, rfl, rfl⟩
    cases isRead
    refine ⟨List.takeWhile_append_dropWhile.symm, fun c member => List.mem_takeWhile_imp member,
      fun c isHead => ?_⟩
    have stops := List.head?_dropWhile_not p cs
    rw [Option.mem_def.mp isHead] at stops
    simpa using stops
  · rintro ⟨rfl, holds, stops⟩
    refine ⟨_, rfl, ?_, ?_⟩
    · rw [takeWhile_append_of_head stops]
      exact List.takeWhile_eq_self_iff.mpr holds
    · simp only [dropWhile_append_of_head stops, List.dropWhile_eq_nil_iff.mpr holds,
        List.nil_append]

theorem yields_takeWhileUpTo_iff {count : Nat} {taken : List Char} :
    (takeWhileUpTo count p : Scan ε (List Char)).Yields cs taken rest ↔
      cs = taken ++ rest ∧ (∀ c ∈ taken, p c = true) ∧ taken.length ≤ count ∧
        (taken.length = count ∨ ∀ c ∈ rest.head?, p c = false) := by
  constructor
  · rintro ⟨read, isRead, rfl, rfl⟩
    cases isRead
    have inside := List.takeWhile_append_dropWhile (p := p) (l := cs.take count)
    have whole : (cs.take count).takeWhile p ++
        ((cs.take count).dropWhile p ++ cs.drop count) = cs := by
      rw [← List.append_assoc, inside, List.take_append_drop]
    have left : cs.drop ((cs.take count).takeWhile p).length =
        (cs.take count).dropWhile p ++ cs.drop count :=
      (congrArg (List.drop _) whole.symm).trans List.drop_left
    refine ⟨?_, fun c member => List.mem_takeWhile_imp member, ?_, ?_⟩
    · simp only [left, whole]
    · exact Nat.le_trans (List.takeWhile_sublist p).length_le (List.length_take_le count cs)
    · simp only [left]
      cases behind : (cs.take count).dropWhile p with
      | nil =>
          rw [behind, List.append_nil] at inside
          rw [inside, List.length_take]
          rcases Nat.le_total count cs.length with enough | short
          · exact Or.inl (Nat.min_eq_left enough)
          · rw [List.drop_eq_nil_of_le short]
            exact Or.inr fun c isHead => nomatch isHead
      | cons c more =>
          have stops := List.head?_dropWhile_not p (cs.take count)
          rw [behind] at stops
          refine Or.inr fun d isHead => ?_
          obtain rfl : c = d := Option.some.inj isHead
          simpa using stops
  · rintro ⟨rfl, holds, atMost, stops⟩
    have ends : ∀ c ∈ (rest.take (count - taken.length)).head?, p c = false := by
      rcases stops with full | stops
      · rw [full, Nat.sub_self]
        exact fun c isHead => nomatch isHead
      · intro c isHead
        rw [List.head?_take] at isHead
        split at isHead
        · cases isHead
        · exact stops c isHead
    have taking : ((taken ++ rest).take count).takeWhile p = taken := by
      rw [List.take_append, List.take_of_length_le atMost, takeWhile_append_of_head ends]
      exact List.takeWhile_eq_self_iff.mpr holds
    refine ⟨_, rfl, taking, ?_⟩
    simp only [taking]
    exact List.drop_left

theorem yields_accept_iff {c : Char} {found : Bool} :
    (accept [c] : Scan ε Bool).Yields cs found rest ↔
      found = true ∧ cs = c :: rest ∨ found = false ∧ cs = rest ∧ rest.head? ≠ some c := by
  rw [Yields, accept]
  cases cs with
  | nil =>
      constructor
      · rintro ⟨read, isRead, rfl, rfl⟩
        cases isRead
        exact Or.inr ⟨rfl, rfl, nofun⟩
      · rintro (⟨-, same⟩ | ⟨rfl, rfl, -⟩)
        · cases same
        · exact ⟨_, rfl, rfl, rfl⟩
  | cons d cs =>
      by_cases same : c = d
      · subst same
        rw [if_pos (by simp)]
        constructor
        · rintro ⟨read, isRead, rfl, rfl⟩
          cases isRead
          exact Or.inl ⟨rfl, rfl⟩
        · rintro (⟨rfl, same⟩ | ⟨-, rfl, other⟩)
          · obtain ⟨-, rfl⟩ := List.cons.inj same
            exact ⟨_, rfl, rfl, rfl⟩
          · exact absurd rfl other
      · rw [if_neg (by simpa using same)]
        constructor
        · rintro ⟨read, isRead, rfl, rfl⟩
          cases isRead
          exact Or.inr ⟨rfl, rfl, fun isHead => same (Option.some.inj isHead).symm⟩
        · rintro (⟨-, equal⟩ | ⟨rfl, rfl, -⟩)
          · exact absurd (List.cons.inj equal).1.symm same
          · exact ⟨_, rfl, rfl, rfl⟩

/-- What a scanner reads depends on what it takes and the character behind. -/
def IsLocal (scanner : Scan ε α) : Prop :=
  ∀ ⦃cs value rest⦄, scanner.Yields cs value rest →
    ∃ front, cs = front ++ rest ∧
      ∀ kept, (∀ c ∈ kept.head?, rest.head? = some c) → scanner.Yields (front ++ kept) value kept

namespace IsLocal

theorem pure {value : α} : IsLocal (Pure.pure value : Scan ε α) := by
  intro cs read rest yields
  obtain ⟨rfl, rfl⟩ := yields_pure_iff.mp yields
  exact ⟨[], rfl, fun kept _ => yields_pure_iff.mpr ⟨rfl, rfl⟩⟩

theorem fail {fault : ε} : IsLocal (Scan.fail fault : Scan ε α) :=
  fun _ _ _ yields => absurd yields not_yields_fail

theorem bind {first : Scan ε α} {second : α → Scan ε β} (isFirst : IsLocal first)
    (isSecond : ∀ value, IsLocal (second value)) : IsLocal (first >>= second) := by
  intro cs value rest yields
  obtain ⟨read, between, yieldsFirst, yieldsSecond⟩ := yields_bind_iff.mp yields
  obtain ⟨front, rfl, again⟩ := isFirst yieldsFirst
  obtain ⟨behind, rfl, againBehind⟩ := isSecond read yieldsSecond
  refine ⟨front ++ behind, (List.append_assoc _ _ _).symm, fun kept alike => ?_⟩
  rw [List.append_assoc]
  refine yields_bind_iff.mpr ⟨read, behind ++ kept, again _ ?_, againBehind kept alike⟩
  -- The first scanner sees what the second one takes, or what is kept.
  cases behind with
  | nil => exact alike
  | cons c behind => exact fun d isHead => isHead

theorem ite {condition : Prop} [Decidable condition] {first second : Scan ε α}
    (isFirst : IsLocal first) (isSecond : IsLocal second) :
    IsLocal (if condition then first else second) := by
  split
  · exact isFirst
  · exact isSecond

theorem takeWhile : IsLocal (Scan.takeWhile p : Scan ε (List Char)) := by
  intro cs taken rest yields
  obtain ⟨rfl, holds, stops⟩ := yields_takeWhile_iff.mp yields
  exact ⟨taken, rfl, fun kept alike =>
    yields_takeWhile_iff.mpr ⟨rfl, holds, fun c isHead => stops c (alike c isHead)⟩⟩

theorem takeWhileUpTo {count : Nat} :
    IsLocal (Scan.takeWhileUpTo count p : Scan ε (List Char)) := by
  intro cs taken rest yields
  obtain ⟨rfl, holds, atMost, stops⟩ := yields_takeWhileUpTo_iff.mp yields
  exact ⟨taken, rfl, fun kept alike => yields_takeWhileUpTo_iff.mpr
    ⟨rfl, holds, atMost, stops.imp_right fun stops c isHead => stops c (alike c isHead)⟩⟩

theorem accept {c : Char} : IsLocal (Scan.accept [c] : Scan ε Bool) := by
  intro cs found rest yields
  rcases yields_accept_iff.mp yields with ⟨rfl, rfl⟩ | ⟨rfl, rfl, other⟩
  · exact ⟨[c], rfl, fun kept _ => yields_accept_iff.mpr (Or.inl ⟨rfl, rfl⟩)⟩
  · refine ⟨[], rfl, fun kept alike => yields_accept_iff.mpr (Or.inr ⟨rfl, rfl, ?_⟩)⟩
    exact fun isHead => other (alike c isHead)

end IsLocal

end Scan

end TaskQuery

/-
# Spelled characters

A document that has no code can still hold one, because it can spell a character by its code
number. There are four ways to spell the character that every code starts with. A text that is
read from a document has this character only if the document has it or spells it, so what a
plain document holds is plain unless one of the four stands in it.
-/

import Mathlib.Data.List.Infix
import TaskQuery.Proofs.PlainText

namespace TaskQuery

open Text

/-- The ways in which documents spell the character that codes start with: `u` and four digits
behind a backslash, or `U` and eight. -/
def escapeSpellings : List (List Char) :=
  [['\\', 'u', '0', '0', '1', 'b'], ['\\', 'u', '0', '0', '1', 'B'],
    ['\\', 'U', '0', '0', '0', '0', '0', '0', '1', 'b'],
    ['\\', 'U', '0', '0', '0', '0', '0', '0', '1', 'B']]

/-- A document spells the character that codes start with. -/
def SpellsEscape (document : List Char) : Prop :=
  ∃ spelling ∈ escapeSpellings, spelling <:+: document

instance (document : List Char) : Decidable (SpellsEscape document) :=
  inferInstanceAs (Decidable (∃ spelling ∈ escapeSpellings, spelling <:+: document))

/-- The character that codes start with is not among some characters, unless a document spells
it. -/
def OnlySpelled (document cs : List Char) : Prop :=
  '\x1b' ∈ cs → SpellsEscape document

namespace OnlySpelled

variable {document first second : List Char} {c : Char}

theorem of_not_mem (absent : '\x1b' ∉ first) : OnlySpelled document first :=
  fun escape => absurd escape absent

theorem of_subset (spelled : OnlySpelled document second) (inside : first ⊆ second) :
    OnlySpelled document first :=
  fun escape => spelled (inside escape)

theorem append (isFirst : OnlySpelled document first) (isSecond : OnlySpelled document second) :
    OnlySpelled document (first ++ second) := by
  intro escape
  rcases List.mem_append.mp escape with early | late
  · exact isFirst early
  · exact isSecond late

theorem cons (isFirst : OnlySpelled document [c]) (isSecond : OnlySpelled document second) :
    OnlySpelled document (c :: second) :=
  append isFirst isSecond

theorem of_ne (other : c ≠ '\x1b') : OnlySpelled document [c] :=
  of_not_mem fun escape => other (List.mem_singleton.mp escape).symm

theorem reverse (spelled : OnlySpelled document first) : OnlySpelled document first.reverse :=
  spelled.of_subset fun _ => List.mem_reverse.mp

end OnlySpelled

/-- A text has the character that codes start with only if a document spells it. -/
def SpelledText (document : List Char) (text : String) : Prop :=
  OnlySpelled document text.toList

theorem SpelledText.ofList {document cs : List Char} (spelled : OnlySpelled document cs) :
    SpelledText document (String.ofList cs) := by
  rwa [SpelledText, String.toList_ofList]

theorem SpelledText.of_isPlain {document : List Char} {text : String} (plain : IsPlain text) :
    SpelledText document text :=
  .of_not_mem plain

theorem SpelledText.isPlain {document : List Char} (unspelled : ¬ SpellsEscape document)
    {text : String} (spelled : SpelledText document text) : IsPlain text :=
  fun escape => unspelled (spelled escape)

/-! ## Hexadecimal digits -/

/-- The hexadecimal digits of the values that matter here. -/
theorem hexValue?_cases {c : Char} {value : Nat} (isDigit : hexValue? c = some value) :
    value < 16 ∧ (value = 0 → c = '0') ∧ (value = 1 → c = '1') ∧
      (value = 11 → c = 'b' ∨ c = 'B') := by
  have small : c.toNat < 128 := by
    rw [hexValue?] at isDigit
    split at isDigit
    · rename_i digit
      rw [Char.isDigit, Bool.and_eq_true, decide_eq_true_eq, decide_eq_true_eq] at digit
      exact Nat.lt_of_le_of_lt (UInt32.le_iff_toNat_le.mp digit.2) (by decide)
    split at isDigit
    · rename_i letter
      exact Nat.lt_of_le_of_lt (UInt32.le_iff_toNat_le.mp letter.2) (by decide)
    split at isDigit
    · rename_i letter
      exact Nat.lt_of_le_of_lt (UInt32.le_iff_toNat_le.mp letter.2) (by decide)
    · cases isDigit
  have checked : ∀ n < 128, ∀ value ∈ hexValue? (Char.ofNat n),
      value < 16 ∧ (value = 0 → Char.ofNat n = '0') ∧ (value = 1 → Char.ofNat n = '1') ∧
        (value = 11 → Char.ofNat n = 'b' ∨ Char.ofNat n = 'B') := by
    decide +kernel
  have known := checked c.toNat small value
  rw [Char.ofNat_toNat] at known
  exact known isDigit

/-- Every character is a hexadecimal digit. -/
def AreHex (digits : List Char) : Prop :=
  ∀ c ∈ digits, (hexValue? c).isSome = true

/-- The last digit, and the value of those in front of it. -/
theorem natOfDigitsIn_concat {digits : List Char} {c : Char} (areHex : AreHex (digits ++ [c])) :
    AreHex digits ∧ ∃ value, hexValue? c = some value ∧
      natOfDigitsIn 16 (digits ++ [c]) = natOfDigitsIn 16 digits * 16 + value := by
  obtain ⟨front, last⟩ := List.forall_mem_append.mp areHex
  obtain ⟨value, isValue⟩ := Option.isSome_iff_exists.mp (last c List.mem_cons_self)
  refine ⟨front, value, isValue, ?_⟩
  rw [natOfDigitsIn, List.foldl_append, List.foldl_cons, List.foldl_nil, isValue]
  rfl

theorem eq_replicate_of_natOfDigitsIn {digits : List Char} (areHex : AreHex digits)
    (zero : natOfDigitsIn 16 digits = 0) : digits = List.replicate digits.length '0' := by
  induction digits using List.reverseRecOn with
  | nil => rfl
  | append_singleton digits c ih =>
      obtain ⟨front, value, isValue, split⟩ := natOfDigitsIn_concat areHex
      obtain ⟨-, isZero, -, -⟩ := hexValue?_cases isValue
      rw [List.length_append, List.length_singleton, List.replicate_succ', ← ih front (by omega),
        isZero (by omega)]

/-- Digits that spell the character have zeros in front of its own two. -/
theorem eq_of_natOfDigitsIn {digits : List Char} (areHex : AreHex digits)
    (spells : natOfDigitsIn 16 digits = 0x1b) :
    ∃ zeros, ∃ last ∈ ['b', 'B'], digits = List.replicate zeros '0' ++ ['1', last] := by
  induction digits using List.reverseRecOn with
  | nil => cases spells
  | append_singleton digits last _ =>
      obtain ⟨front, value, isValue, split⟩ := natOfDigitsIn_concat areHex
      obtain ⟨small, -, -, isEleven⟩ := hexValue?_cases isValue
      have isLast : last ∈ ['b', 'B'] := by simpa using isEleven (by omega)
      have rest : natOfDigitsIn 16 digits = 1 := by omega
      clear ‹_ → _›
      induction digits using List.reverseRecOn with
      | nil => cases rest
      | append_singleton digits c _ =>
          obtain ⟨zeros, value, isValue, split⟩ := natOfDigitsIn_concat front
          obtain ⟨small, -, isOne, -⟩ := hexValue?_cases isValue
          refine ⟨digits.length, last, isLast, ?_⟩
          rw [isOne (by omega), List.append_assoc,
            ← eq_replicate_of_natOfDigitsIn zeros (by omega)]
          rfl

theorem natOfDigitsIn_of_charOfHex? {digits : List Char}
    (isChar : charOfHex? digits = some '\x1b') : natOfDigitsIn 16 digits = 0x1b := by
  rw [charOfHex?] at isChar
  split at isChar
  · cases isChar
  split at isChar
  · by_contra other
    exact ofNat_ne_escape other (Option.some.inj isChar)
  · cases isChar

/-- A document with an escape whose digits have the value spells the character. -/
theorem spellsEscape_of_digits {document digits : List Char} {mark : Char} {width : Nat}
    (isMark : (mark, width) ∈ [('u', 4), ('U', 8)]) (isWidth : digits.length = width)
    (areHex : AreHex digits) (spells : natOfDigitsIn 16 digits = 0x1b)
    (stands : '\\' :: mark :: digits <:+: document) : SpellsEscape document := by
  refine ⟨_, ?_, stands⟩
  obtain ⟨zeros, last, isLast, rfl⟩ := eq_of_natOfDigitsIn areHex spells
  rw [List.length_append, List.length_replicate] at isWidth
  have isZeros : zeros = width - 2 := by simp at isWidth; omega
  subst isZeros
  simp only [List.mem_cons, List.not_mem_nil, or_false, Prod.mk.injEq] at isMark isLast
  rcases isMark with ⟨rfl, rfl⟩ | ⟨rfl, rfl⟩ <;> rcases isLast with rfl | rfl <;> decide

end TaskQuery

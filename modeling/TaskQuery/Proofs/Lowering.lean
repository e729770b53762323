/-
# Lowering twice

Lowering a text that was lowered changes nothing. The tables of letter case are checked
for this: no letter that lowering brings in is one that lowering changes. This also
holds of the two letters that the special rules bring in, and what depends on the
neighbours of a letter is only the form of a capital sigma, of which a lowered text has
none.

The check compares two sets of code points. Each is written as one number that has a
bit for every member, so that it is a single operation on numbers.
-/

import TaskQuery.Proofs.Spelling
import TaskQuery.Text.Lowercase

namespace TaskQuery.Text

/-! ## Sets of code points as numbers -/

/-- The number whose bits are the members of a list. -/
def bitsOf : List Nat → Nat
  | [] => 0
  | code :: codes => 1 <<< code ||| bitsOf codes

theorem testBit_bitsOf_iff {codes : List Nat} {code : Nat} :
    (bitsOf codes).testBit code = true ↔ code ∈ codes := by
  induction codes with
  | nil => simp [bitsOf]
  | cons first codes ih =>
      rw [bitsOf, Nat.testBit_or, Bool.or_eq_true, ih, Nat.one_shiftLeft, Nat.testBit_two_pow,
        decide_eq_true_eq, List.mem_cons, eq_comm]

/-- Lists without a common bit have no common member. -/
theorem not_mem_of_bitsOf_and_eq_zero {left right : List Nat}
    (apart : bitsOf left &&& bitsOf right = 0) {code : Nat} (member : code ∈ left) :
    code ∉ right := by
  intro common
  have bit := congrArg (fun bits : Nat => bits.testBit code) apart
  simp [testBit_bitsOf_iff.mpr member, testBit_bitsOf_iff.mpr common] at bit

/-! ## Letters that are lowered -/

/-- The code points of a run. -/
def CaseRun.codes (run : CaseRun) : List Nat :=
  List.range' run.first ((run.last - run.first) / run.step + 1) run.step

/-- What the code points of a run are lowered to. -/
def CaseRun.images (run : CaseRun) : List Nat :=
  run.codes.map fun code : Nat => (code + run.shift).toNat

/-- The letters that lowering changes. -/
def capitals : List Nat :=
  List.range' 0x41 26 ++ 0x130 :: lowercaseRuns.flatMap CaseRun.codes

/-- ASCII without its capitals. -/
def asciiRest : List Nat :=
  List.range' 0 0x41 ++ List.range' 0x5B 0x25

theorem mem_asciiRest_iff {code : Nat} :
    code ∈ asciiRest ↔ code < 128 ∧ ¬ (0x41 ≤ code ∧ code < 0x5B) := by
  simp only [asciiRest, List.mem_append, List.mem_range'_1]
  omega

/-- What lowering can give instead of a capital: a code of ASCII, a letter of the special
rules, or an image in the table. -/
def replacements : List Nat :=
  asciiRest ++ [0x307, 0x3C2, 0x3C3] ++ lowercaseRuns.flatMap CaseRun.images

/-- No letter that lowering brings in is changed by lowering again. -/
theorem not_mem_capitals_of_mem_replacements {code : Nat} (member : code ∈ replacements) :
    code ∉ capitals :=
  not_mem_of_bitsOf_and_eq_zero (by decide +kernel) member

theorem mem_codes_of_within {run : CaseRun} {code : Nat}
    (within : (run.first ≤ code && code ≤ run.last && (code - run.first) % run.step == 0) = true) :
    code ∈ run.codes := by
  simp only [Bool.and_eq_true, decide_eq_true_eq, beq_iff_eq] at within
  obtain ⟨⟨low, high⟩, onStep⟩ := within
  refine List.mem_range'.mpr ⟨(code - run.first) / run.step, ?_, ?_⟩
  · exact Nat.lt_succ_of_le (Nat.div_le_div_right (Nat.sub_le_sub_right high _))
  · have split := Nat.div_add_mod (code - run.first) run.step
    omega

/-- A code point outside ASCII stays, unless it is a capital, which is replaced. -/
theorem lowercaseCode_eq_or (code : Nat) :
    lowercaseCode code = code ∨ code ∈ capitals ∧ lowercaseCode code ∈ replacements := by
  rw [lowercaseCode]
  split
  · rename_i run found
    have isRun := List.mem_of_find?_eq_some found
    have isCode : code ∈ run.codes := by
      have within := List.find?_some found
      exact mem_codes_of_within within
    refine Or.inr ⟨?_, ?_⟩
    · exact List.mem_append_right _
        (List.mem_cons_of_mem _ (List.mem_flatMap.mpr ⟨run, isRun, isCode⟩))
    · exact List.mem_append_right _
        (List.mem_flatMap.mpr ⟨run, isRun, List.mem_map.mpr ⟨code, isCode, rfl⟩⟩)
  · exact Or.inl rfl

/-! ## Lowered characters -/

/-- Lowering leaves a character as it is, whatever its neighbours are. -/
structure IsLowered (c : Char) : Prop where
  ne_sigma : c ≠ 'Σ'
  lowercaseChar_eq : lowercaseChar c = [c]

theorem isLowered_of_not_mem_capitals {c : Char} (notCapital : c.toNat ∉ capitals) :
    IsLowered c where
  ne_sigma := by
    rintro rfl
    exact notCapital (by decide +kernel)
  lowercaseChar_eq := by
    rw [lowercaseChar]
    split
    · rename_i small
      have checked : ∀ n < 128, ¬ (0x41 ≤ n ∧ n < 0x5B) →
          (Char.ofNat n).toLower = Char.ofNat n := by
        decide +kernel
      have outside : ¬ (0x41 ≤ c.toNat ∧ c.toNat < 0x5B) := fun inside =>
        notCapital (List.mem_append_left _ (List.mem_range'_1.mpr inside))
      rw [← Char.ofNat_toNat c, checked c.toNat small outside]
    · split
      · rename_i dotted
        exact absurd (List.mem_append_right _ (dotted ▸ List.mem_cons_self)) notCapital
      · rcases lowercaseCode_eq_or c.toNat with stays | ⟨capital, -⟩
        · rw [stays, Char.ofNat_toNat]
        · exact absurd capital notCapital

/-- A code that is no character counts as the first of all characters. -/
theorem isLowered_ofNat {code : Nat} (isReplacement : code ∈ replacements) :
    IsLowered (Char.ofNat code) := by
  refine isLowered_of_not_mem_capitals (not_mem_capitals_of_mem_replacements ?_)
  by_cases valid : code.isValidChar
  · rw [Char.ofNat, dif_pos valid]
    exact isReplacement
  · rw [Char.ofNat, dif_neg valid]
    decide

/-- Lowering a character gives characters that are lowered. -/
theorem isLowered_of_mem_lowercaseChar {c d : Char} (notSigma : c ≠ 'Σ')
    (member : d ∈ lowercaseChar c) : IsLowered d := by
  rw [lowercaseChar] at member
  split at member
  · rename_i small
    obtain rfl := List.mem_singleton.mp member
    have checked : ∀ n < 128, (Char.ofNat n).toLower.toNat < 128 ∧
        ¬ (0x41 ≤ (Char.ofNat n).toLower.toNat ∧ (Char.ofNat n).toLower.toNat < 0x5B) := by
      decide +kernel
    have inRest : c.toLower.toNat ∈ asciiRest :=
      forall_ascii (p := fun c => c.toLower.toNat ∈ asciiRest)
        (fun n isAscii => mem_asciiRest_iff.mpr (checked n isAscii)) small
    have isReplacement : c.toLower.toNat ∈ replacements :=
      List.mem_append_left _ (List.mem_append_left _ inRest)
    exact isLowered_of_not_mem_capitals (not_mem_capitals_of_mem_replacements isReplacement)
  · rename_i notAscii
    split at member
    · rcases List.mem_cons.mp member with rfl | member
      · exact isLowered_ofNat (show 0x69 ∈ replacements by decide)
      · obtain rfl := List.mem_singleton.mp member
        exact isLowered_ofNat (by decide)
    · rename_i notDotted
      obtain rfl := List.mem_singleton.mp member
      rcases lowercaseCode_eq_or c.toNat with stays | ⟨-, isReplacement⟩
      · rw [stays, Char.ofNat_toNat]
        refine ⟨notSigma, ?_⟩
        rw [lowercaseChar, if_neg notAscii, if_neg notDotted, stays, Char.ofNat_toNat]
      · exact isLowered_ofNat isReplacement

/-! ## Lowered texts -/

theorem isLowered_of_mem_lowercaseAfter {before cs : List Char} :
    ∀ d ∈ lowercaseAfter before cs, IsLowered d := by
  induction cs generalizing before with
  | nil =>
      intro d member
      cases member
  | cons c cs ih =>
      intro d member
      rw [lowercaseAfter] at member
      rcases List.mem_append.mp member with member | member
      · split at member
        · obtain rfl := List.mem_singleton.mp member
          split
          · exact isLowered_ofNat (show 0x3C2 ∈ replacements by decide)
          · exact isLowered_ofNat (show 0x3C3 ∈ replacements by decide)
        · exact isLowered_of_mem_lowercaseChar ‹_› member
      · exact ih d member

theorem lowercaseAfter_of_isLowered {cs : List Char} (lowered : ∀ c ∈ cs, IsLowered c)
    (before : List Char) : lowercaseAfter before cs = cs := by
  induction cs generalizing before with
  | nil => rfl
  | cons c cs ih =>
      obtain ⟨first, others⟩ := List.forall_mem_cons.mp lowered
      rw [lowercaseAfter, if_neg first.ne_sigma, first.lowercaseChar_eq, ih others]
      rfl

/-- Lowering a text that was lowered changes nothing. -/
theorem lowercase_lowercase (text : String) : lowercase (lowercase text) = lowercase text := by
  rw [lowercase, lowercase, String.toList_ofList,
    lowercaseAfter_of_isLowered isLowered_of_mem_lowercaseAfter]

end TaskQuery.Text

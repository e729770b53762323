/-
# Reading plain JSON

As with TOML, a document that cannot be read is reported with a character of it at most. The
texts of a document that can be read are those that it has between quotes. The machine that
reads it keeps them in containers until it has the whole value, and none is made up on the way.
-/

import TaskQuery.Command.TaskFile
import TaskQuery.Proofs.PlainScans
import TaskQuery.Proofs.SpelledCharacters

namespace TaskQuery

open Text

namespace Json

/-! ## Texts of a document -/

/-- Every text in a value has a property, the names in it included. -/
inductive AllTexts (p : String → Prop) : Json → Prop
  | null : AllTexts p .null
  | bool (value : Bool) : AllTexts p (.bool value)
  | number (value : JsonNumber) : AllTexts p (.number value)
  | string {text : String} (holds : p text) : AllTexts p (.string text)
  | array {items : List Json} (inside : ∀ item ∈ items, AllTexts p item) :
      AllTexts p (.array items)
  | object {members : List (String × Json)} (names : ∀ entry ∈ members, p entry.1)
      (values : ∀ entry ∈ members, AllTexts p entry.2) : AllTexts p (.object members)

/-- Every text in some members has a property. -/
def AllMembers (p : String → Prop) (members : List (String × Json)) : Prop :=
  ∀ entry ∈ members, p entry.1 ∧ entry.2.AllTexts p

variable {p : String → Prop} {members : List (String × Json)}

theorem allTexts_object_iff : (object members).AllTexts p ↔ AllMembers p members := by
  constructor
  · rintro ⟨⟩
    rename_i names values
    exact fun entry member => ⟨names entry member, values entry member⟩
  · exact fun all => .object (fun entry member => (all entry member).1) fun entry member =>
      (all entry member).2

theorem allTexts_array_iff {items : List Json} :
    (array items).AllTexts p ↔ ∀ item ∈ items, item.AllTexts p := by
  constructor
  · rintro ⟨⟩
    assumption
  · exact .array

theorem allTexts_string_iff {text : String} : (string text).AllTexts p ↔ p text := by
  constructor
  · rintro ⟨⟩
    assumption
  · exact .string

theorem AllTexts.mono {q : String → Prop} {value : Json} (all : value.AllTexts p)
    (implies : ∀ text, p text → q text) : value.AllTexts q := by
  induction all with
  | null => exact .null
  | bool value => exact .bool value
  | number value => exact .number value
  | string holds => exact .string (implies _ holds)
  | array _ ih => exact .array ih
  | object names _ ih => exact .object (fun entry member => implies _ (names entry member)) ih

/-! ## Lexemes -/

/-- A fault shows no character that is not in a document. -/
def Fault.IsAbout (document : List Char) : Fault → Prop
  | .unexpected c => c ∈ document
  | _ => True

theorem Fault.IsAbout.isPlain_message {document : List Char} {fault : Fault}
    (about : fault.IsAbout document) (plain : '\x1b' ∉ document) : IsPlain fault.message := by
  cases fault with
  | unexpected c =>
      have other : c ≠ '\x1b' := ne_of_mem_of_not_mem about plain
      exact .append (.append (.literal rfl) (.singleton other)) (.literal rfl)
  | _ => exact .literal rfl

/-- What was read is good and the rest is an end of a document, or the fault is about it. -/
abbrev Leaves {α : Type} (document : List Char) (good : α → Prop)
    (outcome : Except Fault (α × List Char)) : Prop :=
  EndsWell (Fault.IsAbout document) (fun read => good read.1 ∧ read.2 <:+ document) outcome

variable {document cs : List Char}

theorem hexUnit?_eq_some {a b c d : Char} {unit : Nat} (isUnit : hexUnit? a b c d = some unit) :
    AreHex [a, b, c, d] ∧ natOfDigitsIn 16 [a, b, c, d] = unit := by
  obtain ⟨first, isFirst, more⟩ := Option.bind_eq_some_iff.mp isUnit
  obtain ⟨second, isSecond, more⟩ := Option.bind_eq_some_iff.mp more
  obtain ⟨third, isThird, more⟩ := Option.bind_eq_some_iff.mp more
  obtain ⟨fourth, isFourth, more⟩ := Option.bind_eq_some_iff.mp more
  obtain rfl := Option.some.inj more
  constructor
  · intro digit member
    simp only [List.mem_cons, List.not_mem_nil, or_false] at member
    rcases member with rfl | rfl | rfl | rfl <;> simp [*]
  · simp [natOfDigitsIn, *]

theorem ne_escape_of_simpleEscape? {c escaped : Char} (isEscape : simpleEscape? c = some escaped) :
    escaped ≠ '\x1b' := by
  rw [simpleEscape?] at isEscape
  split at isEscape
  · rename_i itself
    obtain rfl := Option.some.inj isEscape
    rcases itself with rfl | rfl | rfl <;> decide
  · repeat
      split at isEscape
      · obtain rfl := Option.some.inj isEscape
        decide
    cases isEscape

theorem suffix_of_cons {c : Char} (place : c :: cs <:+ document) : cs <:+ document :=
  (List.suffix_cons c cs).trans place

theorem suffix_of_unit {a b c d : Char}
    (place : '\\' :: 'u' :: a :: b :: c :: d :: cs <:+ document) : cs <:+ document :=
  (List.suffix_append ['\\', 'u', a, b, c, d] cs).trans place

theorem leaves_prepend {c : Char} {read : Except Fault (List Char × List Char)}
    (isFirst : OnlySpelled document [c]) (leaves : Leaves document (OnlySpelled document) read) :
    Leaves document (OnlySpelled document) (prepend c read) :=
  leaves.map fun _ left => ⟨isFirst.cons left.1, left.2⟩

/-- A string gives the character that codes start with only where its digits spell it. -/
theorem leaves_scanString (held : Option Nat) (place : cs <:+ document) :
    Leaves document (OnlySpelled document) (scanString held cs) := by
  fun_induction scanString held cs with
  | case3 => exact ⟨.of_not_mem List.not_mem_nil, suffix_of_cons place⟩
  | case5 a b c d cs low high isLow isHigh code ih =>
      -- what two halves make is beyond the characters of one
      exact leaves_prepend (.of_ne (ofNat_ne_escape (by omega))) (ih (suffix_of_unit place))
  | case7 a b c d cs unit isUnit isHigh ih => exact ih (suffix_of_unit place)
  | case9 a b c d cs unit isUnit notHigh notLow ih =>
      refine leaves_prepend (fun escape => ?_) (ih (suffix_of_unit place))
      obtain ⟨areHex, rfl⟩ := hexUnit?_eq_some isUnit
      have isMark : ('u', 4) ∈ [('u', 4), ('U', 8)] := by decide
      have stands : '\\' :: 'u' :: [a, b, c, d] <:+: document :=
        (List.prefix_append ['\\', 'u', a, b, c, d] cs).isInfix.trans place.isInfix
      refine spellsEscape_of_digits isMark rfl areHex ?_ stands
      by_contra other
      exact ofNat_ne_escape other (List.mem_singleton.mp escape).symm
  | case10 c cs _ escaped isEscape ih =>
      have other := ne_escape_of_simpleEscape? isEscape
      exact leaves_prepend (.of_ne other) (ih (suffix_of_cons (suffix_of_cons place)))
  | case15 held c cs _ _ _ _ _ visible ih =>
      refine leaves_prepend (.of_ne ?_) (ih (suffix_of_cons place))
      rintro rfl
      exact visible (by decide)
  | _ => exact trivial

theorem leaves_scanWhole (place : cs <:+ document) :
    Leaves document (fun _ => True) (scanWhole cs) := by
  rw [scanWhole]
  split
  · exact trivial
  · exact trivial
  · exact ⟨trivial, (List.dropWhile_suffix _).trans place⟩

theorem leaves_scanFraction (place : cs <:+ document) :
    Leaves document (fun _ => True) (scanFraction cs) := by
  rw [scanFraction.eq_def]
  split
  · split
    · exact trivial
    · exact ⟨trivial, (List.dropWhile_suffix _).trans (suffix_of_cons place)⟩
  · exact ⟨trivial, place⟩

theorem leaves_scanExponentDigits (negative : Bool) (place : cs <:+ document) :
    Leaves document (fun _ => True) (scanExponentDigits negative cs) := by
  rw [scanExponentDigits]
  split
  · exact trivial
  · exact ⟨trivial, (List.dropWhile_suffix _).trans place⟩

theorem leaves_scanExponent (place : cs <:+ document) :
    Leaves document (fun _ => True) (scanExponent cs) := by
  rw [scanExponent.eq_def]
  split
  · exact ⟨trivial, place⟩
  · have others := suffix_of_cons place
    refine .ite ?_ ⟨trivial, place⟩
    split
    · exact leaves_scanExponentDigits _ (suffix_of_cons others)
    · exact leaves_scanExponentDigits _ (suffix_of_cons others)
    · exact leaves_scanExponentDigits _ others

theorem failsOnly_numberOfParts (negative : Bool) (whole fraction : List Char)
    (exponent : Option Int) :
    FailsOnly (Fault.IsAbout document) (numberOfParts negative whole fraction exponent) := by
  refine .ite (.ok trivial) (.ite (.ok trivial) ?_)
  dsimp only
  split
  · exact .ok trivial
  · exact .error trivial

theorem leaves_scanNumber (negative : Bool) (place : cs <:+ document) :
    Leaves document (fun _ => True) (scanNumber negative cs) := by
  refine (leaves_scanWhole place).bind fun whole isWhole => ?_
  refine (leaves_scanFraction isWhole.2).bind fun fraction isFraction => ?_
  refine (leaves_scanExponent isFraction.2).bind fun exponent isExponent => ?_
  exact (failsOnly_numberOfParts _ _ _ _).next fun _ => .pure ⟨trivial, isExponent.2⟩

/-- Every text in a lexeme has a property. -/
def Lexeme.AllTexts (p : String → Prop) : Lexeme → Prop
  | simple value => value.AllTexts p
  | _ => True

theorem leaves_expectWord (word : List Char) {value : Json} (isValue : value.AllTexts p)
    (place : cs <:+ document) : Leaves document (Lexeme.AllTexts p) (expectWord word cs value) := by
  refine .ite ⟨isValue, (List.drop_suffix _ _).trans place⟩ ?_
  cases cs with
  | nil => exact trivial
  | cons c cs => exact place.subset List.mem_cons_self

theorem leaves_scanLexeme {first : Char} (place : first :: cs <:+ document) :
    Leaves document (Lexeme.AllTexts (SpelledText document)) (scanLexeme first cs) := by
  have others := suffix_of_cons place
  have isNumber (read : JsonNumber × List Char) (left : True ∧ read.2 <:+ document) :
      (numberLexeme read).1.AllTexts (SpelledText document) ∧ (numberLexeme read).2 <:+ document :=
    ⟨.number read.1, left.2⟩
  rw [scanLexeme]
  split
  · rename_i sign isSign
    refine ⟨?_, others⟩
    have noValue : ∀ value, sign ≠ .simple value := by
      rintro value rfl
      rw [signLexeme?] at isSign
      repeat
        split at isSign
        · cases isSign
      cases isSign
    cases sign with
    | simple value => exact absurd rfl (noValue value)
    | _ => exact trivial
  · refine .ite ?_ (.ite (leaves_expectWord _ .null others) (.ite ?_ (.ite ?_ (.ite ?_ ?_))))
    · exact (leaves_scanString none others).map fun read left => ⟨.string (.ofList left.1), left.2⟩
    · exact leaves_expectWord _ (.bool true) others
    · exact leaves_expectWord _ (.bool false) others
    · exact (leaves_scanNumber true others).map isNumber
    · refine .ite ((leaves_scanNumber false place).map isNumber) (.error ?_)
      exact place.subset List.mem_cons_self

/-! ## Documents -/

/-- Every text in a container that is still open has a property. -/
def Frame.AllTexts (p : String → Prop) : Frame → Prop
  | array done => ∀ item ∈ done, item.AllTexts p
  | object done => AllMembers p done
  | member done name => AllMembers p done ∧ p name

/-- Every text that the machine has read has a property. -/
def State.AllTexts (p : String → Prop) : State → Prop
  | reading stack _ => ∀ frame ∈ stack, frame.AllTexts p
  | finished value => value.AllTexts p

theorem State.allTexts_complete {value : Json} {stack : List Frame} (isValue : value.AllTexts p)
    (areFrames : ∀ frame ∈ stack, frame.AllTexts p) : (complete value stack).AllTexts p := by
  cases stack with
  | nil => exact isValue
  | cons frame stack =>
      obtain ⟨isFrame, others⟩ := List.forall_mem_cons.mp areFrames
      cases frame with
      | array done =>
          exact List.forall_mem_cons.mpr ⟨List.forall_mem_cons.mpr ⟨isValue, isFrame⟩, others⟩
      | object done => exact areFrames
      | member done name =>
          have longer : AllMembers p ((name, value) :: done) :=
            List.forall_mem_cons.mpr ⟨⟨isFrame.2, isValue⟩, isFrame.1⟩
          exact List.forall_mem_cons.mpr ⟨longer, others⟩

theorem ends_step {first : Char} {stack : List Frame} {lexeme : Lexeme} (inside : first ∈ document)
    (areFrames : ∀ frame ∈ stack, frame.AllTexts p) (expected : Expectation)
    (isLexeme : lexeme.AllTexts p) :
    EndsWell (Fault.IsAbout document) (State.AllTexts p)
      (State.step first stack expected lexeme) := by
  have enters (frame : Frame) (isFrame : frame.AllTexts p) (next : Expectation) :
      EndsWell (Fault.IsAbout document) (State.AllTexts p) (State.enter frame next stack) :=
    .ite (.ok (List.forall_mem_cons.mpr ⟨isFrame, areFrames⟩)) (.error trivial)
  have emptyArray : (Json.array []).AllTexts p := .array (List.forall_mem_nil _)
  have emptyObject : (Json.object []).AllTexts p :=
    allTexts_object_iff.mpr (List.forall_mem_nil _)
  rw [State.step.eq_def]
  split
  case h_1 => exact .ok (State.allTexts_complete emptyArray (List.forall_mem_cons.mp areFrames).2)
  case h_2 | h_3 => exact .ok (State.allTexts_complete isLexeme areFrames)
  case h_4 | h_5 => exact enters (.array []) (List.forall_mem_nil _) _
  case h_6 | h_7 => exact enters (.object []) (List.forall_mem_nil _) _
  case h_8 => exact .ok (State.allTexts_complete emptyObject (List.forall_mem_cons.mp areFrames).2)
  case h_9 | h_10 =>
    obtain ⟨done, outer⟩ := List.forall_mem_cons.mp areFrames
    exact .ok (List.forall_mem_cons.mpr ⟨⟨done, allTexts_string_iff.mp isLexeme⟩, outer⟩)
  case h_11 | h_12 | h_13 => exact .ok areFrames
  case h_14 =>
    obtain ⟨done, outer⟩ := List.forall_mem_cons.mp areFrames
    exact .ok (State.allTexts_complete
      (.array fun item member => done item (List.mem_reverse.mp member)) outer)
  case h_15 =>
    obtain ⟨done, outer⟩ := List.forall_mem_cons.mp areFrames
    exact .ok (State.allTexts_complete (allTexts_object_iff.mpr fun entry member =>
      done entry (List.mem_reverse.mp member)) outer)
  case h_16 => exact .error inside

theorem leaves_run {stack : List Frame} (areFrames : ∀ frame ∈ stack,
    frame.AllTexts (SpelledText document)) (expected : Expectation) (place : cs <:+ document) :
    Leaves document (AllTexts (SpelledText document)) (State.run stack expected cs) := by
  fun_induction State.run stack expected cs with
  | case1 => exact trivial
  | case2 stack expected c cs blank ih => exact ih areFrames (suffix_of_cons place)
  | case3 stack expected c cs black fault scanned =>
      exact (leaves_scanLexeme place).fails scanned
  | case4 stack expected c cs black lexeme rest scanned fault refused =>
      have ⟨isLexeme, _⟩ := (leaves_scanLexeme place).gives scanned
      have inside := place.subset List.mem_cons_self
      exact (ends_step inside areFrames expected isLexeme).fails refused
  | case5 stack expected c cs black lexeme rest scanned value finished =>
      have ⟨isLexeme, suffix⟩ := (leaves_scanLexeme place).gives scanned
      have inside := place.subset List.mem_cons_self
      exact ⟨(ends_step inside areFrames expected isLexeme).gives finished, suffix⟩
  | case6 stack expected c cs black lexeme rest scanned inner next goesOn ih =>
      have ⟨isLexeme, suffix⟩ := (leaves_scanLexeme place).gives scanned
      have inside := place.subset List.mem_cons_self
      exact ih ((ends_step inside areFrames expected isLexeme).gives goesOn) suffix

/-- The texts of a document that can be read come from it, and so does the character that is
told of one that cannot be read. -/
theorem leaves_readFront (document : String) :
    Leaves document.toList (AllTexts (SpelledText document.toList)) (readFront document) :=
  leaves_run (List.forall_mem_nil _) .value List.suffix_rfl

end Json

end TaskQuery

/-
# Reading JSON

A document is read one lexeme at a time by a machine that keeps the arrays and
objects that are still open on a stack. Each lexeme takes at least one character,
so the machine ends, and it stops behind the first whole value: what stands after
a value is the caller's business. Containers may lie in each other up to a fixed
depth.

Numbers are read as double precision does it in two roundings: the leading digits
that fit into 64 bits make an integer, which is then multiplied or divided by a
power of ten. The result can be the neighbour of the nearest number.
-/

import TaskQuery.Json.Basic
import TaskQuery.Text.Digits

namespace TaskQuery.Json

/-- Why a text is no JSON document. -/
inductive Fault
  | endOfText
  | unexpected (c : Char)
  | badNumber
  | numberOutOfRange
  | badEscape
  | controlCharacter
  | tooDeep
  | trailingText
  deriving DecidableEq, Repr

/-- The wording of a fault. -/
def Fault.message : Fault → String
  | endOfText => "the text ends inside a value"
  | unexpected c => "unexpected character '" ++ c.toString ++ "'"
  | badNumber => "invalid number"
  | numberOutOfRange => "number out of range"
  | badEscape => "invalid escape"
  | controlCharacter => "control character inside a string"
  | tooDeep => "values are nested too deep"
  | trailingText => "text after the value"

/-- The blanks between lexemes. -/
def isJsonBlank (c : Char) : Bool :=
  c == ' ' || c == '\t' || c == '\n' || c == '\x0d'

/-! ## Numbers -/

/-- Appends decimal digits to a number as long as it fits into 64 bits, and
counts the digits that are left. -/
def absorb : Nat → List Char → Nat × Nat
  | significand, [] => (significand, 0)
  | significand, digit :: rest =>
      let next := significand * 10 + Text.digitValue digit
      if next < UInt64.size then absorb next rest else (significand, rest.length + 1)

/-- Multiplies or divides by a power of ten, or nothing when the result is too
large. Far below one the division goes in steps, and after three of them nothing
is left of any 64-bit number. -/
def scale : (steps : Nat) → Float → Int → Option Float
  | steps, x, power =>
      if power.natAbs ≤ 308 then
        let factor := Float.ofScientific 1 false power.natAbs
        if 0 ≤ power then
          let scaled := x * factor
          if scaled.isInf then none else some scaled
        else some (x / factor)
      else if x == 0.0 then some x
      else if 0 ≤ power then none
      else
        match steps with
        | 0 => some 0.0
        | steps + 1 => scale steps (x / Float.ofScientific 1 false 308) (power + 308)

/-- The number of a decimal numeral given by its parts. -/
def numberOfParts (negative : Bool) (whole fraction : List Char) (exponent : Option Int) :
    Except Fault JsonNumber :=
  let (significand, wholeLeft) := absorb 0 whole
  if fraction.isEmpty ∧ exponent.isNone ∧ wholeLeft = 0 ∧ !negative then
    .ok (.integer significand)
  else if fraction.isEmpty ∧ exponent.isNone ∧ wholeLeft = 0 ∧ significand ≠ 0
      ∧ significand ≤ Nat.pow 2 63 then
    .ok (.integer (-significand))
  else
    let (significand, fractionLeft) := absorb significand fraction
    let power : Int := wholeLeft - (fraction.length - fractionLeft : Nat) + exponent.getD 0
    match scale 3 significand.toUInt64.toFloat power with
    | some x => .ok (.decimal (Decimal.ofFloat (if negative then -x else x)))
    | none => .error .numberOutOfRange

/-- The whole part of a numeral: digits, without a zero in front of others. -/
def scanWhole (cs : List Char) : Except Fault (List Char × List Char) :=
  match cs.takeWhile Char.isDigit with
  | [] => .error .badNumber
  | '0' :: _ :: _ => .error .badNumber
  | whole => .ok (whole, cs.dropWhile Char.isDigit)

/-- The fraction of a numeral, if there is one. -/
def scanFraction : List Char → Except Fault (List Char × List Char)
  | '.' :: cs =>
      match cs.takeWhile Char.isDigit with
      | [] => .error .badNumber
      | fraction => .ok (fraction, cs.dropWhile Char.isDigit)
  | cs => .ok ([], cs)

/-- The digits of an exponent after its sign. -/
def scanExponentDigits (negative : Bool) (cs : List Char) :
    Except Fault (Option Int × List Char) :=
  match cs.takeWhile Char.isDigit with
  | [] => .error .badNumber
  | digits =>
      let size : Int := Text.natOfDigits digits
      .ok (some (if negative then -size else size), cs.dropWhile Char.isDigit)

/-- The exponent of a numeral, if there is one. -/
def scanExponent : List Char → Except Fault (Option Int × List Char)
  | [] => .ok (none, [])
  | mark :: cs =>
      if mark = 'e' ∨ mark = 'E' then
        match cs with
        | '+' :: digits => scanExponentDigits false digits
        | '-' :: digits => scanExponentDigits true digits
        | digits => scanExponentDigits false digits
      else .ok (none, mark :: cs)

/-- Reads a number after its sign. -/
def scanNumber (negative : Bool) (cs : List Char) : Except Fault (JsonNumber × List Char) := do
  let (whole, cs) ← scanWhole cs
  let (fraction, cs) ← scanFraction cs
  let (exponent, cs) ← scanExponent cs
  let number ← numberOfParts negative whole fraction exponent
  return (number, cs)

/-! ## Strings -/

/-- The value of four hexadecimal digits. -/
def hexUnit? (a b c d : Char) : Option Nat := do
  let a ← Text.hexValue? a
  let b ← Text.hexValue? b
  let c ← Text.hexValue? c
  let d ← Text.hexValue? d
  return ((a * 16 + b) * 16 + c) * 16 + d

/-- The character that a backslash and one letter stand for. -/
def simpleEscape? (c : Char) : Option Char :=
  if c = '"' ∨ c = '\\' ∨ c = '/' then some c
  else if c = 'b' then some '\x08'
  else if c = 'f' then some '\x0c'
  else if c = 'n' then some '\n'
  else if c = 'r' then some '\x0d'
  else if c = 't' then some '\t'
  else none

/-- Puts a character in front of a text that was read. -/
def prepend (c : Char) (read : Except Fault (List Char × List Char)) :
    Except Fault (List Char × List Char) :=
  read.map fun (text, rest) => (c :: text, rest)

/-- Reads the inside of a string up to its closing quote. The first half of a
character written in two halves is held until the second half has come. -/
def scanString (held : Option Nat) : List Char → Except Fault (List Char × List Char)
  | [] => .error .endOfText
  | '"' :: cs => if held.isSome then .error .badEscape else .ok ([], cs)
  | '\\' :: 'u' :: a :: b :: c :: d :: cs =>
      match hexUnit? a b c d, held with
      | none, _ => .error .badEscape
      | some low, some high =>
          if 0xDC00 ≤ low ∧ low ≤ 0xDFFF then
            let code := 0x10000 + (high - 0xD800) * 0x400 + (low - 0xDC00)
            prepend (Char.ofNat code) (scanString none cs)
          else .error .badEscape
      | some unit, none =>
          if 0xD800 ≤ unit ∧ unit ≤ 0xDBFF then scanString (some unit) cs
          else if 0xDC00 ≤ unit ∧ unit ≤ 0xDFFF then .error .badEscape
          else prepend (Char.ofNat unit) (scanString none cs)
  | '\\' :: c :: cs =>
      match simpleEscape? c, held with
      | some escaped, none => prepend escaped (scanString none cs)
      | _, _ => .error .badEscape
  | c :: cs =>
      if held.isSome then .error .badEscape
      else if c = '\\' then .error .endOfText
      else if c.toNat < 0x20 then .error .controlCharacter
      else prepend c (scanString none cs)

/-! ## Lexemes -/

/-- The signs and simple values that a document is made of. -/
inductive Lexeme
  | openArray
  | closeArray
  | openObject
  | closeObject
  | comma
  | colon
  | simple (value : Json)

/-- Takes a word off the front of a text. -/
def expectWord (word cs : List Char) (value : Json) : Except Fault (Lexeme × List Char) :=
  if word.isPrefixOf cs then .ok (.simple value, cs.drop word.length)
  else .error (match cs with | [] => .endOfText | c :: _ => .unexpected c)

/-- The lexeme of a character that stands for itself. -/
def signLexeme? (c : Char) : Option Lexeme :=
  if c = '[' then some .openArray
  else if c = ']' then some .closeArray
  else if c = '\x7b' then some .openObject
  else if c = '\x7d' then some .closeObject
  else if c = ',' then some .comma
  else if c = ':' then some .colon
  else none

/-- A string as a lexeme. -/
def stringLexeme : List Char × List Char → Lexeme × List Char
  | (text, rest) => (.simple (.string (String.ofList text)), rest)

/-- A number as a lexeme. -/
def numberLexeme : JsonNumber × List Char → Lexeme × List Char
  | (value, rest) => (.simple (.number value), rest)

/-- Reads the lexeme that starts with `first`. -/
def scanLexeme (first : Char) (cs : List Char) : Except Fault (Lexeme × List Char) :=
  match signLexeme? first with
  | some sign => .ok (sign, cs)
  | none =>
      if first = '"' then (scanString none cs).map stringLexeme
      else if first = 'n' then expectWord ['u', 'l', 'l'] cs .null
      else if first = 't' then expectWord ['r', 'u', 'e'] cs (.bool true)
      else if first = 'f' then expectWord ['a', 'l', 's', 'e'] cs (.bool false)
      else if first = '-' then (scanNumber true cs).map numberLexeme
      else if first.isDigit then (scanNumber false (first :: cs)).map numberLexeme
      else .error (.unexpected first)

/-! ## Lengths

What a lexeme leaves is never longer than what it was given, so the machine comes
to an end. -/

theorem length_dropWhile_le (p : Char → Bool) (cs : List Char) :
    (cs.dropWhile p).length ≤ cs.length :=
  (List.dropWhile_sublist p).length_le

theorem scanWhole_length {cs whole rest : List Char} (h : scanWhole cs = .ok (whole, rest)) :
    rest.length < cs.length := by
  have whole_eq := List.takeWhile_append_dropWhile (p := Char.isDigit) (l := cs)
  simp only [scanWhole] at h
  split at h
  · cases h
  · cases h
  · next digits nonempty _ =>
      cases h
      have sum := congrArg List.length whole_eq
      have : 0 < (cs.takeWhile Char.isDigit).length := List.length_pos_iff.2 nonempty
      simp only [List.length_append] at sum
      omega

theorem scanFraction_length {cs fraction rest : List Char}
    (h : scanFraction cs = .ok (fraction, rest)) : rest.length ≤ cs.length := by
  unfold scanFraction at h
  split at h
  · split at h
    · cases h
    · cases h
      exact Nat.le_succ_of_le (length_dropWhile_le _ _)
  · cases h
    exact Nat.le_refl _

theorem scanExponentDigits_length {negative : Bool} {cs rest : List Char} {exponent : Option Int}
    (h : scanExponentDigits negative cs = .ok (exponent, rest)) : rest.length ≤ cs.length := by
  unfold scanExponentDigits at h
  split at h
  · cases h
  · cases h
    exact length_dropWhile_le _ _

theorem scanExponent_length {cs rest : List Char} {exponent : Option Int}
    (h : scanExponent cs = .ok (exponent, rest)) : rest.length ≤ cs.length := by
  unfold scanExponent at h
  split at h
  · cases h
    exact Nat.le_refl _
  · split at h
    · split at h <;> have := scanExponentDigits_length h <;> simp only [List.length_cons] <;> omega
    · cases h
      exact Nat.le_refl _

theorem scanNumber_length {negative : Bool} {cs rest : List Char} {value : JsonNumber}
    (h : scanNumber negative cs = .ok (value, rest)) : rest.length < cs.length := by
  simp only [scanNumber, bind, Except.bind, pure, Except.pure] at h
  split at h
  · cases h
  · next _ whole_read =>
      split at h
      · cases h
      · next _ fraction_read =>
          split at h
          · cases h
          · next _ exponent_read =>
              split at h
              · cases h
              · cases h
                have := scanWhole_length whole_read
                have := scanFraction_length fraction_read
                have := scanExponent_length exponent_read
                omega

theorem prepend_eq_ok {c : Char} {read : Except Fault (List Char × List Char)}
    {text rest : List Char} (h : prepend c read = .ok (text, rest)) :
    ∃ tail, read = .ok (tail, rest) := by
  cases read with
  | error fault => simp [prepend, Except.map] at h
  | ok pair =>
      obtain ⟨tail, left⟩ := pair
      simp only [prepend, Except.map, Except.ok.injEq, Prod.mk.injEq] at h
      exact ⟨tail, by rw [h.2]⟩

theorem scanString_length {held : Option Nat} {cs text rest : List Char}
    (h : scanString held cs = .ok (text, rest)) : rest.length ≤ cs.length := by
  fun_induction scanString held cs generalizing text rest with
  | case3 => cases h; simp
  | case5 | case9 | case10 | case15 =>
      rename_i ih
      obtain ⟨tail, inner⟩ := prepend_eq_ok h
      have := ih inner
      simp only [List.length_cons]
      omega
  | case7 =>
      rename_i ih
      have := ih h
      simp only [List.length_cons]
      omega
  | _ => cases h

theorem expectWord_length {word cs rest : List Char} {value : Json} {lexeme : Lexeme}
    (h : expectWord word cs value = .ok (lexeme, rest)) : rest.length ≤ cs.length := by
  simp only [expectWord] at h
  split at h
  · cases h
    simp
  · cases h

theorem map_eq_ok {α β : Type} {f : α → β} {read : Except Fault α} {y : β}
    (h : read.map f = .ok y) : ∃ x, read = .ok x ∧ f x = y := by
  cases read with
  | error fault => cases h
  | ok x =>
      cases h
      exact ⟨x, rfl, rfl⟩

theorem scanLexeme_length {first : Char} {cs rest : List Char} {lexeme : Lexeme}
    (h : scanLexeme first cs = .ok (lexeme, rest)) : rest.length ≤ cs.length := by
  unfold scanLexeme at h
  split at h
  · cases h
    exact Nat.le_refl _
  · split at h
    · obtain ⟨⟨text, left⟩, read, same⟩ := map_eq_ok h
      cases same
      exact scanString_length read
    · split at h
      · exact expectWord_length h
      · split at h
        · exact expectWord_length h
        · split at h
          · exact expectWord_length h
          · split at h
            · obtain ⟨⟨value, left⟩, read, same⟩ := map_eq_ok h
              cases same
              exact Nat.le_of_lt (scanNumber_length read)
            · split at h
              · obtain ⟨⟨value, left⟩, read, same⟩ := map_eq_ok h
                cases same
                exact Nat.le_of_lt_succ (scanNumber_length read)
              · cases h

/-! ## Documents -/

/-- A container that is still open, with what it holds so far, last first. -/
inductive Frame
  | array (done : List Json)
  | object (done : List (String × Json))
  | member (done : List (String × Json)) (name : String)

/-- What must come next. -/
inductive Expectation
  | value
  | itemOrClose
  | nameOrClose
  | name
  | colon
  | commaOrClose

/-- What the machine knows between two lexemes: the open containers, innermost
first, and what must come next; or the value that it has read. -/
inductive State
  | reading (stack : List Frame) (expected : Expectation)
  | finished (value : Json)

/-- How deep containers may lie in each other. -/
def depthLimit : Nat := 127

/-- Hands a whole value to the container around it. -/
def State.complete (value : Json) : List Frame → State
  | [] => .finished value
  | .array done :: stack => .reading (.array (value :: done) :: stack) .commaOrClose
  | .member done name :: stack => .reading (.object ((name, value) :: done) :: stack) .commaOrClose
  | .object done :: stack => .reading (.object done :: stack) .commaOrClose

/-- Opens a container. -/
def State.enter (frame : Frame) (expected : Expectation) (stack : List Frame) :
    Except Fault State :=
  if stack.length < depthLimit then .ok (.reading (frame :: stack) expected)
  else .error .tooDeep

/-- One step of the machine; a lexeme that does not fit what is expected is a
fault at its first character. -/
def State.step (first : Char) (stack : List Frame) (expected : Expectation) (lexeme : Lexeme) :
    Except Fault State :=
  match expected, lexeme, stack with
  | .itemOrClose, .closeArray, .array _ :: outer => .ok (.complete (.array []) outer)
  | .value, .simple value, _ | .itemOrClose, .simple value, _ => .ok (.complete value stack)
  | .value, .openArray, _ | .itemOrClose, .openArray, _ =>
      State.enter (.array []) .itemOrClose stack
  | .value, .openObject, _ | .itemOrClose, .openObject, _ =>
      State.enter (.object []) .nameOrClose stack
  | .nameOrClose, .closeObject, .object _ :: outer => .ok (.complete (.object []) outer)
  | .nameOrClose, .simple (.string name), .object done :: outer
  | .name, .simple (.string name), .object done :: outer =>
      .ok (.reading (.member done name :: outer) .colon)
  | .colon, .colon, _ => .ok (.reading stack .value)
  | .commaOrClose, .comma, .array _ :: _ => .ok (.reading stack .value)
  | .commaOrClose, .comma, .object _ :: _ => .ok (.reading stack .name)
  | .commaOrClose, .closeArray, .array done :: outer =>
      .ok (.complete (.array done.reverse) outer)
  | .commaOrClose, .closeObject, .object done :: outer =>
      .ok (.complete (.object done.reverse) outer)
  | _, _, _ => .error (.unexpected first)

/-- Runs the machine up to the end of the first whole value. -/
def State.run (stack : List Frame) (expected : Expectation) :
    List Char → Except Fault (Json × List Char)
  | [] => .error .endOfText
  | c :: cs =>
      if isJsonBlank c then State.run stack expected cs
      else
        match _scanned : scanLexeme c cs with
        | .error fault => .error fault
        | .ok (lexeme, rest) =>
            match State.step c stack expected lexeme with
            | .error fault => .error fault
            | .ok (.finished value) => .ok (value, rest)
            | .ok (.reading stack expected) => State.run stack expected rest
termination_by cs => cs.length
decreasing_by
  · simp
  · exact Nat.lt_succ_of_le (scanLexeme_length (by assumption))

/-- Reads the value at the front of a text and gives it with the text behind it.
Members of objects are kept as they stand. -/
def readFront (text : String) : Except Fault (Json × List Char) :=
  State.run [] .value text.toList

/-- Reads a text that holds one value and nothing else but blanks. -/
def read (text : String) : Except Fault Json := do
  let (value, rest) ← readFront text
  if rest.all isJsonBlank then return value else .error .trailingText

end TaskQuery.Json

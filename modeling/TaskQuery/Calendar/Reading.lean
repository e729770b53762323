/-
# Reading dates

A date is written as year, month and day with hyphens between them. Blanks may
stand before each number. A year may have a sign, and then any number of digits;
without one it has at most four. Month and day have one digit or two.

A field of a task holds a date when the first ten bytes of its text are one, so a
time of day may follow. A date that stands alone may also have blanks before its
hyphens and at its end.
-/

import TaskQuery.Calendar.Date
import TaskQuery.Text.Blank
import TaskQuery.Text.Digits
import TaskQuery.Text.Scan

namespace TaskQuery

open Text

/-- A reader that says no more than that it failed. -/
abbrev PlainScan : Type → Type :=
  Scan Unit

namespace PlainScan

/-- Passes over blanks. -/
def blanks : PlainScan Unit := do
  discard (Scan.takeWhile isBlank)

/-- Takes a character that has to stand next. -/
def character (c : Char) : PlainScan Unit := do
  if ← Scan.accept [c] then return else Scan.fail ()

/-- The value of digits that were read, of which there has to be one. -/
def numberOf (digits : List Char) : PlainScan Nat :=
  if digits.isEmpty then Scan.fail () else return natOfDigits digits

/-- A number with a greatest number of digits, after any blanks. -/
def number (width : Nat) : PlainScan Nat := do
  blanks
  numberOf (← Scan.takeWhileUpTo width Char.isDigit)

/-- A year, after any blanks. -/
def year : PlainScan Int := do
  blanks
  if ← Scan.accept ['-'] then
    return -Int.ofNat (← numberOf (← Scan.takeWhile Char.isDigit))
  else if ← Scan.accept ['+'] then
    return Int.ofNat (← numberOf (← Scan.takeWhile Char.isDigit))
  else return Int.ofNat (← number 4)

/-- The date of a year, month and day that were read. -/
def dateOf (year : Int) (month day : Nat) : PlainScan Date :=
  match Date.ofCivil? year month day with
  | some date => return date
  | none => Scan.fail ()

/-- A date as it stands in a field. -/
def date : PlainScan Date := do
  let year ← year
  character '-'
  let month ← number 2
  character '-'
  let day ← number 2
  dateOf year month day

/-- A date that stands alone. -/
def looseDate : PlainScan Date := do
  let year ← year
  blanks
  character '-'
  let month ← number 2
  blanks
  character '-'
  let day ← number 2
  blanks
  dateOf year month day

/-- The value of a reader that takes the whole text. -/
def whole? (scanner : PlainScan α) (text : List Char) : Option α :=
  match scanner text with
  | .ok ⟨value, [], _⟩ => some value
  | _ => none

end PlainScan

/-- The characters that make up the first bytes of a text, none when it has fewer
bytes or a character lies across the end. -/
def firstBytes? : (count : Nat) → List Char → Option (List Char)
  | 0, _ => some []
  | _ + 1, [] => none
  | count + 1, c :: cs =>
      if c.utf8Size ≤ count + 1 then
        (firstBytes? (count + 1 - c.utf8Size) cs).map (c :: ·)
      else none
termination_by _ cs => cs.length

namespace Date

/-- The date that the text of a field begins with. -/
def ofField? (text : String) : Option Date :=
  (firstBytes? 10 text.toList).bind fun head => PlainScan.date.whole? head

/-- The date that a text as a whole stands for. -/
def ofText? (text : String) : Option Date :=
  PlainScan.looseDate.whole? text.toList

end Date

end TaskQuery

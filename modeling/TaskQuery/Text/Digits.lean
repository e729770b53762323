/-
# Digits

The number that a run of digits stands for, in ten or in another base, and the run
of decimal digits that stands for a number with a fixed least length.
-/

namespace TaskQuery.Text

/-- The value of a decimal digit. -/
def digitValue (c : Char) : Nat :=
  c.toNat - '0'.toNat

/-- The value of decimal digits. -/
def natOfDigits (digits : List Char) : Nat :=
  digits.foldl (fun value digit => value * 10 + digitValue digit) 0

/-- The value of a hexadecimal digit. -/
def hexValue? (c : Char) : Option Nat :=
  if c.isDigit then some (digitValue c)
  else if 'a' ≤ c ∧ c ≤ 'f' then some (c.toNat - 'a'.toNat + 10)
  else if 'A' ≤ c ∧ c ≤ 'F' then some (c.toNat - 'A'.toNat + 10)
  else none

/-- The value of digits in a base of up to sixteen. -/
def natOfDigitsIn (base : Nat) (digits : List Char) : Nat :=
  digits.foldl (fun value digit => value * base + (hexValue? digit).getD 0) 0

/-- The character whose code some hexadecimal digits are. -/
def charOfHex? (digits : List Char) : Option Char :=
  let code := natOfDigitsIn 16 digits
  if digits.isEmpty ∨ digits.any (fun c => (hexValue? c).isNone) then none
  else if code.isValidChar then some (Char.ofNat code)
  else none

/-- A number in decimal digits, with zeros in front up to a width. -/
def zeroPadded (width : Nat) (n : Nat) : String :=
  let digits := Nat.toDigits 10 n
  String.ofList (List.replicate (width - digits.length) '0' ++ digits)

end TaskQuery.Text

/-
# Tables of named character ranges

The larger tables of the standard are kept as text, one entry for each property.
An entry lists the names of the property and its ranges in hexadecimal, separated
by single blanks: `41` for one code point, `41-5A` for a range, and `100-136/2`
for the code points of a range at a step, here every other one.
-/

import TaskQuery.Pattern.CharSet

namespace TaskQuery.Pattern

/-- A set of characters under the names that a pattern may call it by. -/
structure NamedRanges where
  names : List String
  lines : List String

/-- What has been read of an item of an entry: the number being read, the start of the
range if a dash has come, and its last code point if a step has come. -/
structure RangeReader where
  number : Nat := 0
  start : Option Nat := none
  last : Option Nat := none

/-- The value of a hexadecimal digit in capital letters. -/
def tableDigit (c : Char) : Nat :=
  if c.isDigit then c.toNat - '0'.toNat else c.toNat - 'A'.toNat + 10

/-- The ranges of one item of an entry. -/
def RangeReader.ranges (reader : RangeReader) : Text.CodeRanges :=
  match reader.start, reader.last with
  | none, _ => [(reader.number, reader.number)]
  | some start, none => [(start, reader.number)]
  | some start, some last =>
      (List.range ((last - start) / reader.number + 1)).map fun i =>
        (start + reader.number * i, start + reader.number * i)

/-- Reads a line of an entry. -/
def readRanges (reader : RangeReader) : List Char → Text.CodeRanges
  | [] => reader.ranges
  | c :: cs =>
      if c = ' ' then reader.ranges ++ readRanges {} cs
      else if c = '-' then readRanges { start := some reader.number } cs
      else if c = '/' then readRanges { start := reader.start, last := some reader.number } cs
      else readRanges { reader with number := reader.number * 16 + tableDigit c } cs

/-- The characters of an entry. -/
def NamedRanges.set (entry : NamedRanges) : CharSet :=
  .ofRanges (entry.lines.flatMap fun line => readRanges {} line.toList)

/-- The characters of the entry with a name. -/
def NamedRanges.find? (table : List NamedRanges) (name : String) : Option CharSet :=
  (table.find? fun entry => entry.names.contains name).map NamedRanges.set

end TaskQuery.Pattern

/-
# Blank characters

Layout between the words of a query, and in front of the numbers of a date, is
any run of characters with the standard's `White_Space` property. They are more than
those of core's `Char.isWhitespace`, which knows four.
-/

import TaskQuery.Text.CodeRange

namespace TaskQuery.Text

/-- The characters with the property `White_Space`. -/
def blankRanges : CodeRanges :=
  [(0x9, 0xD), (0x20, 0x20), (0x85, 0x85), (0xA0, 0xA0), (0x1680, 0x1680),
   (0x2000, 0x200A), (0x2028, 0x2029), (0x202F, 0x202F), (0x205F, 0x205F),
   (0x3000, 0x3000)]

/-- Whether a character is layout. -/
def isBlank (c : Char) : Bool :=
  blankRanges.contains c.toNat

end TaskQuery.Text

/-
# Quoted text in reports

A report shows a text between double quotes with everything escaped that would
not be seen as itself. The quoting here is for reading by people; the quoting
that the query language reads back is `TaskQuery.Query.Literal`.
-/

import TaskQuery.Text.EscapeTable

namespace TaskQuery.Text

/-- Lower-case hexadecimal digits of a number, without leading zeros. -/
def hexDigits (n : Nat) : List Char :=
  Nat.toDigits 16 n

/-- A character inside a quoted text: five named escapes, code points for hidden
characters, and itself otherwise. A single quote needs no escape. -/
def escapeChar (c : Char) : List Char :=
  if c = '\x00' then ['\\', '0']
  else if c = '\t' then ['\\', 't']
  else if c = '\n' then ['\\', 'n']
  else if c = '\x0d' then ['\\', 'r']
  else if c = '"' then ['\\', '"']
  else if c = '\\' then ['\\', '\\']
  else if hiddenRanges.contains c.toNat then
    ['\\', 'u', '\x7b'] ++ hexDigits c.toNat ++ ['\x7d']
  else [c]

/-- A text between double quotes with its characters escaped. -/
def quote (text : String) : String :=
  String.ofList (['"'] ++ text.toList.flatMap escapeChar ++ ['"'])

end TaskQuery.Text

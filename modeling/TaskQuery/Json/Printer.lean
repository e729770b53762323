/-
# Writing JSON

A document is written over several lines, each level two blanks further in; an
empty array or object stays on its line. Text is written as it is, apart from the
quote, the backslash and the control characters below the blank.
-/

import TaskQuery.Json.Basic

namespace TaskQuery.Json

/-- The hexadecimal digits of a control character's code, four of them. -/
def fourDigits (code : Nat) : List Char :=
  let digits := Nat.toDigits 16 code
  List.replicate (4 - digits.length) '0' ++ digits

/-- A character inside a JSON string. -/
def encodeChar (c : Char) : List Char :=
  if c = '"' then ['\\', '"']
  else if c = '\\' then ['\\', '\\']
  else if c = '\x08' then ['\\', 'b']
  else if c = '\x0c' then ['\\', 'f']
  else if c = '\n' then ['\\', 'n']
  else if c = '\x0d' then ['\\', 'r']
  else if c = '\t' then ['\\', 't']
  else if c.toNat < 0x20 then ['\\', 'u'] ++ fourDigits c.toNat
  else [c]

/-- A text as a JSON string. -/
def encodeString (text : String) : String :=
  String.ofList ('"' :: text.toList.flatMap encodeChar ++ ['"'])

/-- A line break and the indentation of a level. -/
def lineStart (level : Nat) : String :=
  "\n" ++ String.ofList (List.replicate (2 * level) ' ')

mutual

/-- A value written at a level of indentation. -/
def prettyAt (level : Nat) : Json → String
  | null => "null"
  | bool true => "true"
  | bool false => "false"
  | number value => value.text
  | string value => encodeString value
  | array [] => "[]"
  | array (item :: rest) =>
      "[" ++ lineStart (level + 1) ++ item.prettyAt (level + 1)
        ++ prettyItems (level + 1) rest ++ lineStart level ++ "]"
  | object [] => "\x7b\x7d"
  | object ((name, value) :: rest) =>
      "\x7b" ++ lineStart (level + 1) ++ encodeString name ++ ": " ++ value.prettyAt (level + 1)
        ++ prettyMembers (level + 1) rest ++ lineStart level ++ "\x7d"

/-- The items of an array after the first. -/
def prettyItems (level : Nat) : List Json → String
  | [] => ""
  | item :: rest => "," ++ lineStart level ++ item.prettyAt level ++ prettyItems level rest

/-- The members of an object after the first. -/
def prettyMembers (level : Nat) : List (String × Json) → String
  | [] => ""
  | (name, value) :: rest =>
      "," ++ lineStart level ++ encodeString name ++ ": " ++ value.prettyAt level
        ++ prettyMembers level rest

end

/-- A value as a document, without a line break at its end. -/
def pretty (value : Json) : String :=
  value.prettyAt 0

end TaskQuery.Json

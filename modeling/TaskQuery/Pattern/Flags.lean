/-
# Flags of a pattern

Flags change how the rest of a pattern is read. They come with the whole pattern
or are set inside it, for the rest of a group.
-/

namespace TaskQuery.Pattern

/-- How a part of a pattern is read. -/
structure Flags where
  ignoreCase : Bool := false
  multiLine : Bool := false
  dotTakesLineEnd : Bool := false
  carriageReturns : Bool := false
  ignoreBlanks : Bool := false
  unicode : Bool := true
  preferShort : Bool := false
  deriving DecidableEq, Repr

/-- The letters that set or clear a flag inside a pattern. -/
def flagLetters : List Char := ['i', 'm', 's', 'R', 'x', 'u', 'U']

/-- Sets or clears a flag by its letter. -/
def Flags.set (flags : Flags) (letter : Char) (value : Bool) : Flags :=
  if letter = 'i' then { flags with ignoreCase := value }
  else if letter = 'm' then { flags with multiLine := value }
  else if letter = 's' then { flags with dotTakesLineEnd := value }
  else if letter = 'R' then { flags with carriageReturns := value }
  else if letter = 'x' then { flags with ignoreBlanks := value }
  else if letter = 'u' then { flags with unicode := value }
  else if letter = 'U' then { flags with preferShort := value }
  else flags

end TaskQuery.Pattern

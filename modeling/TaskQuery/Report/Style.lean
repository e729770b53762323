/-
# Colours

Text is set off in a terminal by codes in front of it and behind it. A report says
how its parts are to be set off and whether that is wanted at all; where it is not,
text stays as it is.
-/

namespace TaskQuery

/-- A way to set text off. -/
inductive Style
  | red
  | green
  | yellow
  | cyan
  | bold
  | dimmed
  deriving DecidableEq, Repr

namespace Style

/-- The codes that turn a style on and off. -/
def codes : Style → String × String
  | red => ("31", "39")
  | green => ("32", "39")
  | yellow => ("33", "39")
  | cyan => ("36", "39")
  | bold => ("1", "0")
  | dimmed => ("2", "0")

/-- The character sequence that a terminal takes a code from. -/
def control (code : String) : String :=
  "\x1b[" ++ code ++ "m"

/-- Sets text off. -/
def paint (style : Style) (text : String) : String :=
  control style.codes.1 ++ text ++ control style.codes.2

end Style

/-- Sets text off in several ways, the first of them inside the others, if colours
are wanted. -/
def styled (colors : Bool) (styles : List Style) (text : String) : String :=
  if colors then styles.foldl (fun text style => style.paint text) text else text

end TaskQuery

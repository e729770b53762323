/-
# Why a pattern is refused

Each way in which a pattern text can fail to be a pattern. A flag behind a pattern is
looked at first, and its refusal has a wording of its own. All else is refused by the
library that reads patterns, in words of the library: it quotes the pattern, points at the
place and names the cause. These words are a parameter of everything that shows them.
-/

namespace TaskQuery.Pattern

/-- A cause for refusing a pattern. -/
inductive Fault
  | unsupportedFlag (flag : Char)
  | nothingToRepeat
  | groupUnopened
  | groupUnclosed
  | groupNameUnclosed
  | groupNameInvalid
  | groupNameRepeated
  | lookAround
  | backreference
  | flagUnknown (flag : Char)
  | flagRepeated
  | flagDangling
  | flagUnclosed
  | classUnclosed
  | classRangeInvalid
  | classRangeNotLiteral
  | classEscapeInvalid
  | countUnclosed
  | countMissing
  | countTooLarge
  | countInvalid
  | escapeAtEnd
  | escapeUnknown (letter : Char)
  | hexInvalid
  | propertyUnknown
  | boundaryUnclosed
  | boundaryUnknown
  | notUnicode
  | notUtf8
  | nestedTooDeep
  | tooLarge
  deriving DecidableEq, Repr

/-- A cause in a few words. Those for an unsupported flag are what users see. The others
stand for the last line of what the library says, without the pattern and the place. -/
def Fault.message : Fault → String
  | unsupportedFlag flag => "unsupported flag '" ++ flag.toString ++ "'"
  | nothingToRepeat => "repetition operator missing expression"
  | groupUnopened => "unopened group"
  | groupUnclosed => "unclosed group"
  | groupNameUnclosed => "unclosed capture group name"
  | groupNameInvalid => "invalid capture group name"
  | groupNameRepeated => "duplicate capture group name"
  | lookAround => "look-around, including look-ahead and look-behind, is not supported"
  | backreference => "backreferences are not supported"
  | flagUnknown flag => "unrecognized flag '" ++ flag.toString ++ "'"
  | flagRepeated => "duplicate flag"
  | flagDangling => "dangling flag negation operator"
  | flagUnclosed => "expected flag but got end of pattern"
  | classUnclosed => "unclosed character class"
  | classRangeInvalid =>
      "invalid character class range, the start must be <= the end"
  | classRangeNotLiteral => "invalid range boundary, must be a literal"
  | classEscapeInvalid => "invalid escape sequence found in character class"
  | countUnclosed => "unclosed counted repetition"
  | countMissing => "repetition quantifier expects a valid decimal"
  | countTooLarge => "decimal literal invalid"
  | countInvalid =>
      "invalid repetition count range, the start must be <= the end"
  | escapeAtEnd => "incomplete escape sequence, reached end of pattern prematurely"
  | escapeUnknown letter => "unrecognized escape sequence '" ++ letter.toString ++ "'"
  | hexInvalid => "hexadecimal literal is not a character"
  | propertyUnknown => "Unicode property not found"
  | boundaryUnclosed => "special word boundary assertion is unclosed"
  | boundaryUnknown => "unrecognized special word boundary assertion"
  | notUnicode => "Unicode not allowed here"
  | notUtf8 => "pattern can match invalid UTF-8"
  | nestedTooDeep => "exceeded the maximum number of nested parentheses and brackets"
  | tooLarge => "compiled pattern exceeds its size limit"

/-- What the library says when it refuses a pattern. -/
class Wording where
  refusal : (pattern : String) → Fault → String

/-- Where no other wording is assumed, the cause is all that is said. -/
instance : Wording where
  refusal _ fault := fault.message

/-- The reason that is given for refusing a pattern. -/
def Fault.reason [Wording] (pattern : String) : Fault → String
  | unsupportedFlag flag => (unsupportedFlag flag).message
  | fault => Wording.refusal pattern fault

end TaskQuery.Pattern

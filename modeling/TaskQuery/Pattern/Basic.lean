/-
# Patterns

The value of a `matches` comparison is a pattern, either bare or between slashes
with flags behind the second one. The last slash ends the pattern, so a pattern may
hold slashes. A pattern is refused for an unsupported flag before it is read.
-/

import TaskQuery.Pattern.Matcher
import TaskQuery.Pattern.Reader
import TaskQuery.Pattern.Size

namespace TaskQuery

/-- A pattern that was accepted. -/
structure Pattern where
  expr : Pattern.Expr

namespace Pattern

/-- The pattern and the flags of a text between slashes; a text of another form is
all pattern. -/
def splitFlags (text : List Char) : List Char × List Char :=
  match text with
  | '/' :: rest =>
      match rest.reverse.dropWhile (· != '/') with
      | [] => (text, [])
      | _ :: before => (before.reverse, (rest.reverse.takeWhile (· != '/')).reverse)
  | _ => (text, [])

/-- Sets the flags that letters behind a pattern ask for. -/
def readFlags (flags : Flags) : List Char → Except Fault Flags
  | [] => .ok flags
  | letter :: rest =>
      if letter = 'i' ∨ letter = 'm' ∨ letter = 's' then readFlags (flags.set letter true) rest
      else .error (.unsupportedFlag letter)

/-- The pattern that a value of a comparison stands for. -/
def compile (value : String) : Except Fault Pattern := do
  let (body, letters) := splitFlags value.toList
  let flags ← readFlags {} letters
  let expr ← readExpr flags body
  if expr.fitsLimit then return ⟨expr⟩ else throw .tooLarge

/-- Whether a pattern fits somewhere in a text. -/
def fits (pattern : Pattern) (text : String) : Bool :=
  pattern.expr.fits text

end Pattern

end TaskQuery

/-
# Patterns as expressions

What a pattern text means: which characters it takes, what it asks about a place
between two characters, and how parts follow, exclude or repeat each other. A pattern is
only ever asked whether it fits somewhere, so which of several fits a repetition prefers
decides nothing; it is kept, as groups that remember their text are, because expressions
are told apart by it.

Expressions are put together in a reduced form: literals that follow each other are one
literal, sequences and choices do not nest in themselves, a choice between characters is
a set, and what all options of a choice start with is taken out of it.
-/

import TaskQuery.Pattern.Property

namespace TaskQuery.Pattern

/-- A question about the characters on both sides of a place, as to words. -/
inductive WordEdge
  | boundary
  | inside
  | wordStart
  | wordEnd
  | startHalf
  | endHalf
  deriving DecidableEq, Repr

/-- A question about a place in a text. -/
inductive Look
  | textStart
  | textEnd
  | lineStart (carriageReturns : Bool)
  | lineEnd (carriageReturns : Bool)
  | word (edge : WordEdge) (asciiOnly : Bool)
  deriving DecidableEq, Repr

/-- A pattern. -/
inductive Expr
  | empty
  | literal (text : List Char)
  | chars (set : CharSet)
  | look (question : Look)
  | concat (parts : List Expr)
  | alternate (options : List Expr)
  | group (number : Nat) (body : Expr)
  | repeated (body : Expr) (least : Nat) (most : Option Nat) (preferShort : Bool)

namespace Expr

/-! ## What a pattern takes -/

mutual

/-- The least number of characters that a pattern takes; none when some part of it never
fits. -/
def minLength : Expr → Option Nat
  | empty => some 0
  | literal text => some text.length
  | chars set => if set.ranges.isEmpty then none else some 1
  | look _ => some 0
  | concat parts => minLengthOfAll parts
  | alternate options => minLengthOfAny options
  | group _ body => body.minLength
  | repeated body least _ _ => body.minLength.map (least * ·)

/-- The least number of characters that patterns take one after the other. -/
def minLengthOfAll : List Expr → Option Nat
  | [] => some 0
  | part :: parts => do return (← part.minLength) + (← minLengthOfAll parts)

/-- The least number of characters that one of some patterns takes. -/
def minLengthOfAny : List Expr → Option Nat
  | [] => none
  | [option] => option.minLength
  | option :: options => do return min (← option.minLength) (← minLengthOfAny options)

end

mutual

/-- Whether a pattern fits somewhere and takes no character wherever it fits. -/
def takesNothing : Expr → Bool
  | empty => true
  | literal text => text.isEmpty
  | chars _ => false
  | look _ => true
  | concat parts => allTakeNothing parts
  | alternate options => allTakeNothing options
  | group _ body => body.takesNothing
  | repeated body _ _ _ => body.takesNothing

/-- Whether patterns all fit somewhere and take no character. -/
def allTakeNothing : List Expr → Bool
  | [] => true
  | part :: parts => part.takesNothing && allTakeNothing parts

end

mutual

/-- Whether a pattern, read in one direction, begins by asking for the end of the text
on that side: its start when it is read forward, its end when it is read backward. -/
def isAnchored (backward : Bool) : Expr → Bool
  | look question => question == if backward then .textEnd else .textStart
  | concat parts => if backward then anchorsLast parts else anchorsFirst parts
  | alternate options => allAnchored backward options
  | group _ body => body.isAnchored backward
  | repeated body least _ _ => 0 < least && body.isAnchored backward
  | _ => false

/-- Whether the first of some parts, but for those that take nothing, asks for the start
of the text. -/
def anchorsFirst : List Expr → Bool
  | [] => false
  | part :: parts => part.isAnchored false || (part.takesNothing && anchorsFirst parts)

/-- Whether the last of some parts, but for those that take nothing, asks for the end of
the text. -/
def anchorsLast : List Expr → Bool
  | [] => false
  | part :: parts => anchorsLast parts || (allTakeNothing parts && part.isAnchored true)

/-- Whether all of some patterns begin by asking for the end of the text. -/
def allAnchored (backward : Bool) : List Expr → Bool
  | [] => true
  | option :: options => option.isAnchored backward && allAnchored backward options

end

/-! ## Telling patterns apart -/

mutual

/-- Whether two patterns are the same expression. -/
def same : Expr → Expr → Bool
  | empty, empty => true
  | literal a, literal b => a == b
  | chars a, chars b => a == b
  | look a, look b => a == b
  | concat as, concat bs => allSame as bs
  | alternate as, alternate bs => allSame as bs
  | group m a, group n b => m == n && a.same b
  | repeated a least most short, repeated b least' most' short' =>
      least == least' && most == most' && short == short' && a.same b
  | _, _ => false

/-- Whether two lists hold the same expressions. -/
def allSame : List Expr → List Expr → Bool
  | [], [] => true
  | a :: as, b :: bs => a.same b && allSame as bs
  | _, _ => false

end

/-- What two lists of patterns start with alike. -/
def commonStart : List Expr → List Expr → List Expr
  | a :: as, b :: bs => if a.same b then a :: commonStart as bs else []
  | _, _ => []

/-! ## Putting patterns together -/

/-- A pattern that takes one character of a set. -/
def ofSet (set : CharSet) : Expr :=
  match set.member? with
  | some c => literal [c]
  | none => chars set

/-- The parts of a pattern that follow each other. -/
def parts : Expr → List Expr
  | empty => []
  | concat parts => parts
  | expr => [expr]

/-- Puts a part in front of others, joining literals. -/
def prepend : Expr → List Expr → List Expr
  | literal a, literal b :: rest => literal (a ++ b) :: rest
  | part, rest => part :: rest

/-- Patterns one after the other; the empty pattern adds nothing. -/
def sequence (exprs : List Expr) : Expr :=
  match (exprs.flatMap parts).foldr prepend [] with
  | [] => empty
  | [part] => part
  | parts => concat parts

/-- The options of a pattern. -/
def options : Expr → List Expr
  | alternate options => options
  | expr => [expr]

/-- The only character that a pattern takes. -/
def char? : Expr → Option Char
  | literal [c] => some c
  | _ => none

/-- The set of which a pattern takes one character. -/
def charSet? : Expr → Option CharSet
  | chars set => some set
  | _ => none

/-- The text of a pattern that is a literal. -/
def literal? : Expr → Option (List Char)
  | literal text => some text
  | _ => none

/-- The parts of a pattern that is a sequence. -/
def sequenceParts? : Expr → Option (List Expr)
  | concat parts => some parts
  | _ => none

/-- A choice between some patterns; a choice between characters or between sets is one
set. -/
def choice (exprs : List Expr) : Expr :=
  match exprs.flatMap options with
  | [] => chars .empty
  | [option] => option
  | options =>
      match options.mapM char?, options.mapM charSet? with
      | some cs, _ => ofSet (.ofRanges (cs.map fun c => (c.toNat, c.toNat)))
      | none, some sets => ofSet (sets.foldl CharSet.union .empty)
      | none, none => alternate options

/-- What sequences all start with, and the rest of each; none when they do not start
alike or are not all sequences. -/
def factor? (exprs : List Expr) : Option (List Expr × List Expr) :=
  match exprs.mapM sequenceParts? with
  | some (first :: rest) =>
      let start := rest.foldl commonStart first
      if start.isEmpty then none
      else some (start, (first :: rest).map fun parts => sequence (parts.drop start.length))
  | _ => none

/-- Any of some patterns, with what they all start with in front of the choice. -/
def anyOf (exprs : List Expr) : Expr :=
  let options := exprs.flatMap options
  match options with
  | [option] => option
  | _ =>
      match factor? options with
      | some (start, rests) => sequence (start ++ [choice rests])
      | none => choice options

/-- A pattern several times. A pattern that takes no character is as good once as
more often, and no times is nothing. -/
def times (body : Expr) (least : Nat) (most : Option Nat) (preferShort : Bool) : Expr :=
  let (least, most) :=
    if body.takesNothing then (min least 1, some ((most.map (min · 1)).getD 1)) else (least, most)
  if least = 0 ∧ most = some 0 then empty
  else if least = 1 ∧ most = some 1 then body
  else repeated body least most preferShort

end Expr

end TaskQuery.Pattern

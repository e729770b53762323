/-
# Matching

Whether a pattern fits somewhere in a text. The places of a text lie before its
first character, between two characters, and behind the last, and a set of places
is a natural number whose bits say which belong to it. An expression leads the set
of places where a fit may start to the set of places where it may end; a loop is
followed until no new place comes, which is at most once for each place. No fit is
preferred to another, so there is nothing to backtrack.
-/

import TaskQuery.Pattern.Expr

namespace TaskQuery.Pattern

/-- A set of places in a text, as the bits of a number. -/
abbrev Places := Nat

/-- The places for which a property of their number holds, below a bound. -/
def Places.ofFn (count : Nat) (holds : Nat → Bool) : Places :=
  (List.range count).foldl (fun places i => if holds i then places ||| (1 <<< i) else places) 0

/-- A text prepared for matching. -/
structure Subject where
  chars : Array Char

namespace Subject

/-- The number of places of a text. -/
def placeCount (subject : Subject) : Nat :=
  subject.chars.size + 1

/-- The character before a place. -/
def before? (subject : Subject) (place : Nat) : Option Char :=
  if place = 0 then none else subject.chars[place - 1]?

/-- The character behind a place. -/
def after? (subject : Subject) (place : Nat) : Option Char :=
  subject.chars[place]?

end Subject

/-- Whether a character belongs to words. -/
def isWord (asciiOnly : Bool) (c : Char) : Bool :=
  if asciiOnly then c.isAlphanum || c == '_' else wordSet.contains c

/-- Whether a place is an edge of a word, by whether a word goes on before and
behind it. -/
def WordEdge.holds (before after : Bool) : WordEdge → Bool
  | boundary => before != after
  | inside => before == after
  | wordStart => !before && after
  | wordEnd => before && !after
  | startHalf => !before
  | endHalf => !after

/-- Whether a place starts a line. Where carriage returns end lines too, the two
characters of a line end belong together. -/
def startsLine (carriageReturns : Bool) (before after : Option Char) : Bool :=
  match before with
  | none => true
  | some c => c == '\n' || (carriageReturns && c == '\x0d' && after != some '\n')

/-- Whether a place ends a line. -/
def endsLine (carriageReturns : Bool) (before after : Option Char) : Bool :=
  match after with
  | none => true
  | some c =>
      if carriageReturns then c == '\x0d' || (c == '\n' && before != some '\x0d') else c == '\n'

/-- Whether a place answers a question, by the characters on both sides. -/
def Look.holds (look : Look) (before after : Option Char) : Bool :=
  match look with
  | textStart => before.isNone
  | textEnd => after.isNone
  | lineStart carriageReturns => startsLine carriageReturns before after
  | lineEnd carriageReturns => endsLine carriageReturns before after
  | word edge asciiOnly =>
      edge.holds (before.any (isWord asciiOnly)) (after.any (isWord asciiOnly))

/-- The places where a character of a set stands behind. -/
def Subject.placesOf (subject : Subject) (set : CharSet) : Places :=
  .ofFn subject.placeCount fun place => (subject.after? place).any set.contains

/-- The places that answer a question. -/
def Subject.placesAt (subject : Subject) (look : Look) : Places :=
  .ofFn subject.placeCount fun place =>
    look.holds (subject.before? place) (subject.after? place)

/-- Takes a step a number of times. -/
def iterate (step : Places → Places) : (count : Nat) → Places → Places
  | 0, places => places
  | count + 1, places => iterate step count (step places)

/-- Adds what a step leads to, at most a number of times, until nothing new
comes. -/
def saturate (step : Places → Places) : (count : Nat) → Places → Places
  | 0, places => places
  | count + 1, places =>
      let next := places ||| step places
      if next = places then places else saturate step count next

/-- The places behind a literal that stands at one of some places. -/
def Subject.behind (subject : Subject) (text : List Char) (places : Places) : Places :=
  text.foldl (fun places c => (places &&& subject.placesOf (.singleton c)) <<< 1) places

mutual

/-- The places where a fit may end that starts at one of some places. -/
def Expr.reach (subject : Subject) : Expr → Places → Places
  | empty, places => places
  | literal text, places => subject.behind text places
  | chars set, places => (places &&& subject.placesOf set) <<< 1
  | look question, places => places &&& subject.placesAt question
  | concat parts, places => reachThrough subject parts places
  | alternate options, places => reachByAny subject options places
  | group _ body, places => body.reach subject places
  | repeated body least most _, places =>
      let start := iterate (body.reach subject) least places
      saturate (body.reach subject) (most.elim subject.placeCount (· - least)) start

/-- The places where fits of patterns may end that follow each other. -/
def Expr.reachThrough (subject : Subject) : List Expr → Places → Places
  | [], places => places
  | part :: parts, places => reachThrough subject parts (part.reach subject places)

/-- The places where a fit of one of some patterns may end. -/
def Expr.reachByAny (subject : Subject) : List Expr → Places → Places
  | [], _ => 0
  | option :: options, places =>
      option.reach subject places ||| reachByAny subject options places

end

/-- Whether a pattern fits somewhere in a text. -/
def Expr.fits (expr : Expr) (text : String) : Bool :=
  let subject : Subject := ⟨text.toList.toArray⟩
  expr.reach subject (Nat.pow 2 subject.placeCount - 1) != 0

end TaskQuery.Pattern

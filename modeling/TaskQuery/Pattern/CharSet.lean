/-
# Sets of characters

The classes of a pattern are finite unions of ranges of code points. A list in
normal form increases and keeps its ranges apart, with at least one code point
between two of them; `CharSet.ofRanges` brings any list into it.

The code points from `D800` to `DFFF` are no characters. A range may run across them,
but ranges that end and start at them are kept apart although no character lies
between them, and the complement then counts the two characters at the edge as what
lies between.
-/

import TaskQuery.Text.CodeRange

namespace TaskQuery.Pattern

open Text

/-- A set of characters as increasing ranges. -/
structure CharSet where
  ranges : CodeRanges
  deriving DecidableEq, Repr

namespace CharSet

/-- The largest code point. -/
def lastCode : Nat := 0x10FFFF

/-- Puts a range in front of ranges that start no earlier, joining those that
touch. -/
def join (low high : Nat) : CodeRanges → CodeRanges
  | [] => [(low, high)]
  | (nextLow, nextHigh) :: rest =>
      if nextLow ≤ high + 1 then join low (max high nextHigh) rest
      else (low, high) :: (nextLow, nextHigh) :: rest

/-- Joins ranges in the order of their starts. -/
def joinAll : CodeRanges → CodeRanges
  | [] => []
  | (low, high) :: rest => join low high (joinAll rest)

/-- The set of the characters in any of some ranges. -/
def ofRanges (ranges : CodeRanges) : CharSet :=
  ⟨joinAll (ranges.mergeSort fun a b => a.1 ≤ b.1)⟩

/-- The set that holds nothing. -/
def empty : CharSet := ⟨[]⟩

/-- The set of all characters. -/
def all : CharSet := ⟨[(0, lastCode)]⟩

/-- The set of one character. -/
def singleton (c : Char) : CharSet := ⟨[(c.toNat, c.toNat)]⟩

/-- Whether a character belongs to a set. -/
def contains (set : CharSet) (c : Char) : Bool :=
  set.ranges.contains c.toNat

/-- The only member of a set with one member. -/
def member? (set : CharSet) : Option Char :=
  match set.ranges with
  | [(low, high)] => if low = high then some (Char.ofNat low) else none
  | _ => none

/-- What belongs to either set. -/
def union (a b : CharSet) : CharSet :=
  ofRanges (a.ranges ++ b.ranges)

/-- The code point of the character behind a character. -/
def nextCode (code : Nat) : Nat :=
  if code = 0xD7FF then 0xE000 else code + 1

/-- The code point of the character before a character. -/
def previousCode (code : Nat) : Nat :=
  if code = 0xE000 then 0xD7FF else code - 1

/-- The range that has two code points as its ends, in whichever order. -/
def span (a b : Nat) : Nat × Nat :=
  (min a b, max a b)

/-- What lies between ranges and behind them, the first of which ends at `high`. -/
def gaps (high : Nat) : CodeRanges → CodeRanges
  | [] => if high < lastCode then [span (nextCode high) lastCode] else []
  | (nextLow, nextHigh) :: rest =>
      span (nextCode high) (previousCode nextLow) :: gaps nextHigh rest

/-- What does not belong to a set. -/
def complement (set : CharSet) : CharSet :=
  match set.ranges with
  | [] => all
  | (low, high) :: rest =>
      ⟨(if 0 < low then [span 0 (previousCode low)] else []) ++ gaps high rest⟩

/-- What belongs to ranges of both lists. -/
def commonRanges : CodeRanges → CodeRanges → CodeRanges
  | [], _ => []
  | _, [] => []
  | (low, high) :: rest, (otherLow, otherHigh) :: others =>
      let both :=
        if max low otherLow ≤ min high otherHigh then
          [(max low otherLow, min high otherHigh)]
        else []
      if high < otherHigh then both ++ commonRanges rest ((otherLow, otherHigh) :: others)
      else both ++ commonRanges ((low, high) :: rest) others
termination_by a b => a.length + b.length

/-- What belongs to both sets. -/
def inter (a b : CharSet) : CharSet :=
  ⟨commonRanges a.ranges b.ranges⟩

/-- What ranges leave of ranges that they are cut out of. -/
def cutRanges : CodeRanges → CodeRanges → CodeRanges
  | [], _ => []
  | ranges, [] => ranges
  | (low, high) :: rest, (cutLow, cutHigh) :: cuts =>
      if cutHigh < low then cutRanges ((low, high) :: rest) cuts
      else if high < cutLow then (low, high) :: cutRanges rest ((cutLow, cutHigh) :: cuts)
      else
        let front := if low < cutLow then [(low, previousCode cutLow)] else []
        if high ≤ cutHigh then front ++ cutRanges rest ((cutLow, cutHigh) :: cuts)
        else front ++ cutRanges ((nextCode cutHigh, high) :: rest) cuts
termination_by a b => a.length + b.length

/-- What belongs to the first set and not to the second. -/
def diff (a b : CharSet) : CharSet :=
  ⟨cutRanges a.ranges b.ranges⟩

/-- What belongs to exactly one of two sets. -/
def symmDiff (a b : CharSet) : CharSet :=
  (a.union b).diff (a.inter b)

/-- Whether a set holds ASCII characters only. -/
def isAscii (set : CharSet) : Bool :=
  set.ranges.all fun range => range.2 < 0x80

end CharSet

end TaskQuery.Pattern

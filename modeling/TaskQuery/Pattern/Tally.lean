/-
# Counting the states of an automaton

An automaton is put together state by state, and refused as soon as it takes more than a
mebibyte. A state takes 32 bytes, and what it holds beside comes on top: eight bytes for
each edge of a state that reads several bytes, four for each way out of a branch. Only
the number of states and that sum are kept, for a state is known by its number.
-/

namespace TaskQuery.Pattern

/-- How much of an automaton there is: its states, and the bytes they take beside their
own size. -/
structure Tally where
  states : Nat := 0
  extra : Nat := 0
  deriving DecidableEq, Repr

/-- What a state takes. -/
def stateSize : Nat := 32

/-- What an edge takes that leads out of a state with several. -/
def edgeSize : Nat := 8

/-- What a way out of a branch takes. -/
def branchSize : Nat := 4

/-- The largest size of an automaton. -/
def sizeLimit : Nat := 0x100000

/-- What an automaton takes. -/
def Tally.size (tally : Tally) : Nat :=
  stateSize * tally.states + tally.extra

/-- A step in putting an automaton together, which fails beyond the limit. -/
abbrev Counting := StateT Tally Option

namespace Counting

/-- Goes on with more of an automaton if that stays within the limit. -/
def grow (tally : Tally) : Counting Unit := fun _ =>
  if tally.size ≤ sizeLimit then some ((), tally) else none

/-- Adds bytes to a state that is there. -/
def bytes (extra : Nat) : Counting Unit := do
  let tally ← get
  grow { tally with extra := tally.extra + extra }

/-- Adds a state and gives its number. -/
def state (extra : Nat) : Counting Nat := do
  let tally ← get
  grow { states := tally.states + 1, extra := tally.extra + extra }
  return tally.states

/-- Leads on from the end of a part, which costs something when that end is a branch. -/
def link (endsInBranch : Bool) : Counting Unit :=
  if endsInBranch then bytes branchSize else return ()

/-- Parts one after the other, each given by whether it ends in a branch. -/
def copies (part : Counting Bool) : (count : Nat) → (endsInBranch : Bool) → Counting Bool
  | 0, endsInBranch => return endsInBranch
  | count + 1, endsInBranch => do
      let next ← part
      link endsInBranch
      copies part count next

/-- A part exactly a number of times; no times is one state that does nothing. -/
def exactly (part : Counting Bool) (count : Nat) : Counting Bool :=
  if count = 0 then do
    let _ ← state 0
    return false
  else copies part count false

/-- A part that may be left out, each of a number of times. -/
def optionally (part : Counting Bool) : (count : Nat) → (endsInBranch : Bool) → Counting Bool
  | 0, endsInBranch => return endsInBranch
  | count + 1, endsInBranch => do
      let _ ← state 0
      let next ← part
      link endsInBranch
      bytes (2 * branchSize)
      optionally part count next

/-- A part any number of times. A part that always takes something is a loop through
one branch; another one needs a second branch in front of it. -/
def star (part : Counting Bool) (takesSome : Bool) : Counting Bool :=
  if takesSome then do
    let _ ← state branchSize
    link (← part)
    return true
  else do
    let endsInBranch ← part
    let _ ← state (2 * branchSize)
    link endsInBranch
    let _ ← state (2 * branchSize)
    let _ ← state 0
    return false

/-- A part at least once: a loop behind the last of the required times. -/
def plus (part : Counting Bool) (least : Nat) : Counting Bool := do
  let endsInBranch ← copies part least false
  let _ ← state branchSize
  link endsInBranch
  return true

/-- A part a number of times between two bounds, the second of which may be missing. -/
def repeated (part : Counting Bool) (takesSome : Bool) (least : Nat) (most : Option Nat) :
    Counting Bool :=
  match least, most with
  | 0, none => star part takesSome
  | least, none => plus part least
  | 0, some 1 => do
      let _ ← state (2 * branchSize)
      link (← part)
      let _ ← state 0
      return false
  | least, some most =>
      if least = most then exactly part least
      else do
        let endsInBranch ← exactly part least
        let _ ← state 0
        link (← optionally part (most - least) endsInBranch)
        return false

end Counting

end TaskQuery.Pattern

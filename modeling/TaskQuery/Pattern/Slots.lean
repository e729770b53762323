/-
# Remembering states in a bounded number of slots

While an automaton for a set of characters is put together, states are remembered so that
one that would read the same is not added twice. There is a fixed number of slots. The
slot of a state is found by the FNV-1a hash of what it reads, and a state drives out the
one that was in its slot, so a set with many states may hold some of them twice.
-/

import Std.Data.HashMap
import TaskQuery.Pattern.Tally

namespace TaskQuery.Pattern

/-- Takes a number into a hash. -/
def mixHash (hash : UInt64) (value : Nat) : UInt64 :=
  (hash ^^^ value.toUInt64) * 1099511628211

/-- The FNV-1a hash of some numbers. -/
def hashOf (values : List Nat) : UInt64 :=
  values.foldl mixHash 14695981039346656037

/-- States by slot: what each reads, and its number. -/
abbrev Slots := Std.HashMap Nat (List Nat × Nat)

/-- A step in putting an automaton together that remembers states. -/
abbrev SharedCounting := StateT Slots Counting

/-- The number of the state that reads what is given: one that is remembered, or else a
new one that takes some bytes beside its size. -/
def sharedState (slotCount : Nat) (reads : List Nat) (extra : Nat) : SharedCounting Nat := do
  let slot := (hashOf reads).toNat % slotCount
  let slots ← get
  match (slots[slot]?).filter fun entry => entry.1 == reads with
  | some entry => return entry.2
  | none =>
      let number ← (Counting.state extra : Counting Nat)
      set (slots.insert slot (reads, number))
      return number

end TaskQuery.Pattern

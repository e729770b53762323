/-
# Patterns without regard to case

Characters are taken for each other when they fall into one group of the folding
table. A set is closed by adding, for each of its members, the rest of its group.
-/

import TaskQuery.Pattern.CharSet
import TaskQuery.Pattern.FoldTable

namespace TaskQuery.Pattern

/-- Each member of a group but the least, with the least. -/
def foldPairs : List (Nat × Nat) :=
  foldRuns.flatMap fun run =>
    (List.range ((run.last - run.first) / run.step + 1)).map fun i =>
      let code : Nat := run.first + run.step * i
      (code, ((code : Int) + run.shift).toNat)

namespace CharSet

/-- A set with everything that differs from a member in case only. -/
def foldCase (set : CharSet) : CharSet :=
  let leasts := ofRanges (foldPairs.filterMap fun (code, least) =>
    if set.ranges.contains code || set.ranges.contains least then some (least, least) else none)
  let others := foldPairs.filterMap fun (code, least) =>
    if leasts.ranges.contains least then some (code, code) else none
  ofRanges (set.ranges ++ leasts.ranges ++ others)

/-- A set with everything in ASCII that differs from a member in case only. -/
def foldAsciiCase (set : CharSet) : CharSet :=
  set.union (set.foldCase.inter ⟨[(0, 0x7F)]⟩)

end CharSet

end TaskQuery.Pattern

/-
# Sets of characters as ranges of code points

A property of characters that comes from a published table is kept as a sorted
list of closed ranges. The module holds the lookup and nothing of the tables
themselves; a list that is not sorted is looked up wrongly, and no claim is made
about one.
-/

namespace TaskQuery.Text

/-- Closed ranges of code points, in increasing order and apart from each
other. -/
abbrev CodeRanges := List (Nat × Nat)

/-- Whether a code point lies in one of the ranges. The search stops at the
first range that starts behind the code point. -/
def CodeRanges.contains : CodeRanges → Nat → Bool
  | [], _ => false
  | (low, high) :: rest, code =>
      if code < low then false
      else code ≤ high || CodeRanges.contains rest code

end TaskQuery.Text

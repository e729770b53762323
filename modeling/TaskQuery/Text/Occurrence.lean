/-
# Occurrences in a text

A search term is found wherever its characters stand next to each other in a text,
in order and without a gap.
-/

namespace TaskQuery.Text

/-- Whether a word occurs in a text. -/
def occursIn (word : List Char) : List Char → Bool
  | [] => word.isEmpty
  | c :: cs => word.isPrefixOf (c :: cs) || occursIn word cs

/-- A word occurs in a text if and only if the text is the word with something in
front of it and something behind it. -/
theorem occursIn_iff {word cs : List Char} : occursIn word cs = true ↔ word <:+: cs := by
  induction cs with
  | nil => simp [occursIn]
  | cons c cs ih => simp [occursIn, ih, List.infix_cons_iff]

end TaskQuery.Text

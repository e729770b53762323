/-
# Padding and cutting text

Columns are measured in characters, and whatever a character looks like it counts
as one.
-/

namespace TaskQuery.Text

/-- A number of blanks. -/
def spaces (count : Nat) : String :=
  String.ofList (List.replicate count ' ')

/-- A text with blanks behind it up to a width. -/
def padRight (width : Nat) (text : String) : String :=
  text ++ spaces (width - text.length)

/-- A text with blanks in front of it up to a width. -/
def padLeft (width : Nat) (text : String) : String :=
  spaces (width - text.length) ++ text

/-- A text that is cut when it is longer than a width, with three points in place of
its end. Below a width of three the points alone are left, and stand out. -/
def truncate (width : Nat) (text : String) : String :=
  if width < text.length then String.ofList (text.toList.take (width - 3)) ++ "..."
  else text

theorem length_spaces (count : Nat) : (spaces count).length = count := by
  simp [spaces]

theorem length_truncate_le (width : Nat) (text : String) :
    (truncate width text).length ≤ max width 3 := by
  unfold truncate
  split
  · simp only [String.length_append, String.length_ofList, List.length_take]
    have points : "...".length = 3 := rfl
    omega
  · omega

end TaskQuery.Text

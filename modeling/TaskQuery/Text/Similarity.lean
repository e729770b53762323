/-
# How alike two words are

A misspelt field name is answered with the closest known name. Closeness is the
Jaro–Winkler measure over characters, in double precision: matching characters that
are not too far apart, less those out of order, with a bonus for a common start of
up to four characters when the words are alike enough already.
-/

namespace TaskQuery.Text

/-- Marks the first free occurrence of a character between two places, both given
relative to the start of the list. -/
def markMatch? (c : Char) : (skip width : Nat) → List (Char × Bool) → Option (List (Char × Bool))
  | _, _, [] => none
  | skip + 1, width, entry :: rest => (markMatch? c skip width rest).map (entry :: ·)
  | 0, 0, _ => none
  | 0, width + 1, (d, taken) :: rest =>
      if c = d ∧ !taken then some ((d, true) :: rest)
      else (markMatch? c 0 width rest).map ((d, taken) :: ·)

/-- The characters of one word that match a free character of the other within
reach, and the other word with the matched characters marked. -/
def matchWord (reach : Nat) : (place : Nat) → List Char → List (Char × Bool) →
    List Char × List (Char × Bool)
  | _, [], entries => ([], entries)
  | place, c :: cs, entries =>
      let first := place - reach
      match markMatch? c first (place + reach + 1 - first) entries with
      | some marked =>
          let tail := matchWord reach (place + 1) cs marked
          (c :: tail.1, tail.2)
      | none => matchWord reach (place + 1) cs entries

/-- The Jaro similarity of two words. -/
def jaro (a b : List Char) : Float :=
  if a.isEmpty ∧ b.isEmpty then 1.0
  else
    let reach := max a.length b.length / 2 - 1
    let (matched, entries) := matchWord reach 0 a (b.map fun c => (c, false))
    let opposite := (entries.filter Prod.snd).map Prod.fst
    let outOfOrder := ((matched.zip opposite).filter fun (c, d) => c != d).length / 2
    let alike := matched.length
    if alike = 0 then 0.0
    else
      let ratio (x y : Nat) : Float := x.toFloat / y.toFloat
      (ratio alike a.length + ratio alike b.length
        + ratio (alike - outOfOrder) alike) / 3.0

/-- The length of the common start of two words, at most four. -/
def commonStart (a b : List Char) : Nat :=
  (((a.take 4).zip b).takeWhile fun (c, d) => c == d).length

/-- The Jaro–Winkler similarity of two words. -/
def similarity (a b : String) : Float :=
  let plain := jaro a.toList b.toList
  if plain > 0.7 then
    plain + 0.1 * (commonStart a.toList b.toList).toFloat * (1.0 - plain)
  else plain

end TaskQuery.Text

/-
# Lowering text

Fields, operators and values are compared without regard to letter case, by
lowering both sides in full. Lowering goes letter by letter with two exceptions:
a capital dotted I becomes an i and a combining dot, and a capital sigma becomes
the final form at the end of a word. So the lowered text of a part need not be a
part of the lowered text.
-/

import TaskQuery.Text.CasingTable

namespace TaskQuery.Text

/-- The code point that a letter outside ASCII is lowered to. -/
def lowercaseCode (code : Nat) : Nat :=
  match lowercaseRuns.find? fun run =>
      run.first ≤ code && code ≤ run.last && (code - run.first) % run.step == 0 with
  | some run => (code + run.shift).toNat
  | none => code

/-- A character lowered on its own, without regard to its neighbours. -/
def lowercaseChar (c : Char) : List Char :=
  if c.toNat < 0x80 then [c.toLower]
  else if c.toNat = 0x130 then ['i', Char.ofNat 0x307]
  else [Char.ofNat (lowercaseCode c.toNat)]

/-- Whether the first character that is not passed over has case. -/
def meetsCased (cs : List Char) : Bool :=
  match cs.dropWhile fun c => caseIgnorableRanges.contains c.toNat with
  | c :: _ => casedRanges.contains c.toNat
  | [] => false

/-- Whether a place ends a word: a letter with case comes before it and none
comes next. The characters before it are given nearest first. -/
def endsWord (before after : List Char) : Bool :=
  meetsCased before && !meetsCased after

/-- Lowers characters of which some, given nearest first, were read already. -/
def lowercaseAfter (before : List Char) : List Char → List Char
  | [] => []
  | c :: rest =>
      (if c = 'Σ' then [if endsWord before rest then 'ς' else 'σ'] else lowercaseChar c)
        ++ lowercaseAfter (c :: before) rest

/-- The lowered form of a text. -/
def lowercase (text : String) : String :=
  String.ofList (lowercaseAfter [] text.toList)

@[simp]
theorem lowercaseAfter_nil (before : List Char) : lowercaseAfter before [] = [] := rfl

end TaskQuery.Text

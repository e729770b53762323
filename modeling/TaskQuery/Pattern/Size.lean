/-
# The size of a pattern

A pattern is refused when an automaton for it would take more than a mebibyte. Two
automata are counted, one that reads forward and remembers groups, and one that reads
backward. Both read the UTF-8 form of characters. The forward one shares every remembered
state of a set of characters that reads the same, the backward one the remembered states
that read the same first bytes, so a large set of characters costs more backward.

A choice between three thousand literals or more, and nothing else, is not limited: a
table of its words is searched for instead.
-/

import TaskQuery.Pattern.ByteForm
import TaskQuery.Pattern.Expr
import TaskQuery.Pattern.Slots
import TaskQuery.Text.Bytes

namespace TaskQuery.Pattern

/-! ## Sets of characters -/

/-- The slots for states of the forward automaton. -/
def forwardSlots : Nat := 10000

/-- The slots for states of the backward automaton. -/
def backwardSlots : Nat := 1000

/-- Byte forms that start alike, as the common start and the rests. -/
def groupForms (forms : List ByteForm) : List (ByteRange × List ByteForm) :=
  (forms.splitBy fun a b => a.head? == b.head?).filterMap fun run =>
    match run with
    | (leading :: _) :: _ => some (leading, run.map List.tail)
    | _ => none

/-- Adds the states that read byte forms forward, and gives the number of the first. The
form that is read to its end leads to `target`. -/
def countForward (target : Nat) : (length : Nat) → List ByteForm → SharedCounting Nat
  | 0, _ => return target
  | length + 1, forms => do
      if forms.all List.isEmpty then return target
      else
        let edges ← (groupForms forms).mapM fun (leading, rests) => do
          return [leading.1, leading.2, ← countForward target length rests]
        sharedState forwardSlots edges.flatten (edgeSize * edges.length)

/-- Adds the states that read a byte form backward, its leading bytes last. -/
def countBackward (target : Nat) (form : ByteForm) : SharedCounting Nat :=
  form.foldlM (fun target range => sharedState backwardSlots [target, range.1, range.2] 0) target

/-- The states for one character of a set. -/
def CharSet.count (backward : Bool) (set : CharSet) : Counting Unit :=
  if set.isAscii then do
    let _ ← Counting.state 0
    let _ ← Counting.state (edgeSize * set.ranges.length)
  else if backward then do
    let _ ← Counting.state 0
    let target ← Counting.state 0
    let branches : SharedCounting Unit := set.byteForms.forM fun form => do
      let _ ← countBackward target form
      (Counting.bytes branchSize : Counting Unit)
    let _ ← branches.run {}
  else do
    let target ← Counting.state 0
    let _ ← (countForward target 4 set.byteForms).run {}

/-! ## Literals -/

/-- Cuts a list at the empty words in it; several of them at its front count as one. -/
def sections : List (List UInt8) → List (List (List UInt8))
  | [] => [[]]
  | [] :: [] :: rest => sections ([] :: rest)
  | [] :: rest => [] :: rest.splitOnP List.isEmpty
  | words => words.splitOnP List.isEmpty

/-- The words that start with each byte, without it. -/
def wordsByStart (words : List (List UInt8)) : List (List (List UInt8)) :=
  (words.filterMap List.head?).eraseDups.map fun byte =>
    words.filterMap fun word => if word.head? = some byte then some word.tail else none

/-- The states of a tree of words, whose beginnings are shared. Where words end and go
on, the words are taken in their order: those that come before an end share no state with
those behind it. -/
def countTree : (length : Nat) → List (List UInt8) → Counting Unit
  | 0, _ => return ()
  | length + 1, words => do
      let parts := sections words
      for part in parts do
        let starts := wordsByStart part
        for rests in starts do
          if rests.all List.isEmpty then pure () else countTree length rests
        if starts.isEmpty then pure ()
        else
          let _ ← Counting.state (if starts.length = 1 then 0 else edgeSize * starts.length)
      let ways := (parts.filter fun part => !part.isEmpty).length + (parts.length - 1)
      let _ ← Counting.state (branchSize * ways)

/-- The states for one of some literals. -/
def countLiterals (backward : Bool) (texts : List (List Char)) : Counting Unit := do
  let words := texts.map fun text =>
    if backward then (Text.utf8Bytes text).reverse else Text.utf8Bytes text
  let _ ← Counting.state 0
  countTree (words.foldl (fun length word => max length word.length) 0) words

/-! ## Patterns -/

mutual

/-- The states for a pattern; the value says whether its last state is a branch. -/
def Expr.count (backward : Bool) : Expr → Counting Bool
  | .empty => do
      let _ ← Counting.state 0
      return false
  | .literal text => Counting.exactly (do let _ ← Counting.state 0; return false)
      (Text.byteLength text)
  | .chars set => do
      set.count backward
      return false
  | .look _ => do
      let _ ← Counting.state 0
      return false
  | .concat parts => Expr.countParts backward parts false
  | .alternate options =>
      match options.mapM Expr.literal? with
      | some texts => do
          countLiterals backward texts
          return false
      | none => do
          Expr.countOptions backward options 0
          return false
  | .group _ body =>
      if backward then body.count backward
      else do
        let _ ← Counting.state 0
        let endsInBranch ← body.count backward
        let _ ← Counting.state 0
        Counting.link endsInBranch
        return false
  | .repeated body least most _ =>
      Counting.repeated (body.count backward) (body.minLength.any (0 < ·)) least most

/-- The states for patterns one after the other, of which the last to be read comes last. -/
def Expr.countParts (backward : Bool) : List Expr → Bool → Counting Bool
  | [], endsInBranch => return endsInBranch
  | part :: parts, endsInBranch =>
      if backward then do
        let before ← Expr.countParts backward parts endsInBranch
        let next ← part.count backward
        Counting.link before
        return next
      else do
        let next ← part.count backward
        Counting.link endsInBranch
        Expr.countParts backward parts next

/-- The states for each of some options, of which some were counted before, and the way
into and out of each. The states where the options part and meet come behind the second
option. -/
def Expr.countOptions (backward : Bool) : List Expr → (before : Nat) → Counting Unit
  | [], _ => return ()
  | option :: options, before => do
      Counting.link (← option.count backward)
      Counting.bytes branchSize
      if before = 1 then
        let _ ← Counting.state 0
        let _ ← Counting.state 0
      Expr.countOptions backward options (before + 1)

end

/-- The states for a whole pattern. A pattern that may start anywhere has a loop over the
text in front of it; the forward automaton also marks where the fit starts and ends. -/
def Expr.countAll (backward : Bool) (expr : Expr) : Counting Unit := do
  if expr.isAnchored backward then
    let _ ← Counting.state 0
  else
    let _ ← Counting.state (2 * branchSize)
    let _ ← Counting.state 0
    let _ ← Counting.state edgeSize
  if backward then
    Counting.link (← expr.count backward)
  else
    let _ ← (Expr.group 0 expr).count backward
  let _ ← Counting.state 0

/-- How many literals a choice needs to be searched for by a table of words. -/
def wordTableSize : Nat := 3000

/-- Whether a pattern is a choice between enough literals for a table of words. -/
def Expr.isWordTable : Expr → Bool
  | .alternate options =>
      wordTableSize ≤ options.length && options.all fun option => option.literal?.isSome
  | _ => false

/-- Whether both automata of a pattern stay within the limit. -/
def Expr.fitsLimit (expr : Expr) : Bool :=
  expr.isWordTable
    || (((expr.countAll false).run {}).isSome && ((expr.countAll true).run {}).isSome)

end TaskQuery.Pattern

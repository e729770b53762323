/-
# Escapes and classes of a pattern

What a backslash introduces, inside and outside a bracketed class, and how a
bracketed class is read. Classes nest, are joined by set operations, and are kept
on a stack while they are open; a class is folded and negated when it closes.

Where blanks are ignored they are skipped between any two characters that are not
meant as text, also inside numbers and names.
-/

import TaskQuery.Pattern.CaseFold
import TaskQuery.Pattern.Expr
import TaskQuery.Pattern.Fault
import TaskQuery.Pattern.Flags
import TaskQuery.Text.Blank
import TaskQuery.Text.Digits
import TaskQuery.Text.Scan

namespace TaskQuery.Pattern

open Text

/-- A scanner of pattern text. -/
abbrev PatternScan := Scan Fault

/-! ## Blanks that do not count -/

/-- Drops blanks, and comments that run from `#` to the end of a line. -/
def dropIgnored (comment : Bool) : List Char → List Char
  | [] => []
  | c :: cs =>
      if comment then dropIgnored (c != '\n') cs
      else if isBlank c then dropIgnored false cs
      else if c = '#' then dropIgnored true cs
      else c :: cs

theorem dropIgnored_length (comment : Bool) (cs : List Char) :
    (dropIgnored comment cs).length ≤ cs.length := by
  fun_induction dropIgnored comment cs <;> simp only [List.length_cons, Nat.le_refl] <;> omega

/-- Skips what does not count under the flags. -/
def skipIgnored (flags : Flags) : PatternScan Unit :=
  if flags.ignoreBlanks then
    fun cs => .ok ⟨(), dropIgnored false cs, dropIgnored_length false cs⟩
  else return ()

/-- Drops blanks and the first `#`, and stops at a second one as at any other
character. -/
def dropBlanksAndSign (seen : Bool) : List Char → List Char
  | [] => []
  | c :: cs =>
      if isBlank c then dropBlanksAndSign seen cs
      else if c = '#' ∧ !seen then dropBlanksAndSign true cs
      else c :: cs

/-- What decides whether a hyphen makes a range: the character behind it. Where blanks
are ignored it is the first that is neither a blank nor the sign that starts a comment,
even inside that comment, or whatever comes next where there is none. -/
def behindHyphen? (flags : Flags) (cs : List Char) : Option Char :=
  if flags.ignoreBlanks then (dropBlanksAndSign false cs).head?.or cs.head? else cs.head?

/-- Takes a character, and what does not count behind it. -/
def takeAndSkip (flags : Flags) : PatternScan Unit := do
  let _ ← Scan.take
  skipIgnored flags

/-- The characters with a property from the front of a text, with what does not
count between and behind them left out. -/
def gatherFrom (accept : Char → Bool) (ignore comment : Bool) :
    List Char → List Char × List Char
  | [] => ([], [])
  | c :: cs =>
      if comment then gatherFrom accept ignore (c != '\n') cs
      else if ignore && isBlank c then gatherFrom accept ignore false cs
      else if ignore && c == '#' then gatherFrom accept ignore true cs
      else if accept c then
        (c :: (gatherFrom accept ignore false cs).1, (gatherFrom accept ignore false cs).2)
      else ([], c :: cs)

theorem gatherFrom_length (accept : Char → Bool) (ignore comment : Bool) (cs : List Char) :
    (gatherFrom accept ignore comment cs).2.length ≤ cs.length := by
  fun_induction gatherFrom accept ignore comment cs <;>
    simp only [List.length_cons, Nat.le_refl] <;> omega

/-- Takes characters as long as they have a property. -/
def gather (flags : Flags) (accept : Char → Bool) : PatternScan (List Char) :=
  fun cs =>
    .ok ⟨(gatherFrom accept flags.ignoreBlanks false cs).1,
      (gatherFrom accept flags.ignoreBlanks false cs).2, gatherFrom_length _ _ _ _⟩

/-! ## Escapes -/

/-- What an escape or a single character stands for. A literal remembers whether it
was given as a byte in hexadecimal. -/
inductive Primitive
  | literal (c : Char) (asByte : Bool)
  | dot
  | assertion (look : Look)
  | set (set : CharSet)

/-- Characters that a pattern gives a meaning to somewhere. -/
def metaChars : List Char :=
  ['\\', '.', '+', '*', '?', '(', ')', '|', '[', ']', '\x7b', '\x7d', '^', '$', '#', '&', '-', '~']

/-- Whether a backslash in front of a character leaves the character itself. -/
def isEscapable (c : Char) : Bool :=
  metaChars.contains c || (c.toNat < 0x80 && !c.isAlphanum && c != '<' && c != '>')

/-- Takes a fixed number of characters for hexadecimal digits. -/
def takeDigits (flags : Flags) : Nat → PatternScan (List Char)
  | 0 => return []
  | count + 1 => do
      let digit ← Scan.takeOr .escapeAtEnd
      skipIgnored flags
      return digit :: (← takeDigits flags count)

/-- Reads a code in hexadecimal, in braces or with a fixed number of digits. -/
def hexEscape (flags : Flags) (letter : Char) : PatternScan Primitive := do
  skipIgnored flags
  let braced ← Scan.accept ['\x7b']
  let digits ←
    if braced then do
      let digits ← gather flags (· != '\x7d')
      let _ ← Scan.takeOr .escapeAtEnd
      skipIgnored flags
      pure digits
    else takeDigits flags (if letter = 'x' then 2 else if letter = 'u' then 4 else 8)
  match Text.charOfHex? digits with
  | some c => return .literal c (letter = 'x' ∧ !braced)
  | none => Scan.fail .hexInvalid

/-- Where a word splits off at the first of some characters. -/
def splitAtChar? (mark : Char) (word : List Char) : Option (List Char × List Char) :=
  if word.contains mark then
    some (word.takeWhile (· != mark), (word.dropWhile (· != mark)).drop 1)
  else none

/-- Where a word splits off at the first `!=`. -/
def splitAtUnequal? : List Char → Option (List Char × List Char)
  | '!' :: '=' :: rest => some ([], rest)
  | c :: rest => (splitAtUnequal? rest).map fun (before, after) => (c :: before, after)
  | [] => none

/-- A property as written between braces, and whether it was written negated. -/
def propertyOfText (text : List Char) : PropertyName × Bool :=
  match splitAtUnequal? text with
  | some (property, value) => (.valued property value, true)
  | none =>
      match (splitAtChar? ':' text).or (splitAtChar? '=' text) with
      | some (property, value) => (.valued property value, false)
      | none => (.alone text, false)

/-- Closes a set under case where case does not count, and negates it. Without
Unicode only sets of ASCII characters have a meaning. -/
def foldAndNegate (flags : Flags) (negated : Bool) (set : CharSet) : Except Fault CharSet :=
  let folded :=
    if flags.ignoreCase then
      if flags.unicode then set.foldCase else set.foldAsciiCase
    else set
  let result := if negated then folded.complement else folded
  if flags.unicode || result.isAscii then .ok result else .error .notUtf8

/-- Reads the property class that `\p` or `\P` introduces. -/
def propertyEscape (flags : Flags) (letter : Char) : PatternScan Primitive := do
  skipIgnored flags
  let (name, unequal) ←
    if ← Scan.accept ['\x7b'] then do
      let text ← gather flags (· != '\x7d')
      let _ ← Scan.takeOr .escapeAtEnd
      pure (propertyOfText text)
    else do
      let c ← Scan.takeOr .escapeAtEnd
      if c = '\\' then Scan.fail .propertyUnknown
      else
        skipIgnored flags
        pure (.alone [c], false)
  if !flags.unicode then Scan.fail .notUnicode
  else
    match name.set? with
    | some set => return .set (← Scan.decided (foldAndNegate flags ((letter = 'P') != unequal) set))
    | none => Scan.fail .propertyUnknown

/-- The class that one of the letters `d`, `s`, `w` or a capital of them stands
for. -/
def letterClass (flags : Flags) (letter : Char) : Except Fault CharSet :=
  let set : CharSet :=
    if letter.toLower = 'd' then if flags.unicode then digitSet else ⟨[(0x30, 0x39)]⟩
    else if letter.toLower = 's' then
      if flags.unicode then spaceSet else ⟨[(0x9, 0xD), (0x20, 0x20)]⟩
    else if flags.unicode then wordSet
    else ⟨[(0x30, 0x39), (0x41, 0x5A), (0x5F, 0x5F), (0x61, 0x7A)]⟩
  foldAndNegate { flags with ignoreCase := false } letter.isUpper set

/-- The character that one of the letter escapes stands for. -/
def controlEscape? (letter : Char) : Option Char :=
  if letter = 'a' then some '\x07'
  else if letter = 'f' then some '\x0c'
  else if letter = 't' then some '\t'
  else if letter = 'n' then some '\n'
  else if letter = 'r' then some '\x0d'
  else if letter = 'v' then some '\x0b'
  else none

/-- The characters of the names in `\b` with braces. -/
def isEdgeChar (c : Char) : Bool :=
  c.isAlpha || c == '-'

/-- The edge of a word that a name between braces asks for. -/
def edgeOfName? (name : List Char) : Option WordEdge :=
  match String.ofList name with
  | "start" => some .wordStart
  | "end" => some .wordEnd
  | "start-half" => some .startHalf
  | "end-half" => some .endHalf
  | _ => none

/-- Reads the name of an edge in braces; when the braces hold no name they are left
for a repetition. -/
def namedEdge (flags : Flags) : PatternScan (Option WordEdge) := do
  if !(← Scan.accept ['\x7b']) then return none
  skipIgnored flags
  match ← Scan.peek with
  | none => Scan.fail .boundaryUnclosed
  | some c =>
      if !isEdgeChar c then return none
      let name ← gather flags isEdgeChar
      if !(← Scan.accept ['\x7d']) then Scan.fail .boundaryUnclosed
      else
        match edgeOfName? name with
        | some edge => return some edge
        | none => Scan.fail .boundaryUnknown

/-- Reads what stands after a backslash. -/
def escape (flags : Flags) : PatternScan Primitive := do
  let letter ← Scan.takeOr .escapeAtEnd
  let edge (edge : WordEdge) : Primitive := .assertion (.word edge !flags.unicode)
  if letter.isDigit then Scan.fail .backreference
  else if ['x', 'u', 'U'].contains letter then hexEscape flags letter
  else if ['p', 'P'].contains letter then propertyEscape flags letter
  else if ['d', 's', 'w', 'D', 'S', 'W'].contains letter then
    return .set (← Scan.decided (letterClass flags letter))
  else if isEscapable letter then return .literal letter false
  else
    match controlEscape? letter with
    | some c => return .literal c false
    | none =>
        if letter = 'A' then return .assertion .textStart
        else if letter = 'z' then return .assertion .textEnd
        else if letter = 'b' then
          return edge ((← Scan.attempt (namedEdge flags)).getD .boundary)
        else if letter = 'B' then return edge .inside
        else if letter = '<' then return edge .wordStart
        else if letter = '>' then return edge .wordEnd
        else Scan.fail (.escapeUnknown letter)

/-! ## Bracketed classes -/

/-- The members of a class gathered so far, with the number of items and how deep
they nest. -/
structure ClassItems where
  set : CharSet := .empty
  count : Nat := 0
  depth : Nat := 0

/-- Adds an item to a class. -/
def ClassItems.add (items : ClassItems) (set : CharSet) (depth : Nat) : ClassItems :=
  ⟨items.set.union set, items.count + 1, max items.depth depth⟩

/-- How deep the items of a class nest together. -/
def ClassItems.nesting (items : ClassItems) : Nat :=
  if items.count ≤ 1 then items.depth else items.depth + 1

/-- An operation between two classes. -/
inductive ClassOperation
  | intersection
  | difference
  | symmetricDifference

/-- Carries out an operation between two classes. -/
def ClassOperation.apply : ClassOperation → CharSet → CharSet → CharSet
  | intersection => CharSet.inter
  | difference => CharSet.diff
  | symmetricDifference => CharSet.symmDiff

/-- A part of a class that is not complete: a bracket that is open inside other
items, or an operation whose right side is being read. -/
inductive ClassFrame
  | bracket (outer : ClassItems) (negated : Bool)
  | operation (operation : ClassOperation) (left : CharSet) (depth : Nat)

/-- A class that was read, and how deep it nests. -/
structure ReadClass where
  set : CharSet
  depth : Nat

/-- Carries out the operation in front of some items, if there is one. -/
def finishOperation (flags : Flags) (items : ClassItems) :
    List ClassFrame → Except Fault (ReadClass × List ClassFrame)
  | .operation operation left depth :: stack => do
      let left ← foldAndNegate flags false left
      let right ← foldAndNegate flags false items.set
      return (⟨operation.apply left right, 1 + max depth items.nesting⟩, stack)
  | stack => .ok (⟨items.set, items.nesting⟩, stack)

/-- The classes of ASCII that have a name in brackets and colons. -/
def namedAsciiClass? (name : List Char) : Option CharSet :=
  match String.ofList name with
  | "alnum" => some ⟨[(0x30, 0x39), (0x41, 0x5A), (0x61, 0x7A)]⟩
  | "alpha" => some ⟨[(0x41, 0x5A), (0x61, 0x7A)]⟩
  | "ascii" => some ⟨[(0, 0x7F)]⟩
  | "blank" => some ⟨[(0x9, 0x9), (0x20, 0x20)]⟩
  | "cntrl" => some ⟨[(0, 0x1F), (0x7F, 0x7F)]⟩
  | "digit" => some ⟨[(0x30, 0x39)]⟩
  | "graph" => some ⟨[(0x21, 0x7E)]⟩
  | "lower" => some ⟨[(0x61, 0x7A)]⟩
  | "print" => some ⟨[(0x20, 0x7E)]⟩
  | "punct" => some ⟨[(0x21, 0x2F), (0x3A, 0x40), (0x5B, 0x60), (0x7B, 0x7E)]⟩
  | "space" => some ⟨[(0x9, 0xD), (0x20, 0x20)]⟩
  | "upper" => some ⟨[(0x41, 0x5A)]⟩
  | "word" => some ⟨[(0x30, 0x39), (0x41, 0x5A), (0x5F, 0x5F), (0x61, 0x7A)]⟩
  | "xdigit" => some ⟨[(0x30, 0x39), (0x41, 0x46), (0x61, 0x66)]⟩
  | _ => none

/-- Reads a named class of ASCII after its opening bracket, if there is one. -/
def asciiClass : PatternScan (Option (CharSet × Bool)) := do
  if !(← Scan.accept [':']) then return none
  let negated ← Scan.accept ['^']
  let name ← Scan.takeWhile (· != ':')
  if !(← Scan.accept [':', ']']) then return none
  return (namedAsciiClass? name).map fun set => (set, negated)

/-- Reads the opening of a class after its bracket: a negation, hyphens, and a
closing bracket that stands for itself. -/
def openClass (flags : Flags) : PatternScan (Bool × ClassItems) := do
  skipIgnored flags
  let negated ← Scan.accept ['^']
  if negated then skipIgnored flags
  let hyphens ← gather flags (· == '-')
  let items := hyphens.foldl (fun items c => items.add (.singleton c) 0) ({} : ClassItems)
  if (← Scan.peek).isNone then Scan.fail .classUnclosed
  else if hyphens.isEmpty ∧ (← Scan.peek) = some ']' then
    takeAndSkip flags
    return (negated, items.add (.singleton ']') 0)
  else return (negated, items)

/-- The primitive that starts with a character inside a class. -/
def classPrimitive (flags : Flags) (first : Char) : PatternScan Primitive :=
  if first = '\\' then escape flags else return .literal first false

/-- The character of a primitive that bounds a range. -/
def rangeBound (flags : Flags) : Primitive → Except Fault Char
  | .literal c _ => if flags.unicode ∨ c.toNat < 0x80 then .ok c else .error .notUnicode
  | _ => .error .classRangeNotLiteral

/-- The set of a primitive inside a class. -/
def primitiveSet (flags : Flags) : Primitive → Except Fault CharSet
  | .literal c _ =>
      if flags.unicode ∨ c.toNat < 0x80 then .ok (.singleton c) else .error .notUnicode
  | .set set => .ok set
  | _ => .error .classEscapeInvalid

/-- Reads the item of a class that starts with a character: a range or a single
primitive. A hyphen in front of a bracket or another hyphen makes no range. -/
def classItem (flags : Flags) (first : Char) : PatternScan CharSet := do
  let primitive ← classPrimitive flags first
  skipIgnored flags
  match ← Scan.ahead with
  | [] => Scan.fail .classUnclosed
  | next :: behind =>
      if next ≠ '-' ∨ behindHyphen? flags behind = some ']' ∨ behindHyphen? flags behind = some '-'
      then
        Scan.decided (primitiveSet flags primitive)
      else
        takeAndSkip flags
        let second ← classPrimitive flags (← Scan.takeOr .classUnclosed)
        let low ← Scan.decided (rangeBound flags primitive)
        let high ← Scan.decided (rangeBound flags second)
        if low ≤ high then return ⟨[(low.toNat, high.toNat)]⟩ else Scan.fail .classRangeInvalid

/-- The operation that a doubled sign stands for. -/
def operationOf? (sign : Char) : Option ClassOperation :=
  if sign = '&' then some .intersection
  else if sign = '-' then some .difference
  else if sign = '~' then some .symmetricDifference
  else none

/-- Closes the innermost bracket. -/
def closeBracket (flags : Flags) (stack : List ClassFrame) (items : ClassItems) :
    Except Fault (Scan.Progress (List ClassFrame × ClassItems) ReadClass) := do
  let (read, stack) ← finishOperation flags items stack
  match stack with
  | .bracket outer negated :: rest => do
      let set ← foldAndNegate flags negated read.set
      if rest.isEmpty then return .done ⟨set, read.depth + 1⟩
      else return .more (rest, outer.add set (read.depth + 1))
  | _ => .error .classUnclosed

/-- One step in reading a class. -/
def classStep (flags : Flags) (state : List ClassFrame × ClassItems) (c : Char) :
    PatternScan (Scan.Progress (List ClassFrame × ClassItems) ReadClass) := do
  let (stack, items) := state
  let next ← Scan.peek
  if flags.ignoreBlanks ∧ isBlank c then return .more state
  else if flags.ignoreBlanks ∧ c = '#' then
    let _ ← Scan.takeWhile (· != '\n')
    return .more state
  else if c = '[' then
    match ← Scan.attempt asciiClass with
    | some (set, negated) =>
        return .more (stack, items.add (← Scan.decided (foldAndNegate flags negated set)) 0)
    | none =>
        let (negated, inner) ← openClass flags
        return .more (.bracket items negated :: stack, inner)
  else if c = ']' then Scan.decided (closeBracket flags stack items)
  else if next = some c then
    match operationOf? c with
    | some operation =>
        let _ ← Scan.take
        let (left, stack) ← Scan.decided (finishOperation flags items stack)
        return .more (.operation operation left.set left.depth :: stack, {})
    | none => return .more (stack, items.add (← classItem flags c) 0)
  else return .more (stack, items.add (← classItem flags c) 0)

/-- Reads a bracketed class after its opening bracket. -/
def bracketedClass (flags : Flags) : PatternScan ReadClass := do
  let (negated, items) ← openClass flags
  Scan.loop (classStep flags) (fun _ => .error .classUnclosed)
    ([.bracket {} negated], items)

end TaskQuery.Pattern

/-
# Reading patterns

A pattern text is read character by character. Groups that are open are kept on a
stack, with the flags to restore when they close; an alternative is gathered as a
list of parts, last first. Each part remembers how deep brackets and operators nest
in it, because a pattern that nests too deep is refused.
-/

import TaskQuery.Pattern.Escape
import TaskQuery.Text.Alphanumeric

namespace TaskQuery.Pattern

/-- A part of a pattern that was read: what it means, how deep it nests, and
whether it may be repeated. -/
structure Part where
  expr : Expr
  depth : Nat := 0
  repeatable : Bool := true

/-- The alternatives of a group or of the whole pattern that were read so far, each
list last first. -/
structure Body where
  alternatives : List Part := []
  parts : List Part := []

/-- A group that is open, with its number if it remembers its text. -/
structure OpenGroup where
  outer : Body
  flags : Flags
  number : Option Nat

/-- What is known while a pattern is read. -/
structure ReaderState where
  groups : List OpenGroup := []
  body : Body := {}
  flags : Flags
  groupCount : Nat := 0
  names : List (List Char) := []

/-- How deep brackets and operators may nest. -/
def nestingLimit : Nat := 250

/-- The greatest depth of some parts. -/
def deepest (parts : List Part) : Nat :=
  parts.foldl (fun depth part => max depth part.depth) 0

/-- The parts of an alternative as one. -/
def sequencePart : List Part → Part
  | [] => { expr := .empty }
  | [part] => part
  | parts =>
      { expr := .sequence (parts.reverse.map Part.expr), depth := deepest parts + 1 }

/-- The alternatives of a body as one part. -/
def Body.part (body : Body) : Part :=
  match body.alternatives with
  | [] => sequencePart body.parts
  | _ =>
      let options := sequencePart body.parts :: body.alternatives
      { expr := .anyOf (options.reverse.map Part.expr), depth := deepest options + 1 }

namespace ReaderState

/-- Appends a part. -/
def push (state : ReaderState) (part : Part) : ReaderState :=
  { state with body := { state.body with parts := part :: state.body.parts } }

/-- Opens a group under the given flags. -/
def openGroup (state : ReaderState) (capturing : Bool) (inner : Flags) : ReaderState :=
  { state with
    groups :=
      ⟨state.body, state.flags, if capturing then some (state.groupCount + 1) else none⟩
        :: state.groups
    body := {}
    flags := inner
    groupCount := if capturing then state.groupCount + 1 else state.groupCount }

/-- Closes the innermost group. -/
def closeGroup (state : ReaderState) : Except Fault ReaderState :=
  match state.groups with
  | [] => .error .groupUnopened
  | group :: groups =>
      let inner := state.body.part
      let expr := group.number.elim inner.expr fun number => .group number inner.expr
      let outer := { state with groups := groups, body := group.outer, flags := group.flags }
      .ok (outer.push { expr := expr, depth := inner.depth + 1 })

/-- Begins the next alternative. -/
def nextAlternative (state : ReaderState) : ReaderState :=
  { state with
    body := { alternatives := sequencePart state.body.parts :: state.body.alternatives } }

/-- Takes away the part that a repetition applies to. -/
def popRepeatable (state : ReaderState) : Except Fault (Part × ReaderState) :=
  match state.body.parts with
  | part :: parts =>
      if part.repeatable then .ok (part, { state with body := { state.body with parts := parts } })
      else .error .nothingToRepeat
  | [] => .error .nothingToRepeat

end ReaderState

/-- A part several times; a question mark behind the repetition turns about which of
several fits it prefers. -/
def ReaderState.pushRepeated (state : ReaderState) (part : Part) (least : Nat)
    (most : Option Nat) (turned : Bool) : ReaderState :=
  state.push
    { expr := part.expr.times least most (turned != state.flags.preferShort)
      depth := part.depth + 1 }

/-- Repeats the last part. -/
def repeatLast (state : ReaderState) (least : Nat) (most : Option Nat) :
    PatternScan ReaderState := do
  let (part, state) ← Scan.decided state.popRepeatable
  return state.pushRepeated part least most (← Scan.accept ['?'])

/-- Reads the number of a counted repetition with blanks around it; none if there
are no digits. -/
def countNumber (flags : Flags) : PatternScan (Option Nat) := do
  let _ ← Scan.takeWhile Text.isBlank
  let digits ← gather flags Char.isDigit
  let _ ← Scan.takeWhile Text.isBlank
  let value := Text.natOfDigits digits
  if digits.isEmpty then return none
  else if value < UInt32.size then return some value
  else Scan.fail .countTooLarge

/-- A number that must be there. -/
def required (number : Option Nat) : PatternScan Nat :=
  match number with
  | some number => return number
  | none => Scan.fail .countMissing

/-- Reads a counted repetition after its opening brace. -/
def countedRepetition (state : ReaderState) : PatternScan ReaderState := do
  let flags := state.flags
  let (part, state) ← Scan.decided state.popRepeatable
  skipIgnored flags
  if (← Scan.peek).isNone then Scan.fail .countUnclosed
  else
    let first ← countNumber flags
    let (least, most) ←
      if ← Scan.accept [','] then do
        skipIgnored flags
        match ← Scan.peek with
        | none => Scan.fail .countUnclosed
        | some '\x7d' => pure (← required first, none)
        | some _ => do
            let least ← required first
            pure (least, some (← required (← countNumber flags)))
      else do
        if (← Scan.peek).isNone then Scan.fail .countUnclosed
        else
          let count ← required first
          pure (count, some count)
    if !(← Scan.accept ['\x7d']) then Scan.fail .countUnclosed
    else
      skipIgnored flags
      let turned ← Scan.accept ['?']
      if most.all (least ≤ ·) then return state.pushRepeated part least most turned
      else Scan.fail .countInvalid

/-- What has been read of the flags between `(?` and their end. -/
structure FlagReader where
  flags : Flags
  seen : List Char := []
  clearing : Bool := false
  dangling : Bool := false

/-- One step in reading flags, which end at a colon or a closing parenthesis. -/
def flagStep (reader : FlagReader) (c : Char) :
    PatternScan (Scan.Progress FlagReader (FlagReader × Char)) :=
  if c = ':' ∨ c = ')' then
    if reader.dangling then Scan.fail .flagDangling else return .done (reader, c)
  else if c = '-' then
    if reader.clearing then Scan.fail .flagRepeated
    else return .more { reader with clearing := true, dangling := true }
  else if !flagLetters.contains c then Scan.fail (.flagUnknown c)
  else if reader.seen.contains c then Scan.fail .flagRepeated
  else
    return .more
      { flags := reader.flags.set c !reader.clearing
        seen := c :: reader.seen
        clearing := reader.clearing
        dangling := false }

/-- Reads flags after `(?`: they hold for a group that opens here, or for the rest
of the group around them. -/
def flagGroup (state : ReaderState) : PatternScan ReaderState := do
  let (reader, last) ←
    Scan.loop flagStep (fun _ => .error .flagUnclosed) { flags := state.flags }
  if last = ':' then return state.openGroup false reader.flags
  else if reader.seen.isEmpty ∧ !reader.clearing then Scan.fail .nothingToRepeat
  else
    return ({ state with flags := reader.flags } : ReaderState).push
      { expr := .empty, repeatable := false }

/-- Whether a character may stand in the name of a group. -/
def isNameChar (isFirst : Bool) (c : Char) : Bool :=
  if isFirst then c == '_' || Text.isAlphabetic c
  else c == '_' || c == '.' || c == '[' || c == ']' || Text.isAlphanumeric c

/-- Reads the name of a group up to its closing angle. -/
def groupName : PatternScan (List Char) := do
  let name ← Scan.takeWhile (· != '>')
  if (← Scan.take).isNone then Scan.fail .groupNameUnclosed
  else
    match name with
    | [] => Scan.fail .groupNameInvalid
    | first :: rest =>
        if isNameChar true first ∧ rest.all (isNameChar false) then return name
        else Scan.fail .groupNameInvalid

/-- Reads what opens a group after its parenthesis. -/
def groupOpening (state : ReaderState) : PatternScan ReaderState := do
  skipIgnored state.flags
  let looksAround ←
    [['?', '='], ['?', '!'], ['?', '<', '='], ['?', '<', '!']].anyM Scan.accept
  if looksAround then Scan.fail .lookAround
  else if ← [['?', 'P', '<'], ['?', '<']].anyM Scan.accept then
    let name ← groupName
    if state.names.contains name then Scan.fail .groupNameRepeated
    else
      return ({ state with names := name :: state.names } : ReaderState).openGroup true state.flags
  else if ← Scan.accept ['?'] then
    if (← Scan.peek).isNone then Scan.fail .groupUnclosed
    else flagGroup state
  else return state.openGroup true state.flags

/-- The place in a text that a circumflex or a dollar sign asks for. -/
def lineLook (flags : Flags) (isStart : Bool) : Look :=
  if flags.multiLine then
    if isStart then .lineStart flags.carriageReturns else .lineEnd flags.carriageReturns
  else if isStart then .textStart
  else .textEnd

/-- The characters that a dot takes. -/
def dotSet (flags : Flags) : Except Fault CharSet :=
  if !flags.unicode then .error .notUtf8
  else if flags.dotTakesLineEnd then .ok .all
  else if flags.carriageReturns then .ok (CharSet.complement ⟨[(0xA, 0xA), (0xD, 0xD)]⟩)
  else .ok (CharSet.complement ⟨[(0xA, 0xA)]⟩)

/-- A literal character, with those that differ from it in case only where case
does not count. -/
def literalSet (flags : Flags) (c : Char) (asByte : Bool) : Except Fault CharSet :=
  if asByte ∧ !flags.unicode ∧ 0x80 ≤ c.toNat then .error .notUtf8
  else if !flags.ignoreCase then .ok (.singleton c)
  else if flags.unicode then .ok (CharSet.singleton c).foldCase
  else if c.toNat < 0x80 then .ok (CharSet.singleton c).foldAsciiCase
  else .ok (.singleton c)

/-- The expression of a primitive outside a class. -/
def primitiveExpr (flags : Flags) : Primitive → Except Fault Expr
  | .literal c asByte => (literalSet flags c asByte).map .ofSet
  | .dot => (dotSet flags).map .ofSet
  | .assertion look => .ok (.look look)
  | .set set => .ok (.ofSet set)

/-- The primitive that starts with a character outside a class. -/
def outerPrimitive (flags : Flags) (first : Char) : PatternScan Primitive :=
  if first = '\\' then escape flags
  else if first = '.' then return .dot
  else if first = '^' then return .assertion (lineLook flags true)
  else if first = '$' then return .assertion (lineLook flags false)
  else return .literal first false

/-- One step in reading a pattern. -/
def readStep (state : ReaderState) (c : Char) :
    PatternScan (Scan.Progress ReaderState Part) := do
  let flags := state.flags
  if flags.ignoreBlanks ∧ Text.isBlank c then return .more state
  else if flags.ignoreBlanks ∧ c = '#' then
    let _ ← Scan.takeWhile (· != '\n')
    return .more state
  else if c = '(' then return .more (← groupOpening state)
  else if c = ')' then return .more (← Scan.decided state.closeGroup)
  else if c = '|' then return .more state.nextAlternative
  else if c = '[' then
    let read ← bracketedClass flags
    return .more (state.push { expr := .ofSet read.set, depth := read.depth })
  else if c = '?' then return .more (← repeatLast state 0 (some 1))
  else if c = '*' then return .more (← repeatLast state 0 none)
  else if c = '+' then return .more (← repeatLast state 1 none)
  else if c = '\x7b' then return .more (← countedRepetition state)
  else
    let primitive ← outerPrimitive flags c
    return .more (state.push { expr := ← Scan.decided (primitiveExpr flags primitive) })

/-- The whole pattern, when its text is read to the end. -/
def readEnd (state : ReaderState) : Except Fault Part :=
  if state.groups.isEmpty then .ok state.body.part else .error .groupUnclosed

/-- The pattern that a text stands for under some flags. -/
def readExpr (flags : Flags) (text : List Char) : Except Fault Expr := do
  let part ← (Scan.loop readStep readEnd { flags := flags }).run text
  if part.depth ≤ nestingLimit then return part.expr else throw .nestedTooDeep

end TaskQuery.Pattern

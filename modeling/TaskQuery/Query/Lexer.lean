/-
# Reading tokens

A query text is cut into pieces, one after the other and without loss: blanks and
commas, characters that mean nothing, and tokens. `Piece.next` reads one piece and
`Piece.next_source` says that it takes away exactly the characters it read, which
is why the reading ends. Positions are counted afterwards, in bytes, by walking
over the pieces.

Reading never fails. A character that means nothing is left out of the tokens and
listed apart.
-/

import TaskQuery.Query.Token
import TaskQuery.Text.Alphanumeric
import TaskQuery.Text.Blank
import TaskQuery.Text.Bytes

namespace TaskQuery

open Text

/-- The characters of a word: ASCII letters and digits, and `_`, `.`, `-`. -/
def isWordChar (c : Char) : Bool :=
  c.isAlphanum || c == '_' || c == '.' || c == '-'

/-- The characters of a tag's name: letters and digits of any script, and `_`,
`/`, `-`. -/
def isTagChar (c : Char) : Bool :=
  isAlphanumeric c || c == '_' || c == '/' || c == '-'

/-- The characters of a word that starts with a digit. -/
def isNumberChar (c : Char) : Bool :=
  c.isDigit || c == '-'

/-- Whether a text has exactly the shape of a date, four digits, two and two. -/
def isDateShaped : List Char → Bool
  | [y₁, y₂, y₃, y₄, dash₁, m₁, m₂, dash₂, d₁, d₂] =>
      [y₁, y₂, y₃, y₄, m₁, m₂, d₁, d₂].all Char.isDigit && dash₁ == '-' && dash₂ == '-'
  | _ => false

/-- A string literal that was read: what it stands for, the characters that were
read after the opening quote, and those that were not. -/
structure Literal where
  contents : List Char
  source : List Char
  rest : List Char

/-- Reads the inside of a string literal up to its closing quote, or to the end
of the input. A run of backslashes in front of the quote character counts by
pairs, and an odd one makes the quote part of the contents; everywhere else a
backslash stands for itself. The number of backslashes read but not yet decided is
`held`. -/
def Literal.read (quote : Char) : Nat → List Char → Literal
  | held, [] => ⟨List.replicate held '\\', [], []⟩
  | held, c :: rest =>
      if c = '\\' then
        let tail := Literal.read quote (held + 1) rest
        ⟨tail.contents, c :: tail.source, tail.rest⟩
      else if c = quote then
        if held % 2 = 0 then ⟨List.replicate (held / 2) '\\', [c], rest⟩
        else
          let tail := Literal.read quote 0 rest
          ⟨List.replicate (held / 2) '\\' ++ c :: tail.contents, c :: tail.source, tail.rest⟩
      else
        let tail := Literal.read quote 0 rest
        ⟨List.replicate held '\\' ++ c :: tail.contents, c :: tail.source, tail.rest⟩

theorem Literal.read_source (quote : Char) (held : Nat) (cs : List Char) :
    (Literal.read quote held cs).source ++ (Literal.read quote held cs).rest = cs := by
  induction cs generalizing held with
  | nil => simp [Literal.read]
  | cons c rest ih =>
      simp only [Literal.read]
      split
      · simp [ih]
      · split
        · split <;> simp [ih]
        · simp [ih]

/-- One piece of a query text. -/
inductive Piece
  /-- A blank, or a comma between sort keys. -/
  | layout (c : Char)
  /-- A character that means nothing. -/
  | stray (c : Char)
  /-- A token, with the characters that it was read from. -/
  | token (kind : TokenKind) (text : List Char) (source : List Char)
  deriving DecidableEq, Repr

namespace Piece

/-- The characters that a piece was read from. -/
def source : Piece → List Char
  | layout c => [c]
  | stray c => [c]
  | token _ _ source => source

/-- The token whose text is what it was read from. -/
def verbatim (kind : TokenKind) (source : List Char) : Piece :=
  token kind source source

/-- Reads a word that starts with `first`, and a second word when the two
together are an operator. -/
def word (first : Char) (cs : List Char) : Piece × List Char :=
  let head := first :: cs.takeWhile isWordChar
  let afterHead := cs.dropWhile isWordChar
  let gap := afterHead.takeWhile isBlank
  let afterGap := afterHead.dropWhile isBlank
  let second := afterGap.takeWhile isWordChar
  match TokenKind.ofPair? head second with
  | some kind => (verbatim kind (head ++ gap ++ second), afterGap.dropWhile isWordChar)
  | none => (verbatim (TokenKind.ofWord head) head, afterHead)

/-- Reads a word that starts with the digit `first`. -/
def number (first : Char) (cs : List Char) : Piece × List Char :=
  let digits := first :: cs.takeWhile isNumberChar
  let kind := if isDateShaped digits then .dateLiteral else .identifier
  (verbatim kind digits, cs.dropWhile isNumberChar)

/-- Reads a tag; a `#` without a name means nothing. -/
def tag (cs : List Char) : Piece × List Char :=
  match cs.takeWhile isTagChar with
  | [] => (stray '#', cs)
  | name => (verbatim .tagLiteral ('#' :: name), cs.dropWhile isTagChar)

/-- Reads a string literal after its opening quote. -/
def literal (quote : Char) (cs : List Char) : Piece × List Char :=
  let read := Literal.read quote 0 cs
  (token .stringLiteral read.contents (quote :: read.source), read.rest)

/-- Reads the piece that starts with `first`. -/
def next (first : Char) (cs : List Char) : Piece × List Char :=
  if isBlank first then (layout first, cs)
  else if first = ',' then (layout first, cs)
  else if first = '(' then (verbatim .leftParen [first], cs)
  else if first = ')' then (verbatim .rightParen [first], cs)
  else if first = '#' then tag cs
  else if first = '"' ∨ first = '\'' then literal first cs
  else if first.isAlpha then word first cs
  else if first.isDigit then number first cs
  else (stray first, cs)

theorem word_source (first : Char) (cs : List Char) :
    (word first cs).1.source ++ (word first cs).2 = first :: cs := by
  simp only [word]
  split <;> simp [verbatim, source, List.append_assoc]

theorem number_source (first : Char) (cs : List Char) :
    (number first cs).1.source ++ (number first cs).2 = first :: cs := by
  simp [number, verbatim, source]

theorem tag_source (cs : List Char) :
    (tag cs).1.source ++ (tag cs).2 = '#' :: cs := by
  simp only [tag]
  split
  · simp [source]
  · simp [verbatim, source]

theorem literal_source (quote : Char) (cs : List Char) :
    (literal quote cs).1.source ++ (literal quote cs).2 = quote :: cs := by
  simp [literal, source, Literal.read_source]

/-- A piece takes away exactly the characters that it was read from. -/
theorem next_source (first : Char) (cs : List Char) :
    (next first cs).1.source ++ (next first cs).2 = first :: cs := by
  unfold next
  split
  · rfl
  split
  · rfl
  split
  · rfl
  split
  · rfl
  split
  · rename_i hash
    rw [hash, tag_source]
  split
  · exact literal_source first cs
  split
  · exact word_source first cs
  split
  · exact number_source first cs
  · rfl

theorem next_source_ne_nil (first : Char) (cs : List Char) :
    (next first cs).1.source ≠ [] := by
  simp only [next, tag, literal, word, number]
  repeat' split
  all_goals simp [source, verbatim]

theorem next_length (first : Char) (cs : List Char) :
    (next first cs).2.length < (first :: cs).length := by
  have whole := congrArg List.length (next_source first cs)
  have head := List.length_pos_iff.2 (next_source_ne_nil first cs)
  simp only [List.length_append] at whole
  omega

/-- The pieces of a text, from left to right. -/
def all : List Char → List Piece
  | [] => []
  | first :: cs => (next first cs).1 :: all (next first cs).2
termination_by cs => cs.length
decreasing_by exact next_length first cs

/-- The pieces of a text are the text: nothing is lost between them. -/
theorem all_source (cs : List Char) : (all cs).flatMap source = cs := by
  induction cs using all.induct with
  | case1 => simp [all]
  | case2 first cs ih => rw [all, List.flatMap_cons, ih, next_source]

end Piece

/-- A character that means nothing, and the byte offset at which it stands. -/
structure Stray where
  character : Char
  position : Nat
  deriving DecidableEq, Repr

/-- What reading a text gives: its tokens, with an end marker behind the last,
and the characters that were left out. -/
structure Lexed where
  tokens : List Token
  strays : List Stray
  deriving DecidableEq, Repr

/-- Counts the positions of pieces of which the first starts at `position`. -/
def Lexed.ofPieces (position : Nat) : List Piece → Lexed
  | [] => ⟨[⟨.endOfInput, "", position⟩], []⟩
  | piece :: pieces =>
      let tail := Lexed.ofPieces (position + byteLength piece.source) pieces
      match piece with
      | .layout _ => tail
      | .stray c => ⟨tail.tokens, ⟨c, position⟩ :: tail.strays⟩
      | .token kind text _ => ⟨⟨kind, String.ofList text, position⟩ :: tail.tokens, tail.strays⟩

/-- Reads the tokens of a query text. -/
def tokenize (input : String) : Lexed :=
  Lexed.ofPieces 0 (Piece.all input.toList)

end TaskQuery

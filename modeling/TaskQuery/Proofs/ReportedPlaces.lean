/-
# Places of reports

A problem of a query names the byte offset that it is about, and whoever shows the query marks
what stands there. The lexer counts these offsets over the pieces of the text, so a token stands
where the piece starts that it was read from. The rules only hand the positions of tokens on,
whether they took the token or looked at it, and where no token is left they name the place of
the end marker. What stands at a reported offset is therefore what the lexer read there.

Only a string literal does not have its text in the query, because escapes are taken out of it.
Its position is that of its opening quote.
-/

import TaskQuery.Proofs.Coverage
import TaskQuery.Proofs.Reports

namespace TaskQuery

open Text

/-! ## Boundaries -/

theorem utf8ByteSize_ofList (cs : List Char) :
    (String.ofList cs).utf8ByteSize = byteLength cs := by
  induction cs with
  | nil => rfl
  | cons c cs ih =>
      rw [← List.singleton_append, String.ofList_append, String.utf8ByteSize_append, ih]
      simp [byteLength]

theorem byteLength_toList (input : String) : byteLength input.toList = input.utf8ByteSize := by
  rw [← utf8ByteSize_ofList, String.ofList_toList]

/-- The bytes of whole characters end between two characters. -/
theorem isValid_byteLength {input : String} {before after : List Char}
    (parts : input.toList = before ++ after) :
    (⟨byteLength before⟩ : String.Pos.Raw).IsValid input := by
  rw [String.Pos.Raw.isValid_iff_exists_append]
  refine ⟨String.ofList before, String.ofList after, ?_, ?_⟩
  · rw [← String.ofList_append, ← parts, String.ofList_toList]
  · rw [String.Pos.Raw.ext_iff, String.byteIdx_rawEndPos, utf8ByteSize_ofList]

theorem CharAt.isValid {input : String} {c : Char} {position : Nat}
    (stands : CharAt input.toList c position) :
    (⟨position⟩ : String.Pos.Raw).IsValid input := by
  obtain ⟨before, after, parts, rfl⟩ := stands
  exact isValid_byteLength parts

/-! ## Where tokens are read -/

/-- Some characters stand at a byte offset of a text. -/
def TextAt (input part : List Char) (position : Nat) : Prop :=
  ∃ before after, input = before ++ (part ++ after) ∧ byteLength before = position

/-- A string literal with some contents is opened at a byte offset of a text. -/
def LiteralAt (input contents : List Char) (position : Nat) : Prop :=
  ∃ before quote after, input = before ++ quote :: after ∧ byteLength before = position ∧
    (quote = '"' ∨ quote = '\'') ∧ (Literal.read quote 0 after).contents = contents

namespace Piece

variable {first : Char} {cs text source : List Char} {kind : TokenKind}

/-- A word is neither a parenthesis nor a string literal. -/
theorem word_ne_of_sign (isSign : kind = .leftParen ∨ kind = .stringLiteral) :
    (word first cs).1 ≠ .token kind text source := by
  intro read
  rw [word] at read
  split at read
  · rename_i paired
    obtain ⟨rfl, -, -⟩ := Piece.token.inj read
    rw [TokenKind.ofPair?.eq_def] at paired
    split at paired <;> cases paired <;> simp at isSign
  · obtain ⟨isWord, -, -⟩ := Piece.token.inj read
    rw [TokenKind.ofWord] at isWord
    split at isWord <;> subst isWord <;> simp at isSign

theorem number_ne_of_sign (isSign : kind = .leftParen ∨ kind = .stringLiteral) :
    (number first cs).1 ≠ .token kind text source := by
  intro read
  rw [number] at read
  obtain ⟨isNumber, -, -⟩ := Piece.token.inj read
  split at isNumber <;> subst isNumber <;> simp at isSign

theorem tag_ne_of_sign (isSign : kind = .leftParen ∨ kind = .stringLiteral) :
    (tag cs).1 ≠ .token kind text source := by
  intro read
  rw [tag] at read
  split at read <;> cases read
  simp at isSign

/-- A parenthesis and a string literal are told by the character that they start with. -/
theorem sign_of_next (isSign : kind = .leftParen ∨ kind = .stringLiteral)
    (read : (next first cs).1 = .token kind text source) :
    kind = .leftParen ∧ first = '(' ∨
      kind = .stringLiteral ∧ (first = '"' ∨ first = '\'') ∧
        (Literal.read first 0 cs).contents = text := by
  rw [next] at read
  split at read
  · cases read
  split at read
  · cases read
  split at read
  · obtain ⟨rfl, -, -⟩ := Piece.token.inj read
    exact Or.inl ⟨rfl, ‹_›⟩
  split at read
  · cases read
    simp at isSign
  split at read
  · exact absurd read (tag_ne_of_sign isSign)
  split at read
  · obtain ⟨rfl, contents, -⟩ := Piece.token.inj read
    exact Or.inr ⟨rfl, ‹_›, contents⟩
  split at read
  · exact absurd read (word_ne_of_sign isSign)
  split at read
  · exact absurd read (number_ne_of_sign isSign)
  · cases read

/-- The text of a token that is no string literal stands where it was read. -/
theorem append_eq_of_next (plain : kind ≠ .stringLiteral)
    (read : (next first cs).1 = .token kind text source) :
    text ++ (next first cs).2 = first :: cs := by
  have slice := isRead_next first cs
  have whole := next_source first cs
  rw [read] at slice whole
  obtain ⟨-, -, spans⟩ := slice
  rw [if_neg plain] at spans
  rw [← spans]
  exact whole

end Piece

/-- What stands where a token is said to stand: its text, or the literal that it is read from. -/
theorem text_or_literal_at_of_mem_tokenize {input : String} {token : Token}
    (member : token ∈ (tokenize input).tokens) (noEnd : token.kind ≠ .endOfInput) :
    if token.kind = .stringLiteral then
      LiteralAt input.toList token.text.toList token.position
    else TextAt input.toList token.text.toList token.position := by
  obtain ⟨front, first, after, source, parts, offset, read⟩ :=
    exists_next_of_mem_tokenize member noEnd
  split
  · rename_i isLiteral
    rcases Piece.sign_of_next (Or.inr isLiteral) read with ⟨isOpening, -⟩ | ⟨-, isQuote, contents⟩
    · rw [isLiteral] at isOpening
      cases isOpening
    · exact ⟨front, first, after, parts, offset, isQuote, contents⟩
  · rename_i plain
    refine ⟨front, (Piece.next first after).2, ?_, offset⟩
    rw [Piece.append_eq_of_next plain read]
    exact parts

theorem charAt_of_leftParen {input : String} {token : Token}
    (member : token ∈ (tokenize input).tokens) (isOpening : token.kind = .leftParen) :
    CharAt input.toList '(' token.position := by
  obtain ⟨front, first, after, source, parts, offset, read⟩ :=
    exists_next_of_mem_tokenize member (by simp [isOpening])
  rcases Piece.sign_of_next (Or.inl isOpening) read with ⟨-, rfl⟩ | ⟨isLiteral, -⟩
  · exact ⟨front, after, parts, offset⟩
  · rw [isOpening] at isLiteral
    cases isLiteral

/-- The end marker of a text stands behind its bytes. -/
theorem position_of_endOfInput {input : String} {token : Token}
    (member : token ∈ (tokenize input).tokens) (isEnd : token.kind = .endOfInput) :
    token.position = input.utf8ByteSize := by
  obtain ⟨front, tokens, noEnds⟩ := (tokenize_covers input).tokens_end
  rw [tokens] at member
  rcases List.mem_append.mp member with inFront | isLast
  · exact absurd isEnd (noEnds token inFront)
  · obtain rfl := List.mem_singleton.mp isLast
    exact byteLength_toList input

theorem endOfTokens_tokenize (input : String) :
    endOfTokens (tokenize input).tokens = input.utf8ByteSize := by
  obtain ⟨front, tokens, -⟩ := (tokenize_covers input).tokens_end
  rw [endOfTokens, tokens, List.getLast?_concat]
  exact byteLength_toList input

/-! ## Places of problems -/

namespace Diagnostic

/-- The byte offset that a problem names. -/
def position? : Diagnostic → Option Nat
  | unexpectedCharacter _ position | unexpectedToken _ position => some position
  | unexpectedEndOfInput position | unclosedParenthesis position => some position
  | missingOperator _ | missingValue .. | duplicateClause _ => none
  | unknownField .. | invalidPattern .. => none

/-- What a problem is about stands in a text at the offset that the problem names. -/
def PointsInto (input : String) : Diagnostic → Prop
  | unexpectedCharacter c position => CharAt input.toList c position
  | unexpectedToken text position =>
      ∃ token ∈ (tokenize input).tokens, token.kind ≠ .endOfInput ∧
        token.text = text ∧ token.position = position ∧
        if token.kind = .stringLiteral then LiteralAt input.toList text.toList position
        else TextAt input.toList text.toList position
  | unexpectedEndOfInput position => position = input.utf8ByteSize
  | unclosedParenthesis position => CharAt input.toList '(' position
  | missingOperator _ | missingValue .. | duplicateClause _ => True
  | unknownField .. | invalidPattern .. => True

/-- What stands in a text starts between two characters of it. -/
theorem PointsInto.isValid {input : String} {diagnostic : Diagnostic} {position : Nat}
    (points : diagnostic.PointsInto input) (names : diagnostic.position? = some position) :
    (⟨position⟩ : String.Pos.Raw).IsValid input := by
  cases diagnostic with
  | unexpectedCharacter c offset =>
      cases names
      exact CharAt.isValid points
  | unexpectedToken text offset =>
      cases names
      obtain ⟨token, -, -, -, -, stands⟩ := points
      split at stands
      · obtain ⟨before, quote, after, parts, starts, -⟩ := stands
        exact CharAt.isValid ⟨before, after, parts, starts⟩
      · obtain ⟨before, after, parts, rfl⟩ := stands
        exact isValid_byteLength parts
  | unexpectedEndOfInput offset =>
      cases names
      rw [points, ← byteLength_toList]
      exact isValid_byteLength (List.append_nil _).symm
  | unclosedParenthesis offset =>
      cases names
      exact CharAt.isValid points
  | missingOperator | missingValue | duplicateClause | unknownField | invalidPattern =>
      cases names

/-- What reading the tokens of a text reports is about this text. -/
theorem IsReport.pointsInto {vocabulary : Vocabulary} {input : String} {diagnostic : Diagnostic}
    (report : diagnostic.IsReport vocabulary (endOfTokens (tokenize input).tokens)
      (tokenize input).tokens) : diagnostic.PointsInto input := by
  cases report with
  | @unexpectedToken token member noEnd =>
      exact ⟨token, member, noEnd, rfl, rfl, text_or_literal_at_of_mem_tokenize member noEnd⟩
  | endMarker member isEnd => exact position_of_endOfInput member isEnd
  | textEnd => exact endOfTokens_tokenize input
  | unclosedParenthesis member isOpening => exact charAt_of_leftParen member isOpening
  | missingOperator | missingValue | duplicateClause | unknownField => exact trivial

theorem exists_invalidPattern_of_mem {query : Query} {diagnostic : Diagnostic}
    (member : diagnostic ∈ query.patternDiagnostics) :
    ∃ pattern fault, diagnostic = invalidPattern pattern fault := by
  rw [Query.patternDiagnostics] at member
  obtain ⟨pattern, -, found⟩ := List.mem_filterMap.mp member
  split at found
  · cases found
  · rename_i fault _
    exact ⟨pattern, fault, (Option.some.inj found).symm⟩

end Diagnostic

/-- Every problem of a query points at what it is about, and every offset that a problem names
is a boundary between characters. Stray characters come first, from left to right. -/
theorem Query.parse_diagnostics_point (vocabulary : Vocabulary) (input : String) :
    (∀ diagnostic ∈ (Query.parse vocabulary input).diagnostics, diagnostic.PointsInto input ∧
      ∀ position, diagnostic.position? = some position →
        (⟨position⟩ : String.Pos.Raw).IsValid input) ∧
    ∃ (strays : List Stray) (others : List Diagnostic),
      (Query.parse vocabulary input).diagnostics =
        strays.map (fun stray => .unexpectedCharacter stray.character stray.position) ++ others ∧
      strays.Pairwise (fun first second => first.position < second.position) ∧
      ∀ c position, .unexpectedCharacter c position ∉ others := by
  have covers := tokenize_covers input
  have reports := Query.parseTokens_reports vocabulary (tokenize input).tokens
  constructor
  · intro diagnostic member
    have points : diagnostic.PointsInto input := by
      rw [Query.parse, List.append_assoc] at member
      rcases List.mem_append.mp member with ofStray | member
      · obtain ⟨stray, isStray, rfl⟩ := List.mem_map.mp ofStray
        exact (covers.strays_stand stray isStray).1
      rcases List.mem_append.mp member with isReport | ofPattern
      · exact (reports diagnostic isReport).pointsInto
      · obtain ⟨pattern, fault, rfl⟩ := Diagnostic.exists_invalidPattern_of_mem ofPattern
        exact trivial
    exact ⟨points, fun position => points.isValid⟩
  · refine ⟨(tokenize input).strays, _, List.append_assoc _ _ _, covers.strays_increase, ?_⟩
    intro c position member
    rcases List.mem_append.mp member with isReport | ofPattern
    · cases reports _ isReport
    · obtain ⟨pattern, fault, same⟩ := Diagnostic.exists_invalidPattern_of_mem ofPattern
      cases same

/-- A character of two bytes in front of a parenthesis that nothing closes. -/
example : (Query.parse .default "\u00e9 (").diagnostics =
    [.unexpectedCharacter '\u00e9' 0, .unexpectedEndOfInput 4, .unclosedParenthesis 3] := by
  decide +kernel

end TaskQuery

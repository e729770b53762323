/-
# Quoted values in any context

A value between quotes is read back exactly, whatever stands around it: the literal has the
value as its text and ends where the quoted value ends. The text behind it may be anything.
The text in front of it may be anything that ends with complete tokens, and the only token that
may not be complete at the end of a text is a string literal without its closing quote. Every
other token ends in front of a quote.
-/

import TaskQuery.Proofs.LiteralEnds

namespace TaskQuery

open Text

/-- A quote goes on with no run of characters. -/
theorem breaksRuns_quote (cs : List Char) : BreaksRuns ('"' :: cs) where
  word := by
    rintro _ ⟨⟩
    decide
  tag := by
    rintro _ ⟨⟩
    decide

namespace Piece

/-- A piece that is no open literal is the same in front of a quote. A word may look further
than its own end, but finds no second word there. -/
theorem next_append_quote {first : Char} {cs : List Char} (closed : ¬ (next first cs).1.IsOpen)
    (after : List Char) :
    next first (cs ++ '"' :: after) =
      ((next first cs).1, (next first cs).2 ++ '"' :: after) := by
  have breaks := breaksRuns_quote after
  refine next_append breaks closed fun _ => ?_
  by_cases last : (cs.dropWhile isWordChar).dropWhile isBlank = []
  · refine word_append_of_alone breaks first last ?_
    rw [nextWord_sign (by decide) (by decide)]
    exact ofPair?_eq_none_of_second (by decide) _
  · exact word_append_of_next breaks first last

/-- Behind complete tokens a quoted value is one piece, and the text behind it is read as it is
read alone. -/
theorem all_append_quoteValue {before : List Char} (closed : ∀ piece ∈ all before, ¬ piece.IsOpen)
    (value after : List Char) :
    all (before ++ (quoteValue value ++ after)) =
      all before ++ token .stringLiteral value (quoteValue value) :: all after := by
  have quoted : all (quoteValue value ++ after) =
      token .stringLiteral value (quoteValue value) :: all after := by
    have spelled : quoteValue value ++ after =
        '"' :: (quoteContents 0 value ++ ['"'] ++ after) := rfl
    rw [spelled, all, next_quoteValue]
  rw [← quoted]
  exact all_append_of_next (fun closed => next_append_quote closed _) closed

end Piece

/-- A quoted value is read back in any context. It is one literal with the value as its text,
and reading goes on right behind it, whatever comes there. Behind complete tokens of any text
the literal stands where they end, the tokens and strays in front are those of that text alone,
and what comes behind is read as it is alone, with its positions counted from the end of the
quoted value. This is how every value is written that is not written bare. -/
theorem tokenize_append_quoteValue_append (value : String) :
    let quoted := String.ofList (quoteValue value.toList)
    (isBareValue value.toList = false → valueText value = quoted) ∧
    (∀ after, Piece.next '"' (quoted.toList.tail ++ after) =
      (.token .stringLiteral value.toList quoted.toList, after)) ∧
    ∀ before after : String, LiteralsClosed before →
      let behind := Lexed.ofPieces (byteLength (before ++ quoted).toList) (Piece.all after.toList)
      tokenize (before ++ quoted ++ after) =
        ⟨(tokenize before).tokens.dropLast ++
            ⟨.stringLiteral, value, byteLength before.toList⟩ :: behind.tokens,
          (tokenize before).strays ++ behind.strays⟩ := by
  intro quoted
  have characters : quoted.toList = quoteValue value.toList := String.toList_ofList
  refine ⟨fun notBare => ?_, fun after => ?_, fun before after closed => ?_⟩
  · rw [valueText, if_neg (by simp [notBare])]
  · rw [characters]
    exact Piece.next_quoteValue value.toList after
  · intro behind
    have pieces := Piece.all_append_quoteValue ((literalsClosed_iff before).mp closed)
      value.toList after.toList
    rw [tokenize, String.toList_append, String.toList_append, characters, List.append_assoc,
      pieces, Lexed.ofPieces_append, Piece.all_source, Nat.zero_add]
    simp only [behind, Lexed.ofPieces, Piece.source, String.toList_append, byteLength_append,
      characters, String.ofList_toList]
    rfl

/-- A value of a backslash and a quote, between a literal that holds such a quote too and a text
that starts with both. -/
theorem tokenize_append_quoteValue_append_backslash :
    let before := "id is 'b\"'"
    let quoted := String.ofList (quoteValue "\\\"".toList)
    LiteralsClosed before ∧
      (tokenize (before ++ quoted ++ "\\\"")).tokens.map Token.lexeme =
        [⟨.identifier, "id"⟩, ⟨.operator .is, "is"⟩, ⟨.stringLiteral, "b\""⟩,
          ⟨.stringLiteral, "\\\""⟩, ⟨.stringLiteral, ""⟩, ⟨.endOfInput, ""⟩] := by
  intro before quoted
  have isClosed : ClosedLiteral ['\'', 'b', '"', '\''] := by
    refine ⟨'\'', ['b', '"'], Or.inr rfl, fun front back same => ?_, rfl, rfl⟩
    have member : '\'' ∈ ['b', '"'] := same ▸ List.mem_append_right front List.mem_cons_self
    exact absurd member (by decide)
  have pieces : ∀ piece ∈ Piece.all before.toList, piece.IsOpen →
      piece = .token .stringLiteral ['b', '"'] ['\'', 'b', '"', '\''] := by
    have read : Piece.all before.toList =
        [.verbatim .identifier ['i', 'd'], .layout ' ', .verbatim (.operator .is) ['i', 's'],
          .layout ' ', .token .stringLiteral ['b', '"'] ['\'', 'b', '"', '\'']] := by
      decide +kernel
    rw [read]
    simp [Piece.verbatim, Piece.IsOpen]
  have closed : LiteralsClosed before := by
    refine (literalsClosed_iff before).mpr fun piece member opened => ?_
    rw [pieces piece member opened] at opened
    exact isClosed.not_openLiteral opened
  refine ⟨closed, ?_⟩
  rw [(tokenize_append_quoteValue_append "\\\"").2.2 before "\\\"" closed]
  decide +kernel

end TaskQuery

/-
# Spacing

Outside its string literals, a query may be spaced at will. Where there is a gap of blanks,
any other gap can stand: the tokens stay of the same kinds with the same texts, and the same
characters are left out. Only an operator of two words shows its gap, since its text is what
stands in the query, and no query takes the text of an operator in.

The two gaps are compared where the text in front of them has been read up to the gap. There
the lexer either comes to the end of a piece, and then both gaps are layout, or it has a word
that looks across the gap for its second half. A literal that is still open would take the
gap in, and is excluded.
-/

import Mathlib.Data.List.TakeWhile
import TaskQuery.Proofs.AlikeTokens
import TaskQuery.Proofs.LiteralEnds

namespace TaskQuery

open Text

/-! ## Gaps -/

/-- Blanks between two parts of a text, at least one. -/
structure IsGap (gap : List Char) : Prop where
  nonempty : gap ≠ []
  blank : ∀ c ∈ gap, isBlank c = true

variable {gap other : List Char}

theorem IsGap.breaksRuns (isGap : IsGap gap) (back : List Char) : BreaksRuns (gap ++ back) := by
  refine .of_blank fun c isHead => ?_
  rw [List.head?_append_of_ne_nil gap isGap.nonempty] at isHead
  exact isGap.blank c (List.mem_of_mem_head? isHead)

/-- Blanks on both sides make a gap wider. -/
theorem IsGap.widen {before after : List Char} (isGap : IsGap gap)
    (blankBefore : ∀ c ∈ before, isBlank c = true) (blankAfter : ∀ c ∈ after, isBlank c = true) :
    IsGap (before ++ gap ++ after) where
  nonempty := by simp [isGap.nonempty]
  blank := by
    intro c member
    rw [List.append_assoc] at member
    rcases List.mem_append.mp member with early | member
    · exact blankBefore c early
    · rcases List.mem_append.mp member with inside | late
      · exact isGap.blank c inside
      · exact blankAfter c late

/-! ## Alike up to spacing -/

/-- The texts are two words that make one operator, each time with a gap between them. -/
inductive SpelledPair (kind : TokenKind) : List Char → List Char → Prop
  | intro {first second gap other : List Char}
      (paired : TokenKind.ofPair? first second = some kind) (isGap : IsGap gap)
      (isOther : IsGap other) :
      SpelledPair kind (first ++ gap ++ second) (first ++ other ++ second)

/-- The tokens are of one kind and have the same text, except for the gap inside an operator of
two words. -/
structure Token.SpacedAlike (token other : Token) : Prop where
  kinds : token.kind = other.kind
  texts : token.text = other.text ∨ SpelledPair token.kind token.text.toList other.text.toList

/-- Token by token the readings are alike, and the same characters were left out. -/
structure Lexed.SpacedAlike (lexed other : Lexed) : Prop where
  tokens : List.Forall₂ Token.SpacedAlike lexed.tokens other.tokens
  strays : lexed.strays.map Stray.character = other.strays.map Stray.character

/-- The pieces are the same, or one operator of two words. -/
inductive Piece.SpacedAlike : Piece → Piece → Prop
  | same (piece : Piece) : SpacedAlike piece piece
  | pair {kind : TokenKind} {source otherSource : List Char}
      (spelled : SpelledPair kind source otherSource) :
      SpacedAlike (verbatim kind source) (verbatim kind otherSource)

/-- The pieces of two texts are alike one by one, and layout does not count. -/
inductive Piece.AllSpacedAlike : List Piece → List Piece → Prop
  | nil : AllSpacedAlike [] []
  | layoutLeft (c : Char) {pieces others : List Piece} (tails : AllSpacedAlike pieces others) :
      AllSpacedAlike (layout c :: pieces) others
  | layoutRight (c : Char) {pieces others : List Piece} (tails : AllSpacedAlike pieces others) :
      AllSpacedAlike pieces (layout c :: others)
  | cons {piece otherPiece : Piece} {pieces others : List Piece}
      (heads : SpacedAlike piece otherPiece) (tails : AllSpacedAlike pieces others) :
      AllSpacedAlike (piece :: pieces) (otherPiece :: others)

theorem Piece.AllSpacedAlike.refl (pieces : List Piece) : AllSpacedAlike pieces pieces := by
  induction pieces with
  | nil => exact .nil
  | cons piece pieces ih => exact .cons (.same piece) ih

/-- Where the pieces start does not count either. -/
theorem Lexed.SpacedAlike.ofPieces {pieces others : List Piece}
    (alike : Piece.AllSpacedAlike pieces others) (position otherPosition : Nat) :
    (Lexed.ofPieces position pieces).SpacedAlike (Lexed.ofPieces otherPosition others) := by
  induction alike generalizing position otherPosition with
  | nil => exact ⟨.cons ⟨rfl, Or.inl rfl⟩ .nil, rfl⟩
  | layoutLeft c _ ih => exact ih (position + byteLength (Piece.layout c).source) otherPosition
  | layoutRight c _ ih => exact ih position (otherPosition + byteLength (Piece.layout c).source)
  | @cons piece otherPiece pieces others heads _ ih =>
      have tails := ih (position + byteLength piece.source)
        (otherPosition + byteLength otherPiece.source)
      cases heads with
      | same =>
          cases piece with
          | layout c => exact tails
          | stray c => exact ⟨tails.tokens, congrArg (c :: ·) tails.strays⟩
          | token kind text source => exact ⟨.cons ⟨rfl, Or.inl rfl⟩ tails.tokens, tails.strays⟩
      | pair spelled =>
          refine ⟨.cons ⟨rfl, Or.inr ?_⟩ tails.tokens, tails.strays⟩
          rwa [String.toList_ofList, String.toList_ofList]

/-- An operator of two words is no value. -/
theorem SpelledPair.isValue_eq_false {kind : TokenKind} {source otherSource : List Char}
    (spelled : SpelledPair kind source otherSource) : kind.isValue = false := by
  obtain ⟨paired, -, -⟩ := spelled
  rw [TokenKind.ofPair?.eq_def] at paired
  split at paired
  case h_5 => cases paired
  all_goals
    obtain rfl := Option.some.inj paired
    rfl

/-- To the rules of the language there is no difference. -/
theorem Token.SpacedAlike.alike {token other : Token} (spaced : token.SpacedAlike other) :
    token.Alike Eq other where
  kinds := spaced.kinds
  texts := by
    intro isValue
    refine spaced.texts.resolve_right fun spelled => ?_
    rw [spelled.isValue_eq_false] at isValue
    cases isValue

/-! ## Reading across a gap -/

theorem nextWord_gap_append (isGap : IsGap gap) (back : List Char) :
    nextWord (gap ++ back) = nextWord back := by
  rw [nextWord, List.dropWhile_append_of_pos isGap.blank, nextWord]

namespace Piece

/-- A piece of a text in front of one gap and in front of another, where the text alone gives
`alone`: either it ends before the gaps, or it is an operator that reaches across them. -/
inductive GapStep (gap other back : List Char) (alone : Piece × List Char) :
    Piece × List Char → Piece × List Char → Prop
  | before : GapStep gap other back alone (alone.1, alone.2 ++ (gap ++ back))
      (alone.1, alone.2 ++ (other ++ back))
  | across {kind : TokenKind} {source otherSource : List Char}
      (spelled : SpelledPair kind source otherSource) (rest : List Char) :
      GapStep gap other back alone (verbatim kind source, rest) (verbatim kind otherSource, rest)

/-- A last word that makes an operator together with the next one reaches across the gap. -/
theorem word_append_of_pair (isGap : IsGap gap) (first : Char) {cs back : List Char}
    {kind : TokenKind} (last : (cs.dropWhile isWordChar).dropWhile isBlank = [])
    (paired :
      TokenKind.ofPair? (first :: cs.takeWhile isWordChar) (nextWord back) = some kind) :
    word first (cs ++ (gap ++ back)) =
      (verbatim kind (first :: cs.takeWhile isWordChar ++
        (cs.dropWhile isWordChar ++ gap ++ back.takeWhile isBlank) ++ nextWord back),
        (back.dropWhile isBlank).dropWhile isWordChar) := by
  have stops := (isGap.breaksRuns back).word
  have blankBefore := List.dropWhile_eq_nil_iff.mp last
  rw [word, takeWhile_append_of_head stops, dropWhile_append_of_head stops,
    List.takeWhile_append_of_pos blankBefore, List.takeWhile_append_of_pos isGap.blank,
    List.dropWhile_append_of_pos blankBefore, List.dropWhile_append_of_pos isGap.blank]
  rw [nextWord] at paired ⊢
  simp only [paired, List.append_assoc]

variable (isGap : IsGap gap) (isOther : IsGap other)
include isGap isOther

theorem word_gapStep (first : Char) (cs back : List Char) :
    GapStep gap other back (word first cs) (word first (cs ++ (gap ++ back)))
      (word first (cs ++ (other ++ back))) := by
  by_cases last : (cs.dropWhile isWordChar).dropWhile isBlank = []
  · cases paired : TokenKind.ofPair? (first :: cs.takeWhile isWordChar) (nextWord back) with
    | none =>
        have alone := paired
        rw [← nextWord_gap_append isGap] at alone
        rw [← nextWord_gap_append isOther] at paired
        rw [word_append_of_alone (isGap.breaksRuns back) first last alone,
          word_append_of_alone (isOther.breaksRuns back) first last paired]
        exact .before
    | some kind =>
        have blankBefore := List.dropWhile_eq_nil_iff.mp last
        have blankAfter : ∀ c ∈ back.takeWhile isBlank, isBlank c = true :=
          fun c member => List.mem_takeWhile_imp member
        rw [word_append_of_pair isGap first last paired,
          word_append_of_pair isOther first last paired]
        exact .across ⟨paired, isGap.widen blankBefore blankAfter,
          isOther.widen blankBefore blankAfter⟩ _
  · rw [word_append_of_next (isGap.breaksRuns back) first last,
      word_append_of_next (isOther.breaksRuns back) first last]
    exact .before

theorem next_gapStep {first : Char} {cs : List Char} (closed : ¬ (next first cs).1.IsOpen)
    (back : List Char) :
    GapStep gap other back (next first cs) (next first (cs ++ (gap ++ back)))
      (next first (cs ++ (other ++ back))) := by
  by_cases isAlpha : first.isAlpha = true
  · rw [next_of_isAlpha isAlpha, next_of_isAlpha isAlpha, next_of_isAlpha isAlpha]
    exact word_gapStep isGap isOther first cs back
  · rw [next_append (isGap.breaksRuns back) closed (absurd · isAlpha),
      next_append (isOther.breaksRuns back) closed (absurd · isAlpha)]
    exact .before

/-- A gap is layout. -/
theorem all_gap_alike (back : List Char) :
    AllSpacedAlike (all (gap ++ back)) (all (other ++ back)) := by
  have layout {c : Char} (blank : isBlank c = true) (cs : List Char) :
      all (c :: cs) = .layout c :: all cs := by
    rw [all, next, if_pos blank]
  have blankLeft := isGap.blank
  have blankRight := isOther.blank
  clear isGap isOther
  induction gap with
  | nil =>
      induction other with
      | nil => exact .refl (all back)
      | cons c other ih =>
          obtain ⟨blank, blankRight⟩ := List.forall_mem_cons.mp blankRight
          rw [List.cons_append, layout blank]
          exact .layoutRight c (ih blankRight)
  | cons c gap ih =>
      obtain ⟨blank, blankLeft⟩ := List.forall_mem_cons.mp blankLeft
      rw [List.cons_append, layout blank]
      exact .layoutLeft c (ih blankLeft)

/-- Behind a text without an open literal any gap is as good as another. -/
theorem all_append_gap_alike {cs : List Char} (closed : ∀ piece ∈ all cs, ¬ piece.IsOpen)
    (back : List Char) :
    AllSpacedAlike (all (cs ++ (gap ++ back))) (all (cs ++ (other ++ back))) := by
  induction cs using all.induct with
  | case1 => exact all_gap_alike isGap isOther back
  | case2 first cs ih =>
      rw [all] at closed
      obtain ⟨closedFirst, closedOthers⟩ := List.forall_mem_cons.mp closed
      have step := next_gapStep isGap isOther closedFirst back
      rw [List.cons_append, List.cons_append, all, all]
      generalize next first (cs ++ (gap ++ back)) = read at step ⊢
      generalize next first (cs ++ (other ++ back)) = otherRead at step ⊢
      cases step with
      | before => exact .cons (.same _) (ih closedOthers)
      | across spelled rest => exact .cons (.pair spelled) (.refl (all rest))

end Piece

/-! ## Texts -/

/-- Behind a text whose literals are closed, one gap reads like another: the tokens differ at
most in the gap inside an operator, the characters left out are the same, and so is the
query. -/
theorem spacedAlike_and_query_eq_of_gaps {front gap other back : String}
    (closed : LiteralsClosed front) (isGap : IsGap gap.toList) (isOther : IsGap other.toList) :
    (tokenize (front ++ gap ++ back)).SpacedAlike (tokenize (front ++ other ++ back)) ∧
      ∀ vocabulary, (Query.parse vocabulary (front ++ gap ++ back)).query =
        (Query.parse vocabulary (front ++ other ++ back)).query := by
  have pieces := Piece.all_append_gap_alike isGap isOther ((literalsClosed_iff front).mp closed)
    back.toList
  have spaced : (tokenize (front ++ gap ++ back)).SpacedAlike
      (tokenize (front ++ other ++ back)) := by
    rw [tokenize, tokenize]
    simp only [String.toList_append, List.append_assoc]
    exact Lexed.SpacedAlike.ofPieces pieces 0 0
  refine ⟨spaced, fun vocabulary => ?_⟩
  have readsAlike : ReadsAlike Eq vocabulary vocabulary :=
    ⟨fun _ => rfl, fun same => congrArg Text.lowercase same, fun _ => rfl⟩
  have tokens := spaced.tokens.imp fun _ _ token => token.alike
  exact (Query.parseTokens_alike readsAlike tokens).eq

/-- The blanks inside a closed literal are no gap, and those inside an operator are one. -/
theorem spacedAlike_and_query_eq_of_wide_operator :
    LiteralsClosed "tags is \"a  b\" or id not" ∧ IsGap " ".toList ∧
      IsGap "\u2003\n".toList ∧
      (tokenize ("tags is \"a  b\" or id not" ++ " " ++ " includes x")).SpacedAlike
        (tokenize ("tags is \"a  b\" or id not" ++ "\u2003\n" ++ " includes x")) ∧
      ∀ vocabulary,
        (Query.parse vocabulary ("tags is \"a  b\" or id not" ++ " " ++ " includes x")).query =
          (Query.parse vocabulary
            ("tags is \"a  b\" or id not" ++ "\u2003\n" ++ " includes x")).query := by
  have closedLiteral : ClosedLiteral ['"', 'a', ' ', ' ', 'b', '"'] := by
    refine ⟨'"', ['a', ' ', ' ', 'b'], Or.inl rfl, fun before after same => ?_, rfl, rfl⟩
    have member : '"' ∈ ['a', ' ', ' ', 'b'] := by
      rw [same]
      exact List.mem_append_right before List.mem_cons_self
    exact absurd member (by decide)
  have pieces : Piece.all "tags is \"a  b\" or id not".toList =
      [.verbatim .identifier ['t', 'a', 'g', 's'], .layout ' ',
        .verbatim (.operator .is) ['i', 's'], .layout ' ',
        .token .stringLiteral ['a', ' ', ' ', 'b'] ['"', 'a', ' ', ' ', 'b', '"'], .layout ' ',
        .verbatim (.connective .or) ['o', 'r'], .layout ' ',
        .verbatim .identifier ['i', 'd'], .layout ' ',
        .verbatim (.connective .not) ['n', 'o', 't']] := by
    decide +kernel
  have closed : LiteralsClosed "tags is \"a  b\" or id not" := by
    rw [literalsClosed_iff, pieces]
    simpa [Piece.IsOpen, Piece.verbatim] using closedLiteral.not_openLiteral
  have isGap : IsGap " ".toList := ⟨by decide, List.all_eq_true.mp (by decide)⟩
  have isOther : IsGap "\u2003\n".toList := ⟨by decide, List.all_eq_true.mp (by decide)⟩
  exact ⟨closed, isGap, isOther, spacedAlike_and_query_eq_of_gaps closed isGap isOther⟩

end TaskQuery

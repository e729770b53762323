/-
# Where string literals end

A string literal ends with its own quote, and where no such quote comes it takes the rest of
the text. The first kind is *closed*: whatever is written behind it is not its concern. The
second kind is *open*, and what is written behind it without a quote becomes a part of it.

The lexer looks ahead by at most one word, so the same goes for all its pieces. A text
without an open literal keeps its pieces when more follows behind a blank, as long as the
next word makes no operator together with a word in front of it.
-/

import Mathlib.Data.List.Basic
import TaskQuery.Proofs.Coverage
import TaskQuery.Proofs.Spelling

namespace TaskQuery

open Text

/-! ## Closed and open literals -/

/-- The source of a string literal that ends with its own quote. -/
def ClosedLiteral (source : List Char) : Prop :=
  ∃ quote body, (quote = '"' ∨ quote = '\'') ∧ QuotesEscaped quote body ∧
    source = quote :: (body ++ [quote]) ∧ trailingBackslashes body % 2 = 0

/-- The source of a string literal without a quote that ends it. -/
def OpenLiteral (source : List Char) : Prop :=
  ∃ quote body, (quote = '"' ∨ quote = '\'') ∧ QuotesEscaped quote body ∧ source = quote :: body

/-- There is no quote in a text. -/
def Quoteless (cs : List Char) : Prop :=
  '"' ∉ cs ∧ '\'' ∉ cs

variable {source after suffix : List Char}

theorem ClosedLiteral.not_openLiteral (closed : ClosedLiteral source) : ¬ OpenLiteral source := by
  obtain ⟨quote, body, -, -, rfl, even⟩ := closed
  rintro ⟨other, whole, -, escaped, same⟩
  obtain ⟨rfl, rfl⟩ := List.cons.inj same
  have odd := escaped body [] rfl
  omega

theorem IsLiteral.closed_or_open (literal : IsLiteral source after) :
    ClosedLiteral source ∨ OpenLiteral source ∧ after = [] := by
  obtain ⟨quote, body, isQuote, escaped, ⟨rfl, even⟩ | ⟨rfl, rfl⟩⟩ := literal
  · exact Or.inl ⟨quote, body, isQuote, escaped, rfl, even⟩
  · exact Or.inr ⟨⟨quote, body, isQuote, escaped, rfl⟩, rfl⟩

/-- A closed literal is the same in front of anything. -/
theorem ClosedLiteral.isLiteral (closed : ClosedLiteral source) (after : List Char) :
    IsLiteral source after := by
  obtain ⟨quote, body, isQuote, escaped, rfl, even⟩ := closed
  exact ⟨quote, body, isQuote, escaped, Or.inl ⟨rfl, even⟩⟩

theorem OpenLiteral.isLiteral (opened : OpenLiteral source) : IsLiteral source [] := by
  obtain ⟨quote, body, isQuote, escaped, rfl⟩ := opened
  exact ⟨quote, body, isQuote, escaped, Or.inr ⟨rfl, rfl⟩⟩

/-- An open literal takes in what follows without a quote. -/
theorem OpenLiteral.append (opened : OpenLiteral source) (quoteless : Quoteless suffix) :
    OpenLiteral (source ++ suffix) := by
  obtain ⟨quote, body, isQuote, escaped, rfl⟩ := opened
  refine ⟨quote, body ++ suffix, isQuote, fun before after same => ?_, rfl⟩
  have outside : quote ∉ suffix := by
    rcases isQuote with rfl | rfl
    · exact quoteless.1
    · exact quoteless.2
  rcases List.append_eq_append_iff.mp same with ⟨between, -, rest⟩ | ⟨between, rfl, rest⟩
  · exact absurd (rest ▸ List.mem_append_right between List.mem_cons_self) outside
  · cases between with
    | nil =>
        rw [List.nil_append] at rest
        exact absurd (rest ▸ List.mem_cons_self) outside
    | cons c between =>
        obtain ⟨rfl, -⟩ := List.cons.inj rest
        exact escaped before between rfl

/-! ## Reading literals -/

/-- What was read as a literal is read as the same one when it stands alone. -/
theorem Literal.read_of_source (quote : Char) (held : Nat) (cs : List Char) :
    Literal.read quote held (Literal.read quote held cs).source =
      ⟨(Literal.read quote held cs).contents, (Literal.read quote held cs).source, []⟩ := by
  induction cs generalizing held with
  | nil => rfl
  | cons c cs ih =>
      rw [Literal.read]
      split
      · rw [Literal.read, if_pos ‹_›, ih]
      · split
        · split
          · rw [Literal.read, if_neg ‹_›, if_pos ‹_›, if_pos ‹_›]
          · rw [Literal.read, if_neg ‹_›, if_pos ‹_›, if_neg ‹_›, ih]
        · rw [Literal.read, if_neg ‹_›, if_neg ‹_›, ih]

variable {quote : Char} {cs : List Char}

theorem Literal.read_append_of_closed (isQuote : quote = '"' ∨ quote = '\'')
    (closed : ClosedLiteral (quote :: (Literal.read quote 0 cs).source)) (suffix : List Char) :
    Literal.read quote 0 (cs ++ suffix) =
      ⟨(Literal.read quote 0 cs).contents, (Literal.read quote 0 cs).source,
        (Literal.read quote 0 cs).rest ++ suffix⟩ := by
  have whole := Literal.read_source quote 0 (cs ++ suffix)
  have part := Literal.read_source quote 0 cs
  have apart : (Literal.read quote 0 cs).source ++ ((Literal.read quote 0 cs).rest ++ suffix) =
      (Literal.read quote 0 (cs ++ suffix)).source ++
        (Literal.read quote 0 (cs ++ suffix)).rest := by
    rw [whole, ← List.append_assoc, part]
  have sameSource := (List.cons.inj ((closed.isLiteral _).unique
    (isLiteral_read isQuote (cs ++ suffix)) (congrArg (quote :: ·) apart))).2
  have sameRest := List.append_cancel_left (sameSource ▸ apart)
  have first := Literal.read_of_source quote 0 cs
  have second := Literal.read_of_source quote 0 (cs ++ suffix)
  rw [← sameSource, first] at second
  have sameContents := (Literal.mk.inj second).1
  rcases read : Literal.read quote 0 (cs ++ suffix) with ⟨contents, source, rest⟩
  rw [read] at sameContents sameSource sameRest
  rw [sameContents, sameSource, sameRest]

theorem Literal.read_append_of_open (isQuote : quote = '"' ∨ quote = '\'')
    (opened : OpenLiteral (quote :: (Literal.read quote 0 cs).source))
    (quoteless : Quoteless suffix) :
    (Literal.read quote 0 cs).rest = [] ∧ (Literal.read quote 0 cs).source = cs ∧
      (Literal.read quote 0 (cs ++ suffix)).source = cs ++ suffix ∧
      (Literal.read quote 0 (cs ++ suffix)).rest = [] := by
  have part := Literal.read_source quote 0 cs
  have atEnd : (Literal.read quote 0 cs).rest = [] := by
    rcases (isLiteral_read isQuote cs).closed_or_open with closed | ⟨-, atEnd⟩
    · exact absurd opened closed.not_openLiteral
    · exact atEnd
  rw [atEnd, List.append_nil] at part
  rw [part] at opened
  have whole := Literal.read_source quote 0 (cs ++ suffix)
  have sameSource := (opened.append quoteless).isLiteral.unique
    (isLiteral_read isQuote (cs ++ suffix)) (by simp [whole])
  have isWhole : cs ++ suffix = (Literal.read quote 0 (cs ++ suffix)).source :=
    (List.cons.inj sameSource).2
  refine ⟨atEnd, part, isWhole.symm, ?_⟩
  rw [← isWhole] at whole
  exact List.append_right_eq_self.mp whole

/-! ## Pieces in front of more text -/

/-- A piece is an open literal. -/
def Piece.IsOpen : Piece → Prop
  | token .stringLiteral _ source => OpenLiteral source
  | _ => False

theorem Piece.next_of_isQuote {quote : Char} (isQuote : quote = '"' ∨ quote = '\'')
    (cs : List Char) : Piece.next quote cs = Piece.literal quote cs := by
  rcases isQuote with rfl | rfl <;> rfl

/-- Only a quote starts an open literal. -/
theorem Piece.isQuote_of_isOpen {first : Char} {cs : List Char}
    (opened : (Piece.next first cs).1.IsOpen) : first = '"' ∨ first = '\'' := by
  have read := Piece.next_source first cs
  rcases piece : (Piece.next first cs).1 with c | c | ⟨kind, text, source⟩ <;> rw [piece] at opened
  · cases opened
  · cases opened
  · cases kind
    case stringLiteral =>
      obtain ⟨quote, body, isQuote, -, rfl⟩ := opened
      rw [piece] at read
      exact (List.cons.inj read).1 ▸ isQuote
    all_goals cases opened

theorem takeWhile_append_of_head {p : Char → Bool} (stops : ∀ c ∈ suffix.head?, p c = false)
    (cs : List Char) : (cs ++ suffix).takeWhile p = cs.takeWhile p := by
  induction cs with
  | nil =>
      cases suffix with
      | nil => rfl
      | cons c suffix => simp [stops c rfl]
  | cons c cs ih => by_cases holds : p c = true <;> simp [holds, ih]

theorem dropWhile_append_of_head {p : Char → Bool} (stops : ∀ c ∈ suffix.head?, p c = false)
    (cs : List Char) : (cs ++ suffix).dropWhile p = cs.dropWhile p ++ suffix := by
  induction cs with
  | nil =>
      cases suffix with
      | nil => rfl
      | cons c suffix => simp [stops c rfl]
  | cons c cs ih => by_cases holds : p c = true <;> simp [holds, ih]

/-- No run of characters of one class goes on with what follows. -/
structure BreaksRuns (suffix : List Char) : Prop where
  word : WordStops suffix
  tag : ∀ c ∈ suffix.head?, isTagChar c = false

namespace BreaksRuns

theorem number (breaks : BreaksRuns suffix) : ∀ c ∈ suffix.head?, isNumberChar c = false :=
  fun c isHead => isNumberChar_eq_false_of_isWordChar (breaks.word c isHead)

theorem of_blank (blank : ∀ c ∈ suffix.head?, isBlank c = true) : BreaksRuns suffix where
  word c isHead := isWordChar_eq_false_of_isBlank (blank c isHead)
  tag c isHead := isTagChar_eq_false_of_isBlank (blank c isHead)

end BreaksRuns

namespace Piece

section RunsBreak

variable (breaks : BreaksRuns suffix)
include breaks

theorem number_append (first : Char) (cs : List Char) :
    number first (cs ++ suffix) = ((number first cs).1, (number first cs).2 ++ suffix) := by
  rw [number, number, takeWhile_append_of_head breaks.number,
    dropWhile_append_of_head breaks.number]

theorem tag_append (cs : List Char) :
    tag (cs ++ suffix) = ((tag cs).1, (tag cs).2 ++ suffix) := by
  rw [tag, tag, takeWhile_append_of_head breaks.tag, dropWhile_append_of_head breaks.tag]
  split <;> rfl

/-- A word looks at most at the word behind it, and needs no more when there is one. -/
theorem word_append_of_next (first : Char) {cs : List Char}
    (more : (cs.dropWhile isWordChar).dropWhile isBlank ≠ []) :
    word first (cs ++ suffix) = ((word first cs).1, (word first cs).2 ++ suffix) := by
  rw [word, word, takeWhile_append_of_head breaks.word, dropWhile_append_of_head breaks.word]
  generalize cs.dropWhile isWordChar = behind at more
  have gap : (behind ++ suffix).takeWhile isBlank = behind.takeWhile isBlank := by
    rw [List.takeWhile_append, if_neg]
    intro whole
    have same := List.takeWhile_append_dropWhile (p := isBlank) (l := behind)
    have sizes := congrArg List.length same
    rw [List.length_append, whole] at sizes
    exact more (List.eq_nil_of_length_eq_zero (by omega))
  have beyond : (behind ++ suffix).dropWhile isBlank = behind.dropWhile isBlank ++ suffix := by
    rw [List.dropWhile_append, if_neg (by simpa using more)]
  simp only [gap, beyond, takeWhile_append_of_head breaks.word,
    dropWhile_append_of_head breaks.word]
  split <;> rfl

/-- The last word is alone in front of what follows, unless the next word makes an operator
together with it. -/
theorem word_append_of_alone (first : Char) {cs : List Char}
    (last : (cs.dropWhile isWordChar).dropWhile isBlank = [])
    (alone : TokenKind.ofPair? (first :: cs.takeWhile isWordChar) (nextWord suffix) = none) :
    word first (cs ++ suffix) = ((word first cs).1, (word first cs).2 ++ suffix) := by
  rw [word, word, takeWhile_append_of_head breaks.word, dropWhile_append_of_head breaks.word]
  have next : ((cs.dropWhile isWordChar ++ suffix).dropWhile isBlank).takeWhile isWordChar =
      nextWord suffix := by
    rw [List.dropWhile_append, last]
    rfl
  have noPair : TokenKind.ofPair? (first :: cs.takeWhile isWordChar) ([].takeWhile isWordChar) =
      none :=
    ofPair?_eq_none_of_second (by decide) _
  simp only [next, alone, last, noPair]

/-- A piece that is no open literal is the same in front of what follows, unless it is a word
that looks further. -/
theorem next_append {first : Char} {cs : List Char} (closed : ¬ (next first cs).1.IsOpen)
    (words : first.isAlpha = true →
      word first (cs ++ suffix) = ((word first cs).1, (word first cs).2 ++ suffix)) :
    next first (cs ++ suffix) = ((next first cs).1, (next first cs).2 ++ suffix) := by
  by_cases isQuote : first = '"' ∨ first = '\''
  · rw [next_of_isQuote isQuote] at closed ⊢
    rw [next_of_isQuote isQuote]
    have isClosed := ((isLiteral_read isQuote cs).closed_or_open).resolve_right
      (fun opened => closed opened.1)
    rw [literal, Literal.read_append_of_closed isQuote isClosed suffix]
    rfl
  · rw [next, next]
    split
    · rfl
    split
    · rfl
    split
    · rfl
    split
    · rfl
    split
    · exact tag_append breaks cs
    split
    · exact words ‹_›
    split
    · exact number_append breaks first cs
    · rfl

end RunsBreak

/-- A text without an open literal keeps its pieces in front of what leaves each of them as it
is. -/
theorem all_append_of_next {cs : List Char}
    (keeps : ∀ {first : Char} {cs : List Char}, ¬ (next first cs).1.IsOpen →
      next first (cs ++ suffix) = ((next first cs).1, (next first cs).2 ++ suffix))
    (closed : ∀ piece ∈ all cs, ¬ piece.IsOpen) : all (cs ++ suffix) = all cs ++ all suffix := by
  induction cs using all.induct with
  | case1 => rw [all, List.nil_append, List.nil_append]
  | case2 first cs ih =>
      rw [all] at closed ⊢
      obtain ⟨closedFirst, closedOthers⟩ := List.forall_mem_cons.mp closed
      rw [List.cons_append, all, keeps closedFirst]
      exact congrArg _ (ih closedOthers)

end Piece

/-- What follows starts with a blank, and its first word makes no operator together with
one in front of it. -/
structure StandsApart (suffix : List Char) : Prop where
  blank : ∀ c ∈ suffix.head?, c = ' '
  alone : ∀ word, TokenKind.ofPair? word (nextWord suffix) = none

namespace StandsApart

variable (apart : StandsApart suffix)
include apart

/-- A piece that is no open literal is the same in front of what stands apart. -/
theorem next_append {first : Char} {cs : List Char}
    (closed : ¬ (Piece.next first cs).1.IsOpen) :
    Piece.next first (cs ++ suffix) =
      ((Piece.next first cs).1, (Piece.next first cs).2 ++ suffix) := by
  have blank : ∀ c ∈ suffix.head?, isBlank c = true := by
    intro c isHead
    rw [apart.blank c isHead]
    decide
  have breaks := BreaksRuns.of_blank blank
  refine Piece.next_append breaks closed fun _ => ?_
  by_cases last : (cs.dropWhile isWordChar).dropWhile isBlank = []
  · exact Piece.word_append_of_alone breaks first last (apart.alone _)
  · exact Piece.word_append_of_next breaks first last

/-- A text without an open literal keeps its pieces in front of what stands apart. -/
theorem all_append {cs : List Char} (closed : ∀ piece ∈ Piece.all cs, ¬ piece.IsOpen) :
    Piece.all (cs ++ suffix) = Piece.all cs ++ Piece.all suffix :=
  Piece.all_append_of_next apart.next_append closed

/-- An open literal is the last piece of a text, and takes in what follows without a quote. -/
theorem exists_all_append {cs : List Char} (quoteless : Quoteless suffix)
    (opened : ∃ piece ∈ Piece.all cs, piece.IsOpen) :
    ∃ front text source longer, Piece.all cs = front ++ [.token .stringLiteral text source] ∧
      Piece.all (cs ++ suffix) = front ++ [.token .stringLiteral longer (source ++ suffix)] := by
  induction cs using Piece.all.induct with
  | case1 =>
      obtain ⟨piece, member, -⟩ := opened
      rw [Piece.all] at member
      cases member
  | case2 first cs ih =>
      rw [List.cons_append, Piece.all, Piece.all]
      by_cases isOpen : (Piece.next first cs).1.IsOpen
      · have isQuote := Piece.isQuote_of_isOpen isOpen
        rw [Piece.next_of_isQuote isQuote] at isOpen ⊢
        rw [Piece.next_of_isQuote isQuote]
        obtain ⟨atEnd, source, longer, longerAtEnd⟩ :=
          Literal.read_append_of_open isQuote isOpen quoteless
        refine ⟨[], (Literal.read first 0 cs).contents, first :: cs,
          (Literal.read first 0 (cs ++ suffix)).contents, ?_, ?_⟩
        · rw [Piece.literal, atEnd, source, Piece.all]
          rfl
        · rw [Piece.literal, longerAtEnd, longer, Piece.all]
          rfl
      · rw [apart.next_append isOpen]
        rw [Piece.all] at opened
        have later : ∃ piece ∈ Piece.all (Piece.next first cs).2, piece.IsOpen := by
          obtain ⟨piece, member, pieceOpen⟩ := opened
          rcases List.mem_cons.mp member with rfl | member
          · exact absurd pieceOpen isOpen
          · exact ⟨piece, member, pieceOpen⟩
        obtain ⟨front, text, source, longer, before, after⟩ := ih later
        exact ⟨(Piece.next first cs).1 :: front, text, source, longer, congrArg _ before,
          congrArg _ after⟩

end StandsApart

/-! ## Tokens -/

theorem Lexed.tokens_ofPieces_ne_nil (position : Nat) (pieces : List Piece) :
    (ofPieces position pieces).tokens ≠ [] := by
  induction pieces generalizing position with
  | nil => exact List.cons_ne_nil _ _
  | cons piece pieces ih =>
      cases piece with
      | layout c | stray c => exact ih _
      | token kind text source => exact List.cons_ne_nil _ _

/-- Behind some pieces, positions are counted from where they end, and their end marker is
gone. -/
theorem Lexed.ofPieces_append (position : Nat) (pieces others : List Piece) :
    let behind := ofPieces (position + byteLength (pieces.flatMap Piece.source)) others
    ofPieces position (pieces ++ others) =
      ⟨(ofPieces position pieces).tokens.dropLast ++ behind.tokens,
        (ofPieces position pieces).strays ++ behind.strays⟩ := by
  induction pieces generalizing position with
  | nil => rfl
  | cons piece pieces ih =>
      rw [List.cons_append, List.flatMap_cons, byteLength_append, ← Nat.add_assoc]
      cases piece with
      | layout c | stray c =>
          rw [ofPieces, ih]
          rfl
      | token kind text source =>
          rw [ofPieces, ih, ofPieces, List.dropLast_cons_of_ne_nil (tokens_ofPieces_ne_nil _ _)]
          rfl

/-- A token of a text is a string literal that ends with its own quote. -/
def Token.IsClosed (input : List Char) (token : Token) : Prop :=
  ∃ source, token.Occupies input source ∧ ClosedLiteral source

/-- A token of a text is a string literal that no quote ends, so it goes on to the end of the
text. -/
def Token.IsOpen (input : List Char) (token : Token) : Prop :=
  ∃ before source, input = before ++ source ∧ byteLength before = token.position ∧
    OpenLiteral source

variable {input : List Char} {token : Token}

theorem Token.Occupies.closed_or_open (occupies : token.Occupies input source)
    (isLiteral : token.kind = .stringLiteral) : token.IsClosed input ∨ token.IsOpen input := by
  have whole := occupies
  obtain ⟨before, after, split, starts, literal⟩ := occupies
  rw [if_pos isLiteral] at literal
  rcases literal.closed_or_open with closed | ⟨opened, rfl⟩
  · exact Or.inl ⟨source, whole, closed⟩
  · exact Or.inr ⟨before, source, by rw [split, List.append_nil], starts, opened⟩

theorem Token.IsOpen.not_isClosed (isLiteral : token.kind = .stringLiteral)
    (opened : token.IsOpen input) : ¬ token.IsClosed input := by
  rintro ⟨source, occupies, closed⟩
  obtain ⟨before, other, rfl, starts, otherOpen⟩ := opened
  have alsoOccupies : token.Occupies (before ++ other) other := by
    refine ⟨before, [], (List.append_nil _).symm, starts, ?_⟩
    rw [if_pos isLiteral]
    exact otherOpen.isLiteral
  rw [occupies.unique alsoOccupies] at closed
  exact closed.not_openLiteral otherOpen

/-- A piece is open if the token that it gives is. -/
theorem Piece.isOpen_token_iff {before slice rest text : List Char} {kind : TokenKind}
    (read : (Piece.token kind text slice).IsRead rest) :
    (Piece.token kind text slice).IsOpen ↔ kind = .stringLiteral ∧
      Token.IsOpen (before ++ (slice ++ rest)) ⟨kind, String.ofList text, byteLength before⟩ := by
  obtain ⟨-, -, spans⟩ := read
  by_cases isLiteral : kind = .stringLiteral
  · subst isLiteral
    rw [if_pos rfl] at spans
    constructor
    · intro opened
      obtain ⟨-, rfl⟩ := spans.closed_or_open.resolve_left fun closed =>
        closed.not_openLiteral opened
      exact ⟨rfl, before, slice, by rw [List.append_nil], rfl, opened⟩
    · rintro ⟨-, other, source, same, starts, opened⟩
      obtain ⟨rfl, rfl⟩ := append_inj_of_byteLength same starts.symm
      have whole := spans.unique opened.isLiteral (List.append_nil _).symm
      rw [← whole] at opened
      exact opened
  · refine iff_of_false (fun opened => ?_) fun opened => isLiteral opened.1
    cases kind
    case stringLiteral => exact isLiteral rfl
    all_goals cases opened

/-- A text has an open literal among its tokens if one of its pieces is open. -/
theorem exists_isOpen_iff (before cs : List Char) :
    (∃ piece ∈ Piece.all cs, piece.IsOpen) ↔
      ∃ token ∈ (Lexed.ofPieces (byteLength before) (Piece.all cs)).tokens,
        token.kind = .stringLiteral ∧ token.IsOpen (before ++ cs) := by
  induction cs using Piece.all.induct generalizing before with
  | case1 => simp [Piece.all, Lexed.ofPieces]
  | case2 first cs ih =>
      have source := Piece.next_source first cs
      have read := Piece.isRead_next first cs
      have others := ih (before ++ (Piece.next first cs).1.source)
      rw [List.append_assoc, source, byteLength_append] at others
      rw [Piece.all, List.exists_mem_cons_iff, others]
      generalize Piece.next first cs = piece at *
      obtain ⟨piece, rest⟩ := piece
      simp only [← source]
      cases piece with
      | layout c =>
          rw [Lexed.ofPieces]
          exact or_iff_right id
      | stray c =>
          rw [Lexed.ofPieces]
          exact or_iff_right id
      | token kind text slice =>
          rw [Lexed.ofPieces, List.exists_mem_cons_iff]
          exact or_congr_left (Piece.isOpen_token_iff read)

/-- Every string literal of a text ends with its own quote. -/
def LiteralsClosed (input : String) : Prop :=
  ∀ token ∈ (tokenize input).tokens, token.kind = .stringLiteral → token.IsClosed input.toList

/-- A string literal of a text ends with its own quote, or it goes on to the end of the text. -/
theorem isClosed_or_isOpen {input : String} (member : token ∈ (tokenize input).tokens)
    (isLiteral : token.kind = .stringLiteral) :
    token.IsClosed input.toList ∨ token.IsOpen input.toList := by
  obtain ⟨source, occupies, -⟩ := (ofPieces_covers [] input.toList).slices token member
  exact Token.Occupies.closed_or_open occupies isLiteral

theorem literalsClosed_iff (input : String) :
    LiteralsClosed input ↔ ∀ piece ∈ Piece.all input.toList, ¬ piece.IsOpen := by
  have opened := exists_isOpen_iff [] input.toList
  constructor
  · intro closed piece member isOpen
    obtain ⟨token, among, isLiteral, tokenOpen⟩ := opened.mp ⟨piece, member, isOpen⟩
    exact tokenOpen.not_isClosed isLiteral (closed token among isLiteral)
  · intro noneOpen token member isLiteral
    refine (isClosed_or_isOpen member isLiteral).resolve_right fun tokenOpen => ?_
    obtain ⟨piece, among, isOpen⟩ := opened.mpr ⟨token, member, isLiteral, tokenOpen⟩
    exact noneOpen piece among isOpen

end TaskQuery

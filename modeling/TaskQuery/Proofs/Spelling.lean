/-
# Written words are read back

What the printer writes is put together from words, quoted texts and signs, with single
blanks between them. This module says what the lexer makes of each of them, in front of
whatever follows. `Spells` is the one notion: it composes, so a text is read by reading
its parts from the right.

Two things can go wrong where parts meet. A character that could go on with a word must
not follow it, and the next word must not make one operator with it. A text that *ends*
a part is safe in both ways.
-/

import TaskQuery.Query.Printer

namespace TaskQuery

open Text

/-! ## Classes of characters -/

/-- A property of all ASCII characters is checked code by code. -/
theorem forall_ascii {p : Char → Prop} (codes : ∀ n < 128, p (Char.ofNat n)) {c : Char}
    (small : c.toNat < 128) : p c := by
  have holds := codes c.toNat small
  rwa [Char.ofNat_toNat] at holds

theorem toNat_lt_of_isWordChar {c : Char} (isWord : isWordChar c = true) : c.toNat < 128 := by
  have bound {last : Char} (small : last.toNat < 128) (within : c.val ≤ last.val) :
      c.toNat < 128 :=
    Nat.lt_of_le_of_lt (UInt32.le_iff_toNat_le.mp within) small
  simp only [isWordChar, Char.isAlphanum, Char.isDigit, Bool.or_eq_true, Bool.and_eq_true,
    decide_eq_true_eq, beq_iff_eq] at isWord
  rcases isWord with (((isAlpha | ⟨-, digit⟩) | rfl) | rfl) | rfl
  · rcases Bool.or_eq_true_iff.mp isAlpha with isUpper | isLower
    · have upper : 'A'.val ≤ c.val ∧ c.val ≤ 'Z'.val := of_decide_eq_true isUpper
      exact bound (by decide) upper.2
    · have lower := Bool.and_eq_true_iff.mp isLower
      exact bound (by decide) (of_decide_eq_true lower.2)
  · exact bound (by decide) digit
  all_goals decide

theorem isWordChar_of_isAlpha {c : Char} (isAlpha : c.isAlpha = true) : isWordChar c = true := by
  simp [isWordChar, Char.isAlphanum, isAlpha]

theorem isWordChar_of_isDigit {c : Char} (isDigit : c.isDigit = true) : isWordChar c = true := by
  simp [isWordChar, Char.isAlphanum, isDigit]

theorem isWordChar_of_isNumberChar {c : Char} (isNumber : isNumberChar c = true) :
    isWordChar c = true := by
  rw [isNumberChar, Bool.or_eq_true] at isNumber
  rcases isNumber with isDigit | isDash
  · exact isWordChar_of_isDigit isDigit
  · simp [isWordChar, isDash]

/-- A character of another class is not in a run of one class. -/
theorem not_mem_of_all {p : Char → Bool} {c : Char} (other : p c = false) {run : List Char}
    (inside : run.all p = true) : c ∉ run := by
  intro member
  rw [List.all_eq_true.mp inside c member] at other
  cases other

/-- What holds of all ASCII digits is checked code by code. -/
theorem forall_digit {p : Char → Prop}
    (codes : ∀ n < 128, (Char.ofNat n).isDigit = true → p (Char.ofNat n)) {c : Char}
    (isDigit : c.isDigit = true) : p c :=
  forall_ascii (p := fun c => c.isDigit = true → p c) codes
    (toNat_lt_of_isWordChar (isWordChar_of_isDigit isDigit)) isDigit

theorem isAlpha_eq_false_of_isDigit {c : Char} (isDigit : c.isDigit = true) :
    c.isAlpha = false :=
  forall_digit (p := fun c => c.isAlpha = false) (by decide +kernel) isDigit

theorem isBlank_eq_false_of_isWordChar {c : Char} (isWord : isWordChar c = true) :
    isBlank c = false := by
  have checked : ∀ n < 128, isWordChar (Char.ofNat n) = true → isBlank (Char.ofNat n) = false := by
    decide +kernel
  exact forall_ascii (p := fun c => isWordChar c = true → isBlank c = false) checked
    (toNat_lt_of_isWordChar isWord) isWord

/-- What holds of all characters in some ranges is checked code by code. -/
theorem forall_within {p : Char → Prop} {ranges : CodeRanges}
    (codes : ∀ range ∈ ranges, ∀ offset < range.2 + 1 - range.1, p (Char.ofNat (range.1 + offset)))
    {c : Char} (within : ranges.contains c.toNat = true) : p c := by
  induction ranges with
  | nil => cases within
  | cons range ranges ih =>
      obtain ⟨here, others⟩ := List.forall_mem_cons.mp codes
      rw [CodeRanges.contains] at within
      split at within
      · cases within
      · rcases Bool.or_eq_true_iff.mp within with inside | later
        · have holds := here (c.toNat - range.1) (by have := of_decide_eq_true inside; omega)
          rwa [Nat.add_sub_cancel' (by omega), Char.ofNat_toNat] at holds
        · exact ih others later

theorem isWordChar_eq_false_of_isBlank {c : Char} (blank : isBlank c = true) :
    isWordChar c = false := by
  refine Bool.eq_false_iff.mpr fun isWord => ?_
  rw [isBlank_eq_false_of_isWordChar isWord] at blank
  cases blank

theorem isNumberChar_eq_false_of_isWordChar {c : Char} (noWord : isWordChar c = false) :
    isNumberChar c = false := by
  refine Bool.eq_false_iff.mpr fun isNumber => ?_
  rw [isWordChar_of_isNumberChar isNumber] at noWord
  cases noWord

theorem isTagChar_eq_false_of_isBlank {c : Char} (blank : isBlank c = true) :
    isTagChar c = false := by
  have checked : ∀ range ∈ blankRanges, ∀ offset < range.2 + 1 - range.1,
      isTagChar (Char.ofNat (range.1 + offset)) = false := by
    decide +kernel
  exact forall_within (p := fun c => isTagChar c = false) checked blank

/-- A run of one class, up to the first of another, is taken whole. -/
theorem takeWhile_append_of_stop {α : Type} {p : α → Bool} {run rest : List α}
    (inside : run.all p = true) (stop : ∀ c ∈ rest.head?, p c = false) :
    (run ++ rest).takeWhile p = run := by
  rw [List.takeWhile_append_of_pos (List.all_eq_true.mp inside)]
  cases rest with
  | nil => simp
  | cons c rest => simp [stop c rfl]

theorem dropWhile_append_of_stop {α : Type} {p : α → Bool} {run rest : List α}
    (inside : run.all p = true) (stop : ∀ c ∈ rest.head?, p c = false) :
    (run ++ rest).dropWhile p = rest := by
  rw [List.dropWhile_append_of_pos (List.all_eq_true.mp inside)]
  cases rest with
  | nil => rfl
  | cons c rest => simp [stop c rfl]

/-! ## Reserved words and pairs of words -/

theorem ofWord_eq_identifier_iff (word : List Char) :
    TokenKind.ofWord word = .identifier ↔ isReserved word = false := by
  rw [TokenKind.ofWord, isReserved]
  split <;> simp_all [reservedWords]

/-- Behind a word that ends no pair, every word stands alone. -/
theorem ofPair?_eq_none_of_second {second : List Char}
    (noEnd : String.ofList (second.map Char.toLower) ∉ ["not", "includes", "matches", "on"])
    (first : List Char) : TokenKind.ofPair? first second = none := by
  rw [TokenKind.ofPair?.eq_def]
  split <;> simp_all

theorem ofPair?_eq_none_of_first {first : List Char}
    (noStart : String.ofList (first.map Char.toLower) ∉ ["is", "not", "depends"])
    (second : List Char) : TokenKind.ofPair? first second = none := by
  rw [TokenKind.ofPair?.eq_def]
  split <;> simp_all

/-- A word that is not reserved makes a pair with `on` at most. -/
theorem ofPair?_eq_none_of_not_reserved {first second : List Char}
    (plain : isReserved first = false)
    (noOn : String.ofList (second.map Char.toLower) ≠ "on") :
    TokenKind.ofPair? first second = none := by
  rw [TokenKind.ofPair?.eq_def]
  split <;> simp_all [isReserved, reservedWords]

/-- Only `depends` makes a pair with a word that is not reserved. -/
theorem ofPair?_eq_none_of_not_reserved_second {first second : List Char}
    (plain : isReserved second = false)
    (noDepends : String.ofList (first.map Char.toLower) ≠ "depends") :
    TokenKind.ofPair? first second = none := by
  rw [TokenKind.ofPair?.eq_def]
  split <;> simp_all [isReserved, reservedWords]

/-! ## Lexemes -/

/-- A token without its place. -/
structure Lexeme where
  kind : TokenKind
  text : String
  deriving DecidableEq, Repr

def Token.lexeme (token : Token) : Lexeme :=
  ⟨token.kind, token.text⟩

/-- What a piece shows: nothing for layout, no lexeme for a character that means
nothing. -/
def Piece.shown : Piece → List (Option Lexeme)
  | layout _ => []
  | stray _ => [none]
  | token kind text _ => [some ⟨kind, String.ofList text⟩]

/-- What the lexer shows of a text. -/
def scan (cs : List Char) : List (Option Lexeme) :=
  (Piece.all cs).flatMap Piece.shown

theorem scan_nil : scan [] = [] := by
  rw [scan, Piece.all, List.flatMap_nil]

theorem scan_cons (first : Char) (cs : List Char) :
    scan (first :: cs) = (Piece.next first cs).1.shown ++ scan (Piece.next first cs).2 := by
  rw [scan, Piece.all, List.flatMap_cons]
  rfl

/-- Tokens with the lexemes that are shown, and no stray characters. -/
theorem exists_tokens_of_shown {lexemes : List Lexeme} {pieces : List Piece}
    (shown : pieces.flatMap Piece.shown = lexemes.map some) (position : Nat) :
    ∃ tokens finish, Lexed.ofPieces position pieces =
        ⟨tokens ++ [⟨.endOfInput, "", finish⟩], []⟩ ∧ tokens.map Token.lexeme = lexemes := by
  induction pieces generalizing lexemes position with
  | nil =>
      rw [List.flatMap_nil, eq_comm, List.map_eq_nil_iff] at shown
      exact ⟨[], position, rfl, shown.symm⟩
  | cons piece pieces ih =>
      rw [List.flatMap_cons] at shown
      cases piece with
      | layout c =>
          rw [Lexed.ofPieces]
          exact ih shown _
      | stray c =>
          cases lexemes with
          | nil => cases shown
          | cons lexeme lexemes => cases (List.cons.inj shown).1
      | token kind text source =>
          cases lexemes with
          | nil => cases shown
          | cons lexeme lexemes =>
              obtain ⟨same, shown⟩ := List.cons.inj shown
              obtain ⟨tokens, finish, read, spelled⟩ :=
                ih shown (position + byteLength (Piece.token kind text source).source)
              refine ⟨⟨kind, String.ofList text, position⟩ :: tokens, finish, ?_, ?_⟩
              · rw [Lexed.ofPieces, read]
                rfl
              · rw [List.map_cons, spelled]
                exact congrArg (· :: lexemes) (Option.some.inj same)

/-- In front of `rest` the lexer reads the characters as some lexemes, and then it goes
on with `rest`. -/
def Spells (cs : List Char) (lexemes : List Lexeme) (rest : List Char) : Prop :=
  scan (cs ++ rest) = lexemes.map some ++ scan rest

theorem Spells.append {front back rest : List Char} {first second : List Lexeme}
    (frontRead : Spells front first (back ++ rest)) (backRead : Spells back second rest) :
    Spells (front ++ back) (first ++ second) rest := by
  rw [Spells, List.append_assoc, frontRead, backRead, List.map_append, List.append_assoc]

theorem spells_nil (rest : List Char) : Spells [] [] rest :=
  rfl

/-- One piece that is a token is one lexeme. -/
theorem spells_of_next {first : Char} {cs rest source text : List Char} {kind : TokenKind}
    (read : Piece.next first (cs ++ rest) = (.token kind text source, rest)) :
    Spells (first :: cs) [⟨kind, String.ofList text⟩] rest := by
  rw [Spells, List.cons_append, scan_cons, read]
  rfl

theorem spells_layout {c : Char} (layout : isBlank c = true ∨ c = ',') (rest : List Char) :
    Spells [c] [] rest := by
  have read : Piece.next c rest = (.layout c, rest) := by
    rw [Piece.next]
    rcases layout with blank | comma
    · rw [if_pos blank]
    · rw [if_pos comma, ite_self]
  rw [Spells, List.singleton_append, scan_cons, read]
  rfl

theorem spells_blank (rest : List Char) : Spells [' '] [] rest :=
  spells_layout (Or.inl (by decide)) rest

theorem spells_comma (rest : List Char) : Spells [','] [] rest :=
  spells_layout (Or.inr rfl) rest

theorem spells_leftParen (rest : List Char) : Spells ['('] [⟨.leftParen, "("⟩] rest :=
  spells_of_next rfl

theorem spells_rightParen (rest : List Char) : Spells [')'] [⟨.rightParen, ")"⟩] rest :=
  spells_of_next rfl

/-! ## Words -/

/-- The word that comes next, behind blanks; it may be empty. -/
def nextWord (cs : List Char) : List Char :=
  (cs.dropWhile isBlank).takeWhile isWordChar

/-- What follows does not go on with a word. -/
def WordStops (rest : List Char) : Prop :=
  ∀ c ∈ rest.head?, isWordChar c = false

theorem wordStops_nil : WordStops [] := by
  intro c isHead
  cases isHead

theorem nextWord_append {word rest : List Char} (isWord : word.all isWordChar = true)
    (stops : WordStops rest) (noBlank : ∀ c ∈ (word ++ rest).head?, isBlank c = false) :
    nextWord (word ++ rest) = word := by
  have noRun : [].all isBlank = true := rfl
  have kept : (word ++ rest).dropWhile isBlank = word ++ rest :=
    dropWhile_append_of_stop noRun noBlank
  rw [nextWord, kept, takeWhile_append_of_stop isWord stops]

theorem nextWord_blank (rest : List Char) : nextWord (' ' :: rest) = nextWord rest := by
  have blank : isBlank ' ' = true := by decide
  rw [nextWord, List.dropWhile_cons_of_pos blank, nextWord]

/-- A sign that is neither a blank nor part of a word comes before any word. -/
theorem nextWord_sign {c : Char} (noBlank : isBlank c = false) (noWord : isWordChar c = false)
    (rest : List Char) : nextWord (c :: rest) = [] := by
  rw [nextWord, List.dropWhile_cons_of_neg (by simp [noBlank]),
    List.takeWhile_cons_of_neg (by simp [noWord])]

/-- The next word behind a blank. -/
theorem nextWord_blank_append {word rest : List Char} (isWord : word.all isWordChar = true)
    (nonempty : word ≠ []) (stops : WordStops rest) : nextWord (' ' :: (word ++ rest)) = word := by
  rw [nextWord_blank]
  apply nextWord_append isWord stops
  cases word with
  | nil => exact absurd rfl nonempty
  | cons first word =>
      intro c isHead
      obtain rfl := Option.some.inj isHead
      exact isBlank_eq_false_of_isWordChar (List.all_eq_true.mp isWord first List.mem_cons_self)

theorem next_of_isAlpha {first : Char} (isAlpha : first.isAlpha = true) (cs : List Char) :
    Piece.next first cs = Piece.word first cs := by
  have noBlank := isBlank_eq_false_of_isWordChar (isWordChar_of_isAlpha isAlpha)
  have other {c : Char} (sign : c.isAlpha = false) : first ≠ c := by
    intro same
    rw [same, sign] at isAlpha
    cases isAlpha
  rw [Piece.next, if_neg (by simp [noBlank]), if_neg (other rfl), if_neg (other rfl),
    if_neg (other rfl), if_neg (other rfl), if_neg (not_or.mpr ⟨other rfl, other rfl⟩),
    if_pos isAlpha]

theorem next_of_isDigit {first : Char} (isDigit : first.isDigit = true) (cs : List Char) :
    Piece.next first cs = Piece.number first cs := by
  have noBlank := isBlank_eq_false_of_isWordChar (isWordChar_of_isDigit isDigit)
  have noAlpha := isAlpha_eq_false_of_isDigit isDigit
  have other {c : Char} (sign : c.isDigit = false) : first ≠ c := by
    intro same
    rw [same, sign] at isDigit
    cases isDigit
  rw [Piece.next, if_neg (by simp [noBlank]), if_neg (other rfl), if_neg (other rfl),
    if_neg (other rfl), if_neg (other rfl), if_neg (not_or.mpr ⟨other rfl, other rfl⟩),
    if_neg (by simp [noAlpha]), if_pos isDigit]

/-- A word is read as what it is alone, unless the next word makes a pair with it. -/
theorem spells_word {first : Char} {more rest : List Char} (isAlpha : first.isAlpha = true)
    (isWord : more.all isWordChar = true) (stops : WordStops rest)
    (alone : TokenKind.ofPair? (first :: more) (nextWord rest) = none) :
    Spells (first :: more) [⟨TokenKind.ofWord (first :: more), String.ofList (first :: more)⟩]
      rest := by
  apply spells_of_next
  rw [next_of_isAlpha isAlpha, Piece.word, takeWhile_append_of_stop isWord stops,
    dropWhile_append_of_stop isWord stops]
  rw [nextWord] at alone
  simp only [alone]
  rfl

/-- A word that starts no pair is read as what it is alone. -/
theorem spells_lone {first : Char} {more rest : List Char} (isAlpha : first.isAlpha = true)
    (isWord : more.all isWordChar = true) (stops : WordStops rest)
    (noStart : String.ofList ((first :: more).map Char.toLower) ∉ ["is", "not", "depends"]) :
    Spells (first :: more) [⟨TokenKind.ofWord (first :: more), String.ofList (first :: more)⟩]
      rest :=
  spells_word isAlpha isWord stops (ofPair?_eq_none_of_first noStart _)

/-- Two words that make one operator are read together. -/
theorem spells_pair {first : Char} {more second rest : List Char} {kind : TokenKind}
    (isAlpha : first.isAlpha = true) (isWord : more.all isWordChar = true)
    (isSecond : second.all isWordChar = true) (nonempty : second ≠ [])
    (stops : WordStops rest) (paired : TokenKind.ofPair? (first :: more) second = some kind) :
    Spells (first :: (more ++ ' ' :: second))
      [⟨kind, String.ofList (first :: (more ++ ' ' :: second))⟩] rest := by
  have gapStops : WordStops (' ' :: (second ++ rest)) := by
    intro c isHead
    obtain rfl := Option.some.inj isHead
    decide
  have noBlank : ∀ c ∈ (second ++ rest).head?, isBlank c = false := by
    cases second with
    | nil => exact absurd rfl nonempty
    | cons c second =>
        intro d isHead
        obtain rfl := Option.some.inj isHead
        exact isBlank_eq_false_of_isWordChar (List.all_eq_true.mp isSecond c List.mem_cons_self)
  have gap : [' '].all isBlank = true := by decide
  have taken : (' ' :: (second ++ rest)).takeWhile isBlank = [' '] :=
    takeWhile_append_of_stop gap noBlank
  have left : (' ' :: (second ++ rest)).dropWhile isBlank = second ++ rest :=
    dropWhile_append_of_stop gap noBlank
  have read : Piece.next first (more ++ ' ' :: second ++ rest) =
      (Piece.verbatim kind (first :: more ++ [' '] ++ second), rest) := by
    rw [next_of_isAlpha isAlpha, Piece.word, List.append_assoc, List.cons_append,
      takeWhile_append_of_stop isWord gapStops, dropWhile_append_of_stop isWord gapStops, taken,
      left, takeWhile_append_of_stop isSecond stops, dropWhile_append_of_stop isSecond stops]
    simp only [paired]
  have source : first :: more ++ [' '] ++ second = first :: (more ++ ' ' :: second) := by simp
  rw [source] at read
  exact spells_of_next read

/-- The kind of a word that starts with a digit. -/
def numberKind (word : List Char) : TokenKind :=
  if isDateShaped word then .dateLiteral else .identifier

theorem spells_number {first : Char} {more rest : List Char} (isDigit : first.isDigit = true)
    (isNumber : more.all isNumberChar = true) (stops : WordStops rest) :
    Spells (first :: more) [⟨numberKind (first :: more), String.ofList (first :: more)⟩] rest := by
  have numberStops : ∀ c ∈ rest.head?, isNumberChar c = false :=
    fun c isHead => isNumberChar_eq_false_of_isWordChar (stops c isHead)
  apply spells_of_next
  rw [next_of_isDigit isDigit, Piece.number, takeWhile_append_of_stop isNumber numberStops,
    dropWhile_append_of_stop isNumber numberStops]
  rfl

theorem spells_tag {name rest : List Char} (nonempty : name ≠ [])
    (isTag : name.all isTagChar = true) (stops : ∀ c ∈ rest.head?, isTagChar c = false) :
    Spells ('#' :: name) [⟨.tagLiteral, String.ofList ('#' :: name)⟩] rest := by
  have read : Piece.next '#' (name ++ rest) =
      (.token .tagLiteral ('#' :: name) ('#' :: name), rest) := by
    have dispatch : Piece.next '#' (name ++ rest) = Piece.tag (name ++ rest) := rfl
    rw [dispatch, Piece.tag, takeWhile_append_of_stop isTag stops,
      dropWhile_append_of_stop isTag stops]
    cases name with
    | nil => exact absurd rfl nonempty
    | cons c name => rfl
  exact spells_of_next read

/-! ## Quoted values -/

theorem Literal.read_replicate_append (held run : Nat) (cs : List Char) :
    Literal.read '"' held (List.replicate run '\\' ++ cs) =
      ⟨(Literal.read '"' (held + run) cs).contents,
        List.replicate run '\\' ++ (Literal.read '"' (held + run) cs).source,
        (Literal.read '"' (held + run) cs).rest⟩ := by
  induction run generalizing held with
  | zero => simp
  | succ run ih =>
      rw [List.replicate_succ, List.cons_append, Literal.read, if_pos rfl, ih, Nat.add_right_comm]
      rfl

/-- The quoting of a value is undone by reading it: what is read is the value, and the
reading ends at the closing quote. -/
theorem Literal.read_quoteContents (held : Nat) (value rest : List Char) :
    (Literal.read '"' 0 (quoteContents held value ++ '"' :: rest)).contents =
        List.replicate held '\\' ++ value ∧
      (Literal.read '"' 0 (quoteContents held value ++ '"' :: rest)).rest = rest := by
  induction value generalizing held with
  | nil =>
      rw [quoteContents, Literal.read_replicate_append, Nat.zero_add]
      simp [Literal.read]
  | cons c value ih =>
      by_cases isBackslash : c = '\\'
      · subst isBackslash
        obtain ⟨contents, remaining⟩ := ih (held + 1)
        rw [quoteContents, if_pos rfl]
        refine ⟨?_, remaining⟩
        rw [contents, List.replicate_succ', List.append_assoc]
        rfl
      · obtain ⟨contents, remaining⟩ := ih 0
        rw [quoteContents, if_neg isBackslash]
        by_cases isQuote : c = '"'
        · subst isQuote
          rw [if_pos rfl, List.append_assoc, List.cons_append, Literal.read_replicate_append,
            Nat.zero_add, Literal.read, if_neg (by decide), if_pos rfl, if_neg (by omega)]
          refine ⟨?_, remaining⟩
          simp only [contents, List.replicate_zero, List.nil_append]
          congr 2
          omega
        · rw [if_neg isQuote, List.append_assoc, List.cons_append, Literal.read_replicate_append,
            Nat.zero_add, Literal.read, if_neg isBackslash, if_neg isQuote]
          refine ⟨?_, remaining⟩
          simp only [contents, List.replicate_zero, List.nil_append]

/-- Quoting adds nothing but backslashes and quotes. -/
theorem count_quoteContents {c : Char} (noBackslash : c ≠ '\\') (held : Nat)
    (value : List Char) : (quoteContents held value).count c = value.count c := by
  have noRun (run : Nat) : (List.replicate run '\\').count c = 0 :=
    List.count_eq_zero.mpr fun member => noBackslash (List.eq_of_mem_replicate member)
  induction value generalizing held with
  | nil => exact noRun _
  | cons first value ih =>
      have later (run : Nat) :
          (List.replicate run '\\' ++ first :: quoteContents 0 value).count c =
            (first :: value).count c := by
        rw [List.count_append, noRun, Nat.zero_add, List.count_cons, List.count_cons, ih]
      rw [quoteContents]
      split
      · rename_i isBackslash
        rw [ih, isBackslash, List.count_cons_of_ne (Ne.symm noBackslash)]
      split
      · exact later _
      · exact later _

theorem count_valueText {c : Char} (noBackslash : c ≠ '\\') (noQuote : c ≠ '"')
    (value : String) : (valueText value).toList.count c = value.toList.count c := by
  rw [valueText]
  split
  · rfl
  · rw [String.toList_ofList, quoteValue, List.count_append,
      List.count_cons_of_ne (Ne.symm noQuote), List.count_singleton,
      count_quoteContents noBackslash]
    simp [Ne.symm noQuote]

/-- A quoted value is one literal with the value as its text, whatever comes behind it. -/
theorem Piece.next_quoteValue (value after : List Char) :
    Piece.next '"' (quoteContents 0 value ++ ['"'] ++ after) =
      (.token .stringLiteral value (quoteValue value), after) := by
  have dispatch (cs : List Char) : Piece.next '"' cs = Piece.literal '"' cs := rfl
  obtain ⟨contents, remaining⟩ := Literal.read_quoteContents 0 value after
  have source : (Literal.read '"' 0 (quoteContents 0 value ++ '"' :: after)).source =
      quoteContents 0 value ++ ['"'] := by
    have whole := Literal.read_source '"' 0 (quoteContents 0 value ++ '"' :: after)
    rw [remaining] at whole
    exact List.append_cancel_right (whole.trans (List.append_cons _ _ _))
  rw [List.append_assoc, List.singleton_append, dispatch, Piece.literal, contents, remaining,
    source]
  rfl

theorem spells_quoted (value rest : List Char) :
    Spells (quoteValue value) [⟨.stringLiteral, String.ofList value⟩] rest :=
  spells_of_next (Piece.next_quoteValue value rest)

end TaskQuery

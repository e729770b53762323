/-
# The lexer loses nothing

Every character of a text is accounted for by what the lexer gives back. A token
occupies a slice of the text, which starts at the token's position: the token's own
text, or, for a string literal, everything from the opening quote through the closing
one. What is outside of all slices is layout, or it is listed as a stray character.

The lexer walks over pieces and counts bytes. The walk is covered by an invariant about
the text from some offset on; one piece in front of a covered walk covers more of the
text, and that is all the induction needs.
-/

import TaskQuery.Query.Lexer

namespace TaskQuery

open Text

/-! ## Places in a text -/

theorem byteLength_append (front back : List Char) :
    byteLength (front ++ back) = byteLength front + byteLength back := by
  induction front with
  | nil => simp [byteLength]
  | cons c front ih =>
      rw [List.cons_append, byteLength, byteLength, ih, Nat.add_assoc]

theorem byteLength_pos {cs : List Char} (nonempty : cs ≠ []) : 0 < byteLength cs := by
  cases cs with
  | nil => exact absurd rfl nonempty
  | cons c cs => exact Nat.add_pos_left c.utf8Size_pos _

/-- Two ways to cut a text at one offset are the same. -/
theorem append_inj_of_byteLength {front back front' back' : List Char}
    (same : front ++ back = front' ++ back') (sizes : byteLength front = byteLength front') :
    front = front' ∧ back = back' := by
  induction front generalizing front' with
  | nil =>
      have empty : front' = [] := by
        by_cases empty : front' = []
        · exact empty
        · exact absurd sizes (Nat.ne_of_lt (byteLength_pos empty))
      exact ⟨empty.symm, by simpa [empty] using same⟩
  | cons c front ih =>
      cases front' with
      | nil => exact absurd sizes.symm (Nat.ne_of_lt (byteLength_pos (List.cons_ne_nil c front)))
      | cons d front' =>
          rw [List.cons_append, List.cons_append, List.cons.injEq] at same
          obtain ⟨rfl, same⟩ := same
          rw [byteLength, byteLength] at sizes
          obtain ⟨rfl, rest⟩ := ih same (by omega)
          exact ⟨rfl, rest⟩

/-- The character `c` stands at a byte offset of a text. -/
def CharAt (input : List Char) (c : Char) (position : Nat) : Prop :=
  ∃ before after, input = before ++ c :: after ∧ byteLength before = position

theorem CharAt.unique {input : List Char} {c d : Char} {position : Nat}
    (first : CharAt input c position) (second : CharAt input d position) : c = d := by
  obtain ⟨before, after, rfl, rfl⟩ := first
  obtain ⟨before', after', same, sizes⟩ := second
  have rest := (append_inj_of_byteLength same sizes.symm).2
  exact (List.cons.inj rest).1

/-- A character takes the bytes up to the next one. -/
theorem CharAt.add_utf8Size_le {input : List Char} {c d : Char} {position next : Nat}
    (first : CharAt input c position) (second : CharAt input d next) (later : position < next) :
    position + c.utf8Size ≤ next := by
  obtain ⟨before, after, rfl, rfl⟩ := first
  obtain ⟨before', after', same, rfl⟩ := second
  rcases List.append_eq_append_iff.mp same with ⟨between, rfl, rest⟩ | ⟨between, rfl, -⟩
  · cases between with
    | nil => simp at later
    | cons e between =>
        obtain ⟨rfl, -⟩ := List.cons.inj rest
        rw [byteLength_append, byteLength]
        omega
  · rw [byteLength_append] at later
    omega

/-- From a character on, there is only itself and what stands behind its bytes. -/
theorem CharAt.eq_or_le {input : List Char} {c d : Char} {position next : Nat}
    (first : CharAt input c position) (second : CharAt input d next) (behind : position ≤ next) :
    d = c ∧ next = position ∨ position + c.utf8Size ≤ next := by
  by_cases later : position < next
  · exact Or.inr (first.add_utf8Size_le second later)
  · obtain rfl := Nat.le_antisymm behind (Nat.le_of_not_lt later)
    exact Or.inl ⟨second.unique first, rfl⟩

theorem CharAt.lt_byteLength {input : List Char} {c : Char} {position : Nat}
    (stands : CharAt input c position) : position < byteLength input := by
  obtain ⟨before, after, rfl, rfl⟩ := stands
  have positive := c.utf8Size_pos
  rw [byteLength_append, byteLength]
  omega

/-! ## String literals -/

/-- The number of backslashes at the end of a text. -/
def trailingBackslashes (cs : List Char) : Nat :=
  cs.foldl (fun run c => if c = '\\' then run + 1 else 0) 0

/-- Every quote in a text has an odd number of backslashes in front. -/
def QuotesEscaped (quote : Char) (body : List Char) : Prop :=
  ∀ before after, body = before ++ quote :: after → trailingBackslashes before % 2 = 1

/-- The source of a string literal, with what follows it: it runs from an opening quote
through the first quote of the same kind that no backslash escapes, or else to the end. -/
def IsLiteral (source after : List Char) : Prop :=
  ∃ quote body, (quote = '"' ∨ quote = '\'') ∧ QuotesEscaped quote body ∧
    (source = quote :: (body ++ [quote]) ∧ trailingBackslashes body % 2 = 0 ∨
      source = quote :: body ∧ after = [])

theorem trailingBackslashes_replicate (held : Nat) :
    trailingBackslashes (List.replicate held '\\') = held := by
  induction held with
  | zero => rfl
  | succ held ih =>
      rw [trailingBackslashes] at ih ⊢
      rw [List.replicate_succ', List.foldl_append, ih]
      rfl

theorem trailingBackslashes_append_cons {c : Char} (other : c ≠ '\\') (front back : List Char) :
    trailingBackslashes (front ++ c :: back) = trailingBackslashes back := by
  rw [trailingBackslashes, List.foldl_append, List.foldl_cons, if_neg other]
  rfl

theorem quotesEscaped_replicate {quote : Char} (isQuote : quote ≠ '\\') (held : Nat) :
    QuotesEscaped quote (List.replicate held '\\') := by
  intro before after same
  have member : quote ∈ List.replicate held '\\' := by
    rw [same]
    exact List.mem_append_right _ List.mem_cons_self
  exact absurd (List.eq_of_mem_replicate member) isQuote

/-- A run of backslashes and a character behind it go in front of a body, if the
character is no quote or the run is odd. -/
theorem QuotesEscaped.replicate_append_cons {quote c : Char} {held : Nat} {body : List Char}
    (escaped : QuotesEscaped quote body) (isQuote : quote ≠ '\\') (other : c ≠ '\\')
    (odd : c = quote → held % 2 = 1) :
    QuotesEscaped quote (List.replicate held '\\' ++ c :: body) := by
  intro before after same
  rcases List.append_eq_append_iff.mp same with ⟨between, rfl, rest⟩ | ⟨between, run, rest⟩
  · cases between with
    | nil =>
        obtain ⟨rfl, -⟩ := List.cons.inj rest
        rw [List.append_nil, trailingBackslashes_replicate]
        exact odd rfl
    | cons d between =>
        obtain ⟨rfl, inBody⟩ := List.cons.inj rest
        rw [trailingBackslashes_append_cons other]
        exact escaped between after inBody
  · cases between with
    | nil =>
        obtain ⟨rfl, -⟩ := List.cons.inj rest
        rw [List.append_nil] at run
        rw [← run, trailingBackslashes_replicate]
        exact odd rfl
    | cons d between =>
        obtain ⟨rfl, -⟩ := List.cons.inj rest
        exact quotesEscaped_replicate isQuote held before between run

/-- No closing quote stands inside an escaped body. -/
theorem QuotesEscaped.length_le {quote : Char} {body other after after' : List Char}
    (escaped : QuotesEscaped quote other) (closed : trailingBackslashes body % 2 = 0)
    (same : body ++ quote :: after = other ++ after') : other.length ≤ body.length := by
  rcases List.append_eq_append_iff.mp same with ⟨between, rfl, rest⟩ | ⟨between, rfl, -⟩
  · cases between with
    | nil => simp
    | cons d between =>
        obtain ⟨rfl, -⟩ := List.cons.inj rest
        have odd := escaped body between rfl
        omega
  · simp

/-- A string literal that stands at one place of a text stands there once. -/
theorem IsLiteral.unique {source after source' after' : List Char}
    (first : IsLiteral source after) (second : IsLiteral source' after')
    (same : source ++ after = source' ++ after') : source = source' := by
  obtain ⟨quote, body, -, escaped, ends⟩ := first
  obtain ⟨quote', body', -, escaped', ends'⟩ := second
  rcases ends with ⟨rfl, closed⟩ | ⟨rfl, rfl⟩ <;> rcases ends' with ⟨rfl, closed'⟩ | ⟨rfl, rfl⟩ <;>
    simp only [List.cons_append, List.append_assoc, List.nil_append, List.append_nil] at same <;>
    obtain ⟨rfl, inside⟩ := List.cons.inj same
  · have shorter := escaped'.length_le closed inside
    have longer := escaped.length_le closed' inside.symm
    have equal := (List.append_inj inside (Nat.le_antisymm longer shorter)).1
    rw [equal]
  · have impossible := escaped'.length_le closed (inside.trans (List.append_nil _).symm)
    have whole := congrArg List.length inside
    simp only [List.length_append, List.length_cons] at whole
    omega
  · have impossible := escaped.length_le closed' (inside.symm.trans (List.append_nil _).symm)
    have whole := congrArg List.length inside
    simp only [List.length_append, List.length_cons] at whole
    omega
  · rw [inside]

/-- What is read after an opening quote, behind backslashes that are still held, is the
inside of a literal with its closing quote, or the rest of the text. -/
theorem Literal.read_spans {quote : Char} (isQuote : quote ≠ '\\') (held : Nat) (cs : List Char) :
    ∃ body, QuotesEscaped quote body ∧
      (List.replicate held '\\' ++ (Literal.read quote held cs).source = body ++ [quote] ∧
          trailingBackslashes body % 2 = 0 ∨
        List.replicate held '\\' ++ (Literal.read quote held cs).source = body ∧
          (Literal.read quote held cs).rest = []) := by
  induction cs generalizing held with
  | nil =>
      refine ⟨List.replicate held '\\', quotesEscaped_replicate isQuote held, Or.inr ⟨?_, rfl⟩⟩
      rw [Literal.read, List.append_nil]
  | cons c cs ih =>
      rw [Literal.read]
      by_cases isBackslash : c = '\\'
      · subst isBackslash
        rw [if_pos rfl]
        have next := ih (held + 1)
        rw [List.replicate_succ'] at next
        simpa using next
      · rw [if_neg isBackslash]
        obtain ⟨body, escaped, spans⟩ := ih 0
        -- The character comes behind the held backslashes and in front of what is read next.
        have onward (odd : c = quote → held % 2 = 1) :
            ∃ body, QuotesEscaped quote body ∧
              (List.replicate held '\\' ++ c :: (Literal.read quote 0 cs).source = body ++ [quote] ∧
                  trailingBackslashes body % 2 = 0 ∨
                List.replicate held '\\' ++ c :: (Literal.read quote 0 cs).source = body ∧
                  (Literal.read quote 0 cs).rest = []) := by
          refine ⟨List.replicate held '\\' ++ c :: body,
            escaped.replicate_append_cons isQuote isBackslash odd, ?_⟩
          simpa [trailingBackslashes_append_cons isBackslash] using spans
        split
        · rename_i isClosing
          subst isClosing
          split
          · rename_i even
            refine ⟨List.replicate held '\\', quotesEscaped_replicate isQuote held,
              Or.inl ⟨rfl, ?_⟩⟩
            rw [trailingBackslashes_replicate, even]
          · rename_i odd
            exact onward fun _ => by omega
        · rename_i noQuote
          exact onward fun same => absurd same noQuote

theorem isLiteral_read {quote : Char} (isQuote : quote = '"' ∨ quote = '\'') (cs : List Char) :
    IsLiteral (quote :: (Literal.read quote 0 cs).source) (Literal.read quote 0 cs).rest := by
  have noBackslash : quote ≠ '\\' := by
    rcases isQuote with rfl | rfl <;> decide
  obtain ⟨body, escaped, spans⟩ := Literal.read_spans noBackslash 0 cs
  rw [List.replicate_zero, List.nil_append] at spans
  refine ⟨quote, body, isQuote, escaped, ?_⟩
  rcases spans with ⟨closed, even⟩ | ⟨opened, finished⟩
  · exact Or.inl ⟨congrArg (quote :: ·) closed, even⟩
  · exact Or.inr ⟨congrArg (quote :: ·) opened, finished⟩

/-! ## Slices -/

/-- A token occupies a slice of the text, which starts at the token's position. It is the
token's text, or the whole of a string literal. -/
def Token.Occupies (input : List Char) (token : Token) (source : List Char) : Prop :=
  ∃ before after, input = before ++ source ++ after ∧ byteLength before = token.position ∧
    if token.kind = .stringLiteral then IsLiteral source after else source = token.text.toList

theorem Token.Occupies.unique {input : List Char} {token : Token} {source source' : List Char}
    (first : token.Occupies input source) (second : token.Occupies input source') :
    source = source' := by
  obtain ⟨before, after, rfl, starts, slice⟩ := first
  obtain ⟨before', after', same, starts', slice'⟩ := second
  rw [List.append_assoc, List.append_assoc] at same
  have rest := (append_inj_of_byteLength same (starts.trans starts'.symm)).2
  split at slice
  · rename_i isLiteral
    rw [if_pos isLiteral] at slice'
    exact slice.unique slice' rest
  · rename_i plain
    rw [if_neg plain] at slice'
    rw [slice, slice']

/-- A byte offset is outside of all slices that some tokens occupy. -/
def Outside (input : List Char) (tokens : List Token) (position : Nat) : Prop :=
  ∀ token ∈ tokens, ∀ source, token.Occupies input source →
    position < token.position ∨ token.position + byteLength source ≤ position

/-- A character that stands between tokens and is not reported. -/
def IsLayout (c : Char) : Prop :=
  isBlank c = true ∨ c = ','

/-- Tokens and stray characters account for a text from some offset on.

Positions increase strictly, and the last token, and no other, is the end marker at the
length of the text. Every token occupies one slice, and the slices do not overlap. A
character outside of them is listed as a stray exactly if it is no layout, and every stray
is such a character. -/
structure Lexed.Covers (input : List Char) (start : Nat) (lexed : Lexed) : Prop where
  tokens_start : ∀ token ∈ lexed.tokens, start ≤ token.position
  tokens_increase : lexed.tokens.Pairwise fun first second => first.position < second.position
  tokens_end : ∃ front, lexed.tokens = front ++ [⟨.endOfInput, "", byteLength input⟩] ∧
    ∀ token ∈ front, token.kind ≠ .endOfInput
  slices : ∀ token ∈ lexed.tokens, ∃ source, token.Occupies input source ∧
    ∀ other, token.Occupies input other → other = source
  slices_apart : lexed.tokens.Pairwise fun first second => ∀ source,
    first.Occupies input source → first.position + byteLength source ≤ second.position
  strays_start : ∀ stray ∈ lexed.strays, start ≤ stray.position
  strays_increase : lexed.strays.Pairwise fun first second => first.position < second.position
  strays_stand : ∀ stray ∈ lexed.strays, CharAt input stray.character stray.position ∧
    Outside input lexed.tokens stray.position
  outside : ∀ c position, start ≤ position → CharAt input c position →
    Outside input lexed.tokens position → (⟨c, position⟩ ∈ lexed.strays ↔ ¬ IsLayout c)

namespace Lexed.Covers

variable {input : List Char} {start : Nat} {lexed : Lexed}

/-- Where the text ends there is only the end marker. -/
theorem end_marker (input : List Char) :
    Covers input (byteLength input) ⟨[⟨.endOfInput, "", byteLength input⟩], []⟩ where
  tokens_start token member := by
    obtain rfl := List.mem_singleton.mp member
    exact Nat.le_refl _
  tokens_increase := List.pairwise_singleton _ _
  tokens_end := ⟨[], rfl, fun token member => by cases member⟩
  slices token member := by
    rw [List.mem_singleton.mp member]
    have occupies : Token.Occupies input ⟨.endOfInput, "", byteLength input⟩ [] :=
      ⟨input, [], by simp, rfl, rfl⟩
    exact ⟨[], occupies, fun other alsoOccupies => alsoOccupies.unique occupies⟩
  slices_apart := List.pairwise_singleton _ _
  strays_start stray member := by cases member
  strays_increase := List.Pairwise.nil
  strays_stand stray member := by cases member
  outside c position behind stands := absurd stands.lt_byteLength (Nat.not_lt.mpr behind)

/-- Layout goes in front. -/
theorem cons_layout {c : Char} (stands : CharAt input c start) (layout : IsLayout c)
    (covered : Covers input (start + c.utf8Size) lexed) : Covers input start lexed := by
  have size := c.utf8Size_pos
  refine { covered with tokens_start := ?_, strays_start := ?_, outside := ?_ }
  · intro token member
    exact Nat.le_trans (Nat.le_add_right _ _) (covered.tokens_start token member)
  · intro stray member
    exact Nat.le_trans (Nat.le_add_right _ _) (covered.strays_start stray member)
  · intro d position behind other apart
    rcases stands.eq_or_le other behind with ⟨rfl, rfl⟩ | past
    · refine iff_of_false (fun listed => ?_) (fun strange => strange layout)
      have later := covered.strays_start _ listed
      simp only at later
      omega
    · exact covered.outside d position past other apart

/-- A stray character goes in front. -/
theorem cons_stray {c : Char} (stands : CharAt input c start) (strange : ¬ IsLayout c)
    (covered : Covers input (start + c.utf8Size) lexed) :
    Covers input start ⟨lexed.tokens, ⟨c, start⟩ :: lexed.strays⟩ := by
  have size := c.utf8Size_pos
  refine { covered with
    tokens_start := ?_, strays_start := ?_, strays_increase := ?_, strays_stand := ?_,
    outside := ?_ }
  · intro token member
    exact Nat.le_trans (Nat.le_add_right _ _) (covered.tokens_start token member)
  · intro stray member
    rcases List.mem_cons.mp member with rfl | member
    · exact Nat.le_refl _
    · exact Nat.le_trans (Nat.le_add_right _ _) (covered.strays_start stray member)
  · refine List.pairwise_cons.mpr ⟨fun stray member => ?_, covered.strays_increase⟩
    have later := covered.strays_start stray member
    simp only
    omega
  · intro stray member
    rcases List.mem_cons.mp member with rfl | member
    · refine ⟨stands, fun token isToken source occupies => Or.inl ?_⟩
      have later := covered.tokens_start token isToken
      simp only
      omega
    · exact covered.strays_stand stray member
  · intro d position behind other apart
    rcases stands.eq_or_le other behind with ⟨rfl, rfl⟩ | past
    · exact iff_of_true List.mem_cons_self strange
    · have different : (⟨d, position⟩ : Stray) ≠ ⟨c, start⟩ := by
        intro same
        rw [Stray.mk.injEq] at same
        omega
      rw [List.mem_cons, or_iff_right different]
      exact covered.outside d position past other apart

/-- A token goes in front, together with the slice that it occupies. -/
theorem cons_token {token : Token} {source : List Char} (starts : token.position = start)
    (occupies : token.Occupies input source) (nonempty : source ≠ [])
    (noMarker : token.kind ≠ .endOfInput)
    (covered : Covers input (start + byteLength source) lexed) :
    Covers input start ⟨token :: lexed.tokens, lexed.strays⟩ := by
  have length := byteLength_pos nonempty
  have outside_tail {position : Nat} (outside : Outside input (token :: lexed.tokens) position) :
      Outside input lexed.tokens position :=
    fun other member => outside other (List.mem_cons_of_mem _ member)
  obtain ⟨front, ends, noMarkers⟩ := covered.tokens_end
  refine ⟨?_, ?_, ⟨token :: front, by rw [ends]; rfl, ?_⟩, ?_, ?_, ?_, covered.strays_increase,
    ?_, ?_⟩
  · intro other member
    rcases List.mem_cons.mp member with rfl | member
    · exact Nat.le_of_eq starts.symm
    · exact Nat.le_trans (Nat.le_add_right _ _) (covered.tokens_start other member)
  · refine List.pairwise_cons.mpr ⟨fun other member => ?_, covered.tokens_increase⟩
    have behind := covered.tokens_start other member
    omega
  · intro other member
    rcases List.mem_cons.mp member with rfl | member
    · exact noMarker
    · exact noMarkers other member
  · intro other member
    rcases List.mem_cons.mp member with rfl | member
    · exact ⟨source, occupies, fun _ alsoOccupies => alsoOccupies.unique occupies⟩
    · exact covered.slices other member
  · refine List.pairwise_cons.mpr ⟨fun other member slice alsoOccupies => ?_,
      covered.slices_apart⟩
    rw [alsoOccupies.unique occupies, starts]
    exact covered.tokens_start other member
  · intro stray member
    exact Nat.le_trans (Nat.le_add_right _ _) (covered.strays_start stray member)
  · intro stray member
    obtain ⟨stands, apart⟩ := covered.strays_stand stray member
    refine ⟨stands, fun other isToken slice alsoOccupies => ?_⟩
    rcases List.mem_cons.mp isToken with rfl | isToken
    · rw [alsoOccupies.unique occupies, starts]
      exact Or.inr (covered.strays_start stray member)
    · exact apart other isToken slice alsoOccupies
  · intro c position behind stands apart
    have past : start + byteLength source ≤ position := by
      rcases apart token List.mem_cons_self source occupies with early | late <;> omega
    exact covered.outside c position past stands (outside_tail apart)

end Lexed.Covers

/-! ## The walk over the pieces -/

/-- What a piece is, given what the lexer left behind it. -/
def Piece.IsRead (rest : List Char) : Piece → Prop
  | layout c => IsLayout c
  | stray c => ¬ IsLayout c
  | token kind text source => source ≠ [] ∧ kind ≠ .endOfInput ∧
      if kind = .stringLiteral then IsLiteral source rest else source = text

theorem Piece.isRead_verbatim {kind : TokenKind} {source rest : List Char}
    (nonempty : source ≠ []) (noMarker : kind ≠ .endOfInput) (plain : kind ≠ .stringLiteral) :
    (verbatim kind source).IsRead rest := by
  refine ⟨nonempty, noMarker, ?_⟩
  rw [if_neg plain]

theorem ofWord_ne (word : List Char) :
    TokenKind.ofWord word ≠ .endOfInput ∧ TokenKind.ofWord word ≠ .stringLiteral := by
  rw [TokenKind.ofWord]
  split <;> simp

theorem ofPair?_ne {first second : List Char} {kind : TokenKind}
    (paired : TokenKind.ofPair? first second = some kind) :
    kind ≠ .endOfInput ∧ kind ≠ .stringLiteral := by
  rw [TokenKind.ofPair?.eq_def] at paired
  split at paired <;> cases paired <;> simp

theorem Piece.isRead_word (first : Char) (cs : List Char) :
    (word first cs).1.IsRead (word first cs).2 := by
  rw [word]
  split
  · rename_i kind paired
    obtain ⟨noMarker, plain⟩ := ofPair?_ne paired
    exact isRead_verbatim (by simp) noMarker plain
  · obtain ⟨noMarker, plain⟩ := ofWord_ne (first :: cs.takeWhile isWordChar)
    exact isRead_verbatim (List.cons_ne_nil _ _) noMarker plain

theorem Piece.isRead_number (first : Char) (cs : List Char) :
    (number first cs).1.IsRead (number first cs).2 := by
  rw [number]
  refine isRead_verbatim (List.cons_ne_nil _ _) ?_ ?_ <;> split <;> simp

theorem Piece.isRead_tag (cs : List Char) : (tag cs).1.IsRead (tag cs).2 := by
  rw [tag]
  split
  · intro layout
    rcases layout with blank | comma
    · exact absurd blank (by decide)
    · exact absurd comma (by decide)
  · exact isRead_verbatim (List.cons_ne_nil _ _) (by simp) (by simp)

theorem Piece.isRead_literal {quote : Char} (isQuote : quote = '"' ∨ quote = '\'')
    (cs : List Char) : (literal quote cs).1.IsRead (literal quote cs).2 := by
  refine ⟨List.cons_ne_nil _ _, by simp, ?_⟩
  rw [if_pos rfl]
  exact isLiteral_read isQuote cs

/-- The lexer calls a character layout exactly if it is, and gives every token its
slice. -/
theorem Piece.isRead_next (first : Char) (cs : List Char) :
    (next first cs).1.IsRead (next first cs).2 := by
  rw [next]
  split
  · exact Or.inl ‹_›
  split
  · exact Or.inr ‹_›
  split
  · exact isRead_verbatim (List.cons_ne_nil _ _) (by simp) (by simp)
  split
  · exact isRead_verbatim (List.cons_ne_nil _ _) (by simp) (by simp)
  split
  · exact isRead_tag cs
  split
  · exact isRead_literal ‹_› cs
  split
  · exact isRead_word first cs
  split
  · exact isRead_number first cs
  · rename_i noBlank noComma _ _ _ _ _ _
    intro layout
    rcases layout with blank | comma
    · exact noBlank blank
    · exact noComma comma

/-- The walk over the pieces of what is left covers it, whatever was read before. -/
theorem ofPieces_covers (before cs : List Char) :
    (Lexed.ofPieces (byteLength before) (Piece.all cs)).Covers (before ++ cs)
      (byteLength before) := by
  induction cs using Piece.all.induct generalizing before with
  | case1 =>
      rw [Piece.all, Lexed.ofPieces, List.append_nil]
      exact .end_marker before
  | case2 first cs ih =>
      have source := Piece.next_source first cs
      have read := Piece.isRead_next first cs
      have covered := ih (before ++ (Piece.next first cs).1.source)
      rw [List.append_assoc, source, byteLength_append] at covered
      rw [Piece.all]
      generalize Piece.next first cs = piece at *
      obtain ⟨piece, rest⟩ := piece
      rw [← source] at covered ⊢
      cases piece with
      | layout c =>
          rw [Lexed.ofPieces]
          exact covered.cons_layout ⟨before, rest, rfl, rfl⟩ read
      | stray c =>
          rw [Lexed.ofPieces]
          exact covered.cons_stray ⟨before, rest, rfl, rfl⟩ read
      | token kind text slice =>
          obtain ⟨nonempty, noMarker, spans⟩ := read
          have occupies : Token.Occupies (before ++ (slice ++ rest))
              ⟨kind, String.ofList text, byteLength before⟩ slice := by
            refine ⟨before, rest, (List.append_assoc _ _ _).symm, rfl, ?_⟩
            rw [String.toList_ofList]
            exact spans
          rw [Lexed.ofPieces]
          exact covered.cons_token rfl occupies nonempty noMarker

/-- The lexer reads a token where it stands, as a piece of the text from there on. -/
theorem exists_next_of_mem_ofPieces (before cs : List Char) {token : Token}
    (member : token ∈ (Lexed.ofPieces (byteLength before) (Piece.all cs)).tokens)
    (noEnd : token.kind ≠ .endOfInput) :
    ∃ front first after source, before ++ cs = front ++ first :: after ∧
      byteLength front = token.position ∧
      (Piece.next first after).1 = .token token.kind token.text.toList source := by
  induction cs using Piece.all.induct generalizing before with
  | case1 =>
      rw [Piece.all] at member
      obtain rfl := List.mem_singleton.mp member
      exact absurd rfl noEnd
  | case2 first cs ih =>
      rw [Piece.all] at member
      have later (inTail : token ∈ (Lexed.ofPieces
          (byteLength before + byteLength (Piece.next first cs).1.source)
          (Piece.all (Piece.next first cs).2)).tokens) :
          ∃ front second after source, before ++ first :: cs = front ++ second :: after ∧
            byteLength front = token.position ∧
            (Piece.next second after).1 = .token token.kind token.text.toList source := by
        rw [← byteLength_append] at inTail
        have found := ih _ inTail
        rwa [List.append_assoc, Piece.next_source] at found
      cases isPiece : (Piece.next first cs).1 with
      | layout c =>
          rw [isPiece] at member later
          exact later member
      | stray c =>
          rw [isPiece] at member later
          exact later member
      | token kind text source =>
          rw [isPiece] at member later
          rcases List.mem_cons.mp member with rfl | member
          · refine ⟨before, first, cs, source, rfl, rfl, ?_⟩
            rw [isPiece, String.toList_ofList]
          · exact later member

theorem exists_next_of_mem_tokenize {input : String} {token : Token}
    (member : token ∈ (tokenize input).tokens) (noEnd : token.kind ≠ .endOfInput) :
    ∃ before first after source, input.toList = before ++ first :: after ∧
      byteLength before = token.position ∧
      (Piece.next first after).1 = .token token.kind token.text.toList source :=
  exists_next_of_mem_ofPieces [] input.toList member noEnd

/-- The lexer loses no character of a text. -/
theorem tokenize_covers (input : String) : (tokenize input).Covers input.toList 0 :=
  ofPieces_covers [] input.toList

end TaskQuery

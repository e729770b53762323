/-
# The first end marker

Reading tokens goes no further than the first end marker. No rule takes a marker, whichever
tokens it was given, so nothing behind one is looked at, and tokens without a marker are read
like the same tokens with one behind the last of them.

To show this, the reading of tokens in front of a marker is laid beside the reading of these
tokens alone. Both give the same values and leave the same tokens. Where the one stands in
front of the marker, the other one has no token left, and both report an early end of the
text; the place that they give is all they can differ in.
-/

import Mathlib.Data.List.TakeWhile
import TaskQuery.Proofs.AlikeTokens
import TaskQuery.Proofs.Reports

namespace TaskQuery

/-! ## Early ends -/

/-- An early end of the text is reported at another place. -/
def Diagnostic.moveEnd (position : Nat) : Diagnostic → Diagnostic
  | unexpectedEndOfInput _ => .unexpectedEndOfInput position
  | diagnostic => diagnostic

/-- Every early end of the text is reported at one place. -/
def Outcome.moveEnd (position : Nat) (outcome : Outcome) : Outcome :=
  ⟨outcome.query, outcome.diagnostics.map (Diagnostic.moveEnd position)⟩

theorem Diagnostic.moveEnd_moveEnd (position other : Nat) (diagnostic : Diagnostic) :
    (diagnostic.moveEnd other).moveEnd position = diagnostic.moveEnd position := by
  cases diagnostic <;> rfl

theorem Outcome.moveEnd_moveEnd (position other : Nat) (outcome : Outcome) :
    (outcome.moveEnd other).moveEnd position = outcome.moveEnd position := by
  have moves : Diagnostic.moveEnd position ∘ Diagnostic.moveEnd other =
      Diagnostic.moveEnd position :=
    funext (Diagnostic.moveEnd_moveEnd position other)
  rw [moveEnd, moveEnd, moveEnd, List.map_map, moves]

theorem Diagnostic.moveEnd_unexpected {token : Token} (noEnd : token.kind ≠ .endOfInput)
    (position : Nat) : (unexpected token).moveEnd position = unexpected token := by
  rw [unexpected, if_neg noEnd]
  rfl

theorem Vocabulary.map_moveEnd_fieldDiagnostics (vocabulary : Vocabulary) (field : String)
    (position : Nat) : (vocabulary.fieldDiagnostics field).map (Diagnostic.moveEnd position) =
      vocabulary.fieldDiagnostics field := by
  rw [fieldDiagnostics]
  split <;> rfl

/-! ## Tokens up to an end -/

/-- The others start with the tokens, none of which is a marker. Behind them the text ends at
`position`: they end there themselves, or a marker stands there and anything may follow. -/
inductive EndsAt (endPosition position : Nat) : List Token → List Token → Prop
  | textEnd (place : endPosition = position) : EndsAt endPosition position [] []
  | marker {marker : Token} (isEnd : marker.kind = .endOfInput)
      (place : marker.position = position) (behind : List Token) :
      EndsAt endPosition position [] (marker :: behind)
  | cons {token : Token} {tokens others : List Token} (noEnd : token.kind ≠ .endOfInput)
      (tails : EndsAt endPosition position tokens others) :
      EndsAt endPosition position (token :: tokens) (token :: others)

variable {vocabulary : Vocabulary} {start endPosition position : Nat} {tokens others : List Token}

/-- Where the tokens end, an early end is reported. -/
theorem EndsAt.unexpectedFront (isEnd : EndsAt endPosition position [] others) :
    Diagnostic.unexpectedFront endPosition others = .unexpectedEndOfInput position := by
  cases isEnd with
  | textEnd place => exact congrArg Diagnostic.unexpectedEndOfInput place
  | @marker marker isEnd place behind =>
      have early : Diagnostic.unexpected marker = .unexpectedEndOfInput position := by
        rw [Diagnostic.unexpected, if_pos isEnd, place]
      exact early

/-! ## Reading up to an end -/

/-- Tokens that stand for themselves and are no markers, up to an end at `position`. -/
def TokenRelation.upToEnd (vocabulary : Vocabulary) (endPosition position : Nat) :
    TokenRelation vocabulary vocabulary where
  token word other := word = other ∧ word.kind ≠ .endOfInput
  ended := EndsAt endPosition position []
  kinds := by
    rintro word _ ⟨rfl, -⟩
    rfl
  kind_of_ended := by
    rintro marker behind (_ | ⟨isEnd, place⟩)
    exact isEnd
  isStatusWord_eq := by
    rintro field _ ⟨rfl, -⟩ -
    rfl

theorem EndsAt.upToEnd (ends : EndsAt endPosition position tokens others) :
    (TokenRelation.upToEnd vocabulary endPosition position).Tokens tokens others := by
  induction ends with
  | textEnd place => exact .textEnd (.textEnd place)
  | marker isEnd place behind => exact .marker (.marker isEnd place behind)
  | cons noEnd _ ih => exact .cons ⟨rfl, noEnd⟩ ih

/-- The rules report the same, but for the place of an early end. -/
def ReportRelation.moveEnd (vocabulary : Vocabulary) (start endPosition position : Nat) :
    ReportRelation (.upToEnd vocabulary endPosition position) start endPosition where
  tells diagnostics others := others = diagnostics.map (Diagnostic.moveEnd position)
  silence := rfl
  append := by
    rintro front _ back _ rfl rfl
    rw [List.map_append]
  textEnd isEnd := congrArg (fun diagnostic => [diagnostic]) isEnd.unexpectedFront
  unexpected := by
    rintro word _ ⟨rfl, noEnd⟩
    rw [List.map_singleton, Diagnostic.moveEnd_unexpected noEnd]
  missingTarget := by
    rintro word _ relation ⟨rfl, -⟩ -
    rfl
  missingValue := by
    rintro field _ sign _ operator ⟨rfl, -⟩ - ⟨rfl, -⟩ -
    rfl
  missingOperator := by
    rintro field _ ⟨rfl, -⟩ -
    rfl
  unclosedParenthesis := by
    rintro opening _ ⟨rfl, -⟩ -
    rfl
  duplicateClause _ := rfl
  field := by
    rintro field _ ⟨rfl, -⟩ -
    exact (vocabulary.map_moveEnd_fieldDiagnostics field.text position).symm

/-- Tokens are read up to an end, and that end is where an early end is reported. -/
theorem readQuery_eq_moveEnd (ends : EndsAt endPosition position tokens others) :
    readQuery vocabulary endPosition others =
      (readQuery vocabulary start tokens).moveEnd position := by
  have readsAlike : ReadsAlike Eq vocabulary vocabulary :=
    ⟨fun _ => rfl, fun same => congrArg _ same, fun _ => rfl⟩
  let values : ValueRelation (.upToEnd vocabulary endPosition position) :=
    .alike readsAlike fun words _ => congrArg _ words.1
  obtain ⟨queries, tells⟩ := readQuery_related values
    (.moveEnd vocabulary start endPosition position) ends.upToEnd
  rw [Outcome.moveEnd, queries.alike.eq, ← tells]

/-! ## Lists of tokens -/

theorem endsAt_self (noEnd : ∀ token ∈ tokens, token.kind ≠ .endOfInput) (position : Nat) :
    EndsAt position position tokens tokens := by
  induction tokens with
  | nil => exact .textEnd rfl
  | cons token tokens ih =>
      obtain ⟨noEndHere, noEndLater⟩ := List.forall_mem_cons.mp noEnd
      exact .cons noEndHere (ih noEndLater)

theorem endsAt_append_marker (noEnd : ∀ token ∈ tokens, token.kind ≠ .endOfInput)
    {marker : Token} (isEnd : marker.kind = .endOfInput) (endPosition : Nat)
    (behind : List Token) :
    EndsAt endPosition marker.position tokens (tokens ++ marker :: behind) := by
  induction tokens with
  | nil => exact .marker isEnd rfl behind
  | cons token tokens ih =>
      obtain ⟨noEndHere, noEndLater⟩ := List.forall_mem_cons.mp noEnd
      exact .cons noEndHere (ih noEndLater)

/-- The tokens in front of the first end marker. -/
def beforeEnd (tokens : List Token) : List Token :=
  tokens.takeWhile fun token => token.kind ≠ .endOfInput

/-- The first end marker, or one behind the last token when there is none. -/
def firstEnd (tokens : List Token) : Token :=
  (tokens.find? fun token => token.kind = .endOfInput).getD ⟨.endOfInput, "", endOfTokens tokens⟩

theorem kind_ne_of_mem_beforeEnd {token : Token} (member : token ∈ beforeEnd tokens) :
    token.kind ≠ .endOfInput := by
  have taken := List.mem_takeWhile_imp member
  simpa using taken

theorem kind_firstEnd (tokens : List Token) : (firstEnd tokens).kind = .endOfInput := by
  rw [firstEnd]
  cases found : tokens.find? fun token => token.kind = .endOfInput with
  | none => rfl
  | some marker =>
      have isEnd := List.find?_some found
      simpa using isEnd

/-- The tokens are those in front of the first end marker, and the marker if it is there with
what stands behind it. -/
theorem eq_beforeEnd_or_append (tokens : List Token) :
    tokens = beforeEnd tokens ∧ (firstEnd tokens).position = endOfTokens tokens ∨
      ∃ behind, tokens = beforeEnd tokens ++ firstEnd tokens :: behind := by
  rw [beforeEnd, firstEnd]
  cases found : tokens.find? fun token => token.kind = .endOfInput with
  | none =>
      have noEnd := List.find?_eq_none.mp found
      refine Or.inl ⟨(List.takeWhile_eq_self_iff.mpr fun token member => ?_).symm, rfl⟩
      simpa using noEnd token member
  | some marker =>
      obtain ⟨isEnd, front, behind, rfl, noEnd⟩ := List.find?_eq_some_iff_append.mp found
      refine Or.inr ⟨behind, ?_⟩
      have taken : (front ++ marker :: behind).takeWhile
          (fun token => decide (token.kind ≠ .endOfInput)) = front := by
        rw [List.takeWhile_append_of_pos fun token member => by simpa using noEnd token member,
          List.takeWhile_cons_of_neg (by simpa using isEnd), List.append_nil]
      rw [taken]
      rfl

/-- Without a marker, tokens end behind the last of them. -/
theorem parseTokens_of_noEnd (noEnd : ∀ token ∈ tokens, token.kind ≠ .endOfInput) :
    Query.parseTokens vocabulary tokens =
      (readQuery vocabulary 0 tokens).moveEnd (endOfTokens tokens) := by
  rw [Query.parseTokens, endOfTokens]
  cases isLast : tokens.getLast? with
  | none =>
      obtain rfl := List.getLast?_eq_none_iff.mp isLast
      rfl
  | some last =>
      have noEndLast := noEnd last (List.mem_of_getLast? isLast)
      dsimp only
      rw [if_neg noEndLast, if_neg noEndLast]
      exact readQuery_eq_moveEnd (endsAt_self noEnd _)

/-- Nothing behind a marker is read. -/
theorem parseTokens_append_end (noEnd : ∀ token ∈ tokens, token.kind ≠ .endOfInput)
    {marker : Token} (isEnd : marker.kind = .endOfInput) (behind : List Token) :
    Query.parseTokens vocabulary (tokens ++ marker :: behind) =
      (readQuery vocabulary 0 tokens).moveEnd marker.position := by
  rcases List.eq_nil_or_concat behind with rfl | ⟨earlier, last, rfl⟩
  · rw [Query.parseTokens, List.getLast?_concat, List.dropLast_concat]
    dsimp only
    rw [if_pos isEnd]
    exact readQuery_eq_moveEnd (endsAt_self noEnd _)
  · have regroup : tokens ++ marker :: earlier.concat last =
        (tokens ++ marker :: earlier) ++ [last] := by
      simp
    rw [regroup, Query.parseTokens, List.getLast?_concat, List.dropLast_concat, ← regroup]
    dsimp only
    split
    · exact readQuery_eq_moveEnd (endsAt_append_marker noEnd isEnd _ _)
    · exact readQuery_eq_moveEnd (endsAt_append_marker noEnd isEnd _ _)

theorem parseTokens_eq_moveEnd (vocabulary : Vocabulary) (tokens : List Token) :
    Query.parseTokens vocabulary tokens =
      (readQuery vocabulary 0 (beforeEnd tokens)).moveEnd (firstEnd tokens).position := by
  have noEnd : ∀ token ∈ beforeEnd tokens, token.kind ≠ .endOfInput :=
    fun _ => kind_ne_of_mem_beforeEnd
  rcases eq_beforeEnd_or_append tokens with ⟨whole, place⟩ | ⟨behind, whole⟩
  · rw [← whole] at noEnd ⊢
    rw [parseTokens_of_noEnd noEnd, place]
  · have read : Query.parseTokens vocabulary (beforeEnd tokens ++ firstEnd tokens :: behind) = _ :=
      parseTokens_append_end noEnd (kind_firstEnd tokens) behind
    rwa [← whole] at read

/-- Any tokens are read as far as their first end marker, and no further. Where they have none,
one is put behind the last of them. With the marker in another place, and whatever behind it,
the same query is read and the same is reported, except for the place of an early end. All
that is reported is about the tokens up to the marker. -/
theorem parseTokens_reads_to_firstEnd (vocabulary : Vocabulary) (tokens : List Token) :
    let front := beforeEnd tokens
    let marker := firstEnd tokens
    Query.parseTokens vocabulary tokens = Query.parseTokens vocabulary (front ++ [marker]) ∧
      (∀ position behind,
        Query.parseTokens vocabulary (front ++ { marker with position } :: behind) =
          (Query.parseTokens vocabulary tokens).moveEnd position) ∧
      Reports vocabulary marker.position (front ++ [marker])
        (Query.parseTokens vocabulary tokens).diagnostics := by
  intro front marker
  have noEnd : ∀ token ∈ front, token.kind ≠ .endOfInput := fun _ => kind_ne_of_mem_beforeEnd
  have isEnd : marker.kind = .endOfInput := kind_firstEnd tokens
  have whole : Query.parseTokens vocabulary tokens =
      (readQuery vocabulary 0 front).moveEnd marker.position :=
    parseTokens_eq_moveEnd vocabulary tokens
  have cut : Query.parseTokens vocabulary (front ++ [marker]) =
      (readQuery vocabulary 0 front).moveEnd marker.position :=
    parseTokens_append_end noEnd isEnd []
  refine ⟨whole.trans cut.symm, fun position behind => ?_, ?_⟩
  · have isEndMoved : ({ marker with position } : Token).kind = .endOfInput := isEnd
    have moved : Query.parseTokens vocabulary (front ++ { marker with position } :: behind) =
        (readQuery vocabulary 0 front).moveEnd position :=
      parseTokens_append_end noEnd isEndMoved behind
    rw [moved, whole, Outcome.moveEnd_moveEnd]
  · have reports := Query.parseTokens_reports vocabulary (front ++ [marker])
    rw [endOfTokens, List.getLast?_concat] at reports
    dsimp only at reports
    rwa [if_pos isEnd, cut, ← whole] at reports

end TaskQuery

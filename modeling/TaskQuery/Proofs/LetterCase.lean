/-
# Letter case in queries

A query can be written in any letter case. Reading commutes with lowering its ASCII letters:
no class of characters that a scanner looks for tells a capital from its small letter, and
the words of the language are looked up lowered. So a text cut into tokens and lowered
afterwards gives what the lowered text gives, and two texts that differ in the case of their
letters come apart at the same places into tokens of the same kinds.

What is left of a spelling is in the texts of tokens, and the rules of the language look at
these lowered only. Lowering there is by all of Unicode, and what it makes of a letter may
depend on the neighbours, but never on their case in ASCII.
-/

import TaskQuery.Proofs.AlikeTokens
import TaskQuery.Proofs.Spelling

namespace TaskQuery

open Text

/-! ## Characters -/

/-- A character beyond ASCII has no small letter here. -/
theorem toLower_eq_self_or_toNat_lt (c : Char) : c.toLower = c ∨ c.toNat < 128 := by
  by_cases capital : c.val ≥ 'A'.val ∧ c.val ≤ 'Z'.val
  · have last : c.toNat ≤ 'Z'.toNat := UInt32.le_iff_toNat_le.mp capital.2
    exact Or.inr (Nat.lt_of_le_of_lt last (by decide))
  · exact Or.inl (dif_neg capital)

/-- What is looked at in a character when text is read and lowered, apart from which sign it
is. -/
structure Traits where
  isAlpha : Bool
  isBlank : Bool
  isWordChar : Bool
  isTagChar : Bool
  isNumberChar : Bool
  utf8Size : Nat
  small : Char
  lowered : List Char
  isCaseIgnorable : Bool
  isCased : Bool
  deriving DecidableEq

/-- The traits of a character. -/
def traits (c : Char) : Traits where
  isAlpha := c.isAlpha
  isBlank := isBlank c
  isWordChar := isWordChar c
  isTagChar := isTagChar c
  isNumberChar := isNumberChar c
  utf8Size := c.utf8Size
  small := c.toLower
  lowered := lowercaseChar c
  isCaseIgnorable := caseIgnorableRanges.contains c.toNat
  isCased := casedRanges.contains c.toNat

/-- A capital has the traits of its small letter. -/
theorem traits_toLower (c : Char) : traits c.toLower = traits c := by
  -- All traits are checked at once, as every check goes through the whole of ASCII.
  have checked : ∀ n < 128, traits (Char.ofNat n).toLower = traits (Char.ofNat n) := by
    decide +kernel
  rcases toLower_eq_self_or_toNat_lt c with same | small
  · rw [same]
  · exact forall_ascii (p := fun c => traits c.toLower = traits c) checked small

theorem isAlpha_toLower (c : Char) : c.toLower.isAlpha = c.isAlpha :=
  congrArg Traits.isAlpha (traits_toLower c)

theorem isBlank_toLower (c : Char) : isBlank c.toLower = isBlank c :=
  congrArg Traits.isBlank (traits_toLower c)

theorem isWordChar_toLower (c : Char) : isWordChar c.toLower = isWordChar c :=
  congrArg Traits.isWordChar (traits_toLower c)

theorem isTagChar_toLower (c : Char) : isTagChar c.toLower = isTagChar c :=
  congrArg Traits.isTagChar (traits_toLower c)

theorem isNumberChar_toLower (c : Char) : isNumberChar c.toLower = isNumberChar c :=
  congrArg Traits.isNumberChar (traits_toLower c)

theorem lowercaseChar_toLower (c : Char) : lowercaseChar c.toLower = lowercaseChar c :=
  congrArg Traits.lowered (traits_toLower c)

/-- A sign that is no letter stays. -/
theorem toLower_of_isAlpha_eq_false {c : Char} (noLetter : c.isAlpha = false) : c.toLower = c := by
  have notUpper : c.isUpper = false := (Bool.or_eq_false_iff.mp noLetter).1
  exact dif_neg (of_decide_eq_false notUpper)

/-- No letter turns into a sign. -/
theorem toLower_eq_iff {c sign : Char} (noLetter : sign.isAlpha = false) :
    c.toLower = sign ↔ c = sign := by
  refine ⟨fun turned => ?_, fun isSign => ?_⟩
  · have kept : c.isAlpha = false := by rw [← isAlpha_toLower, turned, noLetter]
    rw [← toLower_of_isAlpha_eq_false kept, turned]
  · rw [isSign, toLower_of_isAlpha_eq_false noLetter]

/-- A scanner for a class that does not tell letter case apart takes the same part of a
text. -/
theorem takeWhile_map_toLower {p : Char → Bool} (blind : ∀ c, p c.toLower = p c)
    (cs : List Char) : (cs.map Char.toLower).takeWhile p = (cs.takeWhile p).map Char.toLower := by
  rw [List.takeWhile_map, show p ∘ Char.toLower = p from funext blind]

theorem dropWhile_map_toLower {p : Char → Bool} (blind : ∀ c, p c.toLower = p c)
    (cs : List Char) : (cs.map Char.toLower).dropWhile p = (cs.dropWhile p).map Char.toLower := by
  rw [List.dropWhile_map, show p ∘ Char.toLower = p from funext blind]

theorem map_toLower_map_toLower (cs : List Char) :
    (cs.map Char.toLower).map Char.toLower = cs.map Char.toLower := by
  rw [List.map_map]
  exact List.map_congr_left fun c _ => congrArg Traits.small (traits_toLower c)

@[simp]
theorem byteLength_map_toLower (cs : List Char) :
    byteLength (cs.map Char.toLower) = byteLength cs := by
  induction cs with
  | nil => rfl
  | cons c cs ih =>
      have size : c.toLower.utf8Size = c.utf8Size := congrArg Traits.utf8Size (traits_toLower c)
      rw [List.map_cons, byteLength, byteLength, size, ih]

/-! ## Lowered texts -/

theorem toList_toLower (text : String) : text.toLower.toList = text.toList.map Char.toLower :=
  String.toList_map

theorem toLower_ofList (cs : List Char) :
    (String.ofList cs).toLower = String.ofList (cs.map Char.toLower) := by
  apply String.toList_injective
  rw [toList_toLower, String.toList_ofList, String.toList_ofList]

theorem meetsCased_map_toLower (cs : List Char) :
    meetsCased (cs.map Char.toLower) = meetsCased cs := by
  have ignorable (c : Char) :
      caseIgnorableRanges.contains c.toLower.toNat = caseIgnorableRanges.contains c.toNat :=
    congrArg Traits.isCaseIgnorable (traits_toLower c)
  have cased (c : Char) : casedRanges.contains c.toLower.toNat = casedRanges.contains c.toNat :=
    congrArg Traits.isCased (traits_toLower c)
  rw [meetsCased, meetsCased, dropWhile_map_toLower ignorable]
  cases cs.dropWhile fun c => caseIgnorableRanges.contains c.toNat with
  | nil => rfl
  | cons c cs => exact cased c

theorem lowercaseAfter_map_toLower (before cs : List Char) :
    lowercaseAfter (before.map Char.toLower) (cs.map Char.toLower) = lowercaseAfter before cs := by
  induction cs generalizing before with
  | nil => rfl
  | cons c cs ih =>
      have tail := ih (c :: before)
      rw [List.map_cons] at tail
      rw [List.map_cons, lowercaseAfter, lowercaseAfter, tail]
      refine congrArg (· ++ lowercaseAfter (c :: before) cs) ?_
      refine if_congr (toLower_eq_iff (by decide)) ?_ (lowercaseChar_toLower c)
      rw [endsWord, endsWord, meetsCased_map_toLower, meetsCased_map_toLower]

/-- Lowering a text in full is not disturbed by lowering its ASCII letters first. -/
theorem lowercase_toLower (text : String) : lowercase text.toLower = lowercase text := by
  rw [lowercase, lowercase, toList_toLower]
  exact congrArg String.ofList (lowercaseAfter_map_toLower [] text.toList)

/-! ## Pieces -/

/-- The literal with its letters lowered. -/
def Literal.lower (literal : Literal) : Literal :=
  ⟨literal.contents.map Char.toLower, literal.source.map Char.toLower,
    literal.rest.map Char.toLower⟩

theorem Literal.read_map_toLower {quote : Char} (noLetter : quote.isAlpha = false) (held : Nat)
    (cs : List Char) :
    Literal.read quote held (cs.map Char.toLower) = (Literal.read quote held cs).lower := by
  have backslash : '\\'.toLower = '\\' := rfl
  induction cs generalizing held with
  | nil => simp [Literal.read, lower, backslash]
  | cons c cs ih =>
      have isBackslash : c.toLower = '\\' ↔ c = '\\' := toLower_eq_iff (by decide)
      rw [List.map_cons, Literal.read, Literal.read]
      simp only [isBackslash, toLower_eq_iff noLetter, ih]
      split
      · rfl
      split
      · split
        · simp [lower, backslash]
        · simp [lower, backslash]
      · simp [lower, backslash]

namespace TokenKind

theorem ofWord_map_toLower (word : List Char) : ofWord (word.map Char.toLower) = ofWord word := by
  rw [ofWord, ofWord, map_toLower_map_toLower]

theorem ofPair?_map_toLower (first second : List Char) :
    ofPair? (first.map Char.toLower) (second.map Char.toLower) = ofPair? first second := by
  rw [ofPair?, ofPair?, map_toLower_map_toLower, map_toLower_map_toLower]

end TokenKind

theorem isAlpha_eq_false_of_isNumberChar {c : Char} (isNumber : isNumberChar c = true) :
    c.isAlpha = false := by
  rcases Bool.or_eq_true_iff.mp isNumber with isDigit | isDash
  · exact isAlpha_eq_false_of_isDigit isDigit
  · rw [beq_iff_eq.mp isDash]
    rfl

/-- A number is written without letters. -/
theorem map_toLower_takeWhile_isNumberChar (cs : List Char) :
    (cs.takeWhile isNumberChar).map Char.toLower = cs.takeWhile isNumberChar := by
  have same (c : Char) (isPart : c ∈ cs.takeWhile isNumberChar) : c.toLower = c :=
    toLower_of_isAlpha_eq_false
      (isAlpha_eq_false_of_isNumberChar (List.all_eq_true.mp List.all_takeWhile c isPart))
  exact (List.map_congr_left same).trans (List.map_id _)

namespace Piece

/-- The piece with its letters lowered. What is no token has none. -/
def lower : Piece → Piece
  | layout c => layout c
  | stray c => stray c
  | token kind text source => token kind (text.map Char.toLower) (source.map Char.toLower)

theorem lower_verbatim (kind : TokenKind) (source : List Char) :
    (verbatim kind source).lower = verbatim kind (source.map Char.toLower) :=
  rfl

@[simp]
theorem byteLength_source_lower (piece : Piece) :
    byteLength piece.lower.source = byteLength piece.source := by
  cases piece with
  | layout c => rfl
  | stray c => rfl
  | token kind text source => exact byteLength_map_toLower source

/-- The piece and the characters behind it, with their letters lowered. -/
def lowerPair (read : Piece × List Char) : Piece × List Char :=
  (read.1.lower, read.2.map Char.toLower)

theorem word_toLower (first : Char) (cs : List Char) :
    word first.toLower (cs.map Char.toLower) = lowerPair (word first cs) := by
  simp only [word, takeWhile_map_toLower isWordChar_toLower,
    dropWhile_map_toLower isWordChar_toLower, takeWhile_map_toLower isBlank_toLower,
    dropWhile_map_toLower isBlank_toLower, ← List.map_cons, TokenKind.ofPair?_map_toLower,
    TokenKind.ofWord_map_toLower]
  split
  · simp only [lowerPair, lower_verbatim, List.map_append]
  · rfl

theorem number_map_toLower {first : Char} (noLetter : first.isAlpha = false) (cs : List Char) :
    number first (cs.map Char.toLower) = lowerPair (number first cs) := by
  simp only [number, takeWhile_map_toLower isNumberChar_toLower,
    dropWhile_map_toLower isNumberChar_toLower, map_toLower_takeWhile_isNumberChar, lowerPair,
    lower_verbatim, List.map_cons, toLower_of_isAlpha_eq_false noLetter]

theorem tag_map_toLower (cs : List Char) :
    tag (cs.map Char.toLower) = lowerPair (tag cs) := by
  rw [tag, tag, takeWhile_map_toLower isTagChar_toLower, dropWhile_map_toLower isTagChar_toLower]
  cases cs.takeWhile isTagChar with
  | nil => rfl
  | cons c name => rfl

theorem literal_map_toLower {quote : Char} (noLetter : quote.isAlpha = false) (cs : List Char) :
    literal quote (cs.map Char.toLower) = lowerPair (literal quote cs) := by
  simp only [literal, Literal.read_map_toLower noLetter, lowerPair, lower, List.map_cons,
    toLower_of_isAlpha_eq_false noLetter]
  rfl

/-- Reading one piece commutes with lowering. -/
theorem next_toLower (first : Char) (cs : List Char) :
    next first.toLower (cs.map Char.toLower) = lowerPair (next first cs) := by
  by_cases letter : first.isAlpha = true
  · rw [next_of_isAlpha letter, next_of_isAlpha (by rw [isAlpha_toLower, letter]), word_toLower]
  · have noLetter : first.isAlpha = false := Bool.eq_false_iff.mpr letter
    have same : first.toLower = first := toLower_of_isAlpha_eq_false noLetter
    have parenthesis (kind : TokenKind) : (verbatim kind [first], cs.map Char.toLower) =
        lowerPair (verbatim kind [first], cs) := by
      rw [lowerPair, lower_verbatim, List.map_cons, List.map_nil, same]
    rw [same, next.eq_def, next.eq_def]
    simp only [tag_map_toLower, literal_map_toLower noLetter, number_map_toLower noLetter,
      if_neg letter]
    split_ifs
    · rfl
    · rfl
    · exact parenthesis .leftParen
    · exact parenthesis .rightParen
    · rfl
    · rfl
    · rfl
    · rfl

theorem all_map_toLower (cs : List Char) : all (cs.map Char.toLower) = (all cs).map lower := by
  induction cs using all.induct with
  | case1 => rw [List.map_nil, all, List.map_nil]
  | case2 first cs ih =>
      rw [List.map_cons, all, all, next_toLower, lowerPair, ih, List.map_cons]

end Piece

/-! ## Tokens -/

/-- The token with its letters lowered. -/
def Token.lower (token : Token) : Token :=
  { token with text := token.text.toLower }

/-- The tokens with their letters lowered, and the characters that were left out. -/
def Lexed.lower (lexed : Lexed) : Lexed :=
  { lexed with tokens := lexed.tokens.map Token.lower }

theorem Lexed.ofPieces_map_lower (position : Nat) (pieces : List Piece) :
    Lexed.ofPieces position (pieces.map Piece.lower) = (Lexed.ofPieces position pieces).lower := by
  induction pieces generalizing position with
  | nil =>
      have endText : "".toLower = "" := toLower_ofList []
      simp only [List.map_nil, ofPieces, lower, Token.lower, List.map_cons, endText]
  | cons piece pieces ih =>
      rw [List.map_cons, ofPieces.eq_def, ofPieces.eq_def]
      simp only [Piece.byteLength_source_lower, ih]
      cases piece with
      | layout c => rfl
      | stray c => rfl
      | token kind text source =>
          simp only [Piece.lower, lower, Token.lower, List.map_cons, toLower_ofList]

/-- Reading tokens commutes with lowering. -/
theorem tokenize_toLower (input : String) : tokenize input.toLower = (tokenize input).lower := by
  rw [tokenize, tokenize, toList_toLower, Piece.all_map_toLower, Lexed.ofPieces_map_lower]

/-! ## Texts that differ in letter case -/

/-- The texts are the same apart from the case of ASCII letters. -/
def SameLetters (first second : String) : Prop :=
  first.toLower = second.toLower

theorem map_toLower_eq_iff_sameLetters {first second : String} :
    first.toList.map Char.toLower = second.toList.map Char.toLower ↔ SameLetters first second := by
  rw [SameLetters, ← String.toList_inj, toList_toLower, toList_toLower]

instance (first second : String) : Decidable (SameLetters first second) :=
  decidable_of_iff _ map_toLower_eq_iff_sameLetters

theorem readsAlike_sameLetters (vocabulary : Vocabulary) :
    ReadsAlike SameLetters vocabulary vocabulary where
  refl _ := rfl
  lowercase_eq {text other} same := by
    rw [← lowercase_toLower text, same, lowercase_toLower]
  isStatusWord_eq _ := rfl

theorem Token.fields_of_lower_eq {token other : Token} (lowered : token.lower = other.lower) :
    token.kind = other.kind ∧ token.position = other.position ∧
      SameLetters token.text other.text := by
  obtain ⟨kinds, texts, positions⟩ := Token.mk.inj lowered
  exact ⟨kinds, positions, texts⟩

/-- Letter case does not count in a query. Two texts that differ in the case of ASCII letters
only are cut at the same places into tokens of the same kinds, with the same characters left
out, and the texts of the tokens differ in letter case only. Under every vocabulary they are
read as queries of the same shape: the same operators, checks, directions and number of keys,
with names, values and targets that differ in letter case only. -/
theorem tokens_and_query_alike_of_sameLetters {first second : String}
    (same : SameLetters first second) :
    List.Forall₂ (fun token other => token.kind = other.kind ∧ token.position = other.position ∧
        SameLetters token.text other.text)
      (tokenize first).tokens (tokenize second).tokens ∧
    (tokenize first).strays = (tokenize second).strays ∧
    ∀ vocabulary, (Query.parse vocabulary first).query.Alike SameLetters
      (Query.parse vocabulary second).query := by
  have lowered : (tokenize first).lower = (tokenize second).lower := by
    rw [← tokenize_toLower, ← tokenize_toLower, same]
  obtain ⟨tokens, strays⟩ := Lexed.mk.inj lowered
  have alike : List.Forall₂ (fun token other => token.lower = other.lower)
      (tokenize first).tokens (tokenize second).tokens := by
    rw [← List.forall₂_eq_eq_eq, List.forall₂_map_left_iff, List.forall₂_map_right_iff] at tokens
    exact tokens
  refine ⟨alike.imp fun _ _ => Token.fields_of_lower_eq, strays, fun vocabulary => ?_⟩
  refine Query.parseTokens_alike (readsAlike_sameLetters vocabulary) (alike.imp ?_)
  intro token other sameToken
  obtain ⟨kinds, -, texts⟩ := Token.fields_of_lower_eq sameToken
  exact ⟨kinds, fun _ => texts⟩

/-- A query in two spellings, with operators of two words, a check, a tag and a sign that means
nothing. -/
theorem tokens_and_query_alike_of_sameLetters_mixed :
    let first := "Status IS Not \"Done\" AND (#Work Or depends ON T1) Is BLOCKED SORT by Due DESC!"
    let second := "status is NOT \"done\" and (#work OR DEPENDS on t1) is blocked sort BY due desc!"
    SameLetters first second ∧
    List.Forall₂ (fun token other => token.kind = other.kind ∧ token.position = other.position ∧
        SameLetters token.text other.text)
      (tokenize first).tokens (tokenize second).tokens ∧
    (tokenize first).strays = (tokenize second).strays ∧
    (Query.parse .default first).query.Alike SameLetters (Query.parse .default second).query := by
  intro first second
  have same : SameLetters first second := by decide +kernel
  obtain ⟨tokens, strays, queries⟩ := tokens_and_query_alike_of_sameLetters same
  exact ⟨same, tokens, strays, queries .default⟩

end TaskQuery

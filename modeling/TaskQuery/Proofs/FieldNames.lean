/-
# Names of fields

A field name is a text that the lexer reads as a single identifier. The lexer knows two
shapes of them, words that are not reserved and runs of digits and hyphens that are no
date, and a name is exactly a text of one of these shapes. So every identifier of every
query text is a name when it stands alone, and a name is read as an identifier wherever a
written query puts it.
-/

import TaskQuery.Proofs.Coverage
import TaskQuery.Proofs.Spelling

namespace TaskQuery

open Text

/-- The lexer reads the whole text as one identifier. -/
def IsFieldName (name : String) : Prop :=
  (tokenize name).tokens.map Token.lexeme = [⟨.identifier, name⟩, ⟨.endOfInput, ""⟩] ∧
    (tokenize name).strays = []

/-- Every comparison of a filter is about a field name. -/
def Filter.NamesFields (filter : Filter) : Prop :=
  ∀ comparison ∈ filter.comparisons, IsFieldName comparison.field

/-- What a filter joins has names where the filter has. -/
theorem Filter.NamesFields.operands {filter left right : Filter} (named : filter.NamesFields)
    (joined : filter.comparisons = left.comparisons ++ right.comparisons) :
    left.NamesFields ∧ right.NamesFields := by
  rw [NamesFields, joined] at named
  exact List.forall_mem_append.mp named

/-- Every field that a query mentions has a name. -/
structure Query.NamesFields (query : Query) : Prop where
  comparisons : ∀ comparison ∈ query.comparisons, IsFieldName comparison.field
  sort : ∀ key ∈ query.sort, IsFieldName key.field
  group : ∀ field ∈ query.group, IsFieldName field

/-- The two shapes of identifiers. -/
inductive IsFieldWord : List Char → Prop
  | word {first : Char} {more : List Char} (isAlpha : first.isAlpha = true)
      (isWord : more.all isWordChar = true) (plain : isReserved (first :: more) = false) :
      IsFieldWord (first :: more)
  | number {first : Char} {more : List Char} (isDigit : first.isDigit = true)
      (isNumber : more.all isNumberChar = true)
      (noDate : isDateShaped (first :: more) = false) : IsFieldWord (first :: more)

/-- A reserved word starts with a letter. -/
theorem isAlpha_of_isReserved {first : Char} {more : List Char}
    (reserved : isReserved (first :: more) = true) : first.toLower.isAlpha = true := by
  have letters : reservedWords.all (fun word => word.toList.head?.all Char.isAlpha) = true := by
    decide
  rw [isReserved, List.contains_iff_mem] at reserved
  have letter := List.all_eq_true.mp letters _ reserved
  rw [String.toList_ofList] at letter
  exact letter

theorem isReserved_of_isDigit {first : Char} (isDigit : first.isDigit = true) (more : List Char) :
    isReserved (first :: more) = false := by
  have noLetter : first.toLower.isAlpha = false :=
    forall_digit (p := fun c => c.toLower.isAlpha = false) (by decide +kernel) isDigit
  by_cases reserved : isReserved (first :: more) = true
  · rw [isAlpha_of_isReserved reserved] at noLetter
    cases noLetter
  · simpa using reserved

theorem all_isWordChar_of_number {first : Char} {more : List Char}
    (isDigit : first.isDigit = true) (isNumber : more.all isNumberChar = true) :
    (first :: more).all isWordChar = true := by
  rw [List.all_eq_true]
  intro c member
  rcases List.mem_cons.mp member with rfl | member
  · exact isWordChar_of_isDigit isDigit
  · exact isWordChar_of_isNumberChar (List.all_eq_true.mp isNumber c member)

namespace IsFieldWord

variable {word : List Char}

theorem ne_nil (isName : IsFieldWord word) : word ≠ [] := by
  cases isName <;> exact List.cons_ne_nil _ _

theorem all_isWordChar (isName : IsFieldWord word) : word.all isWordChar = true := by
  cases isName with
  | word isAlpha isWord =>
      rw [List.all_cons, isWordChar_of_isAlpha isAlpha, isWord, Bool.and_self]
  | number isDigit isNumber => exact all_isWordChar_of_number isDigit isNumber

theorem not_reserved (isName : IsFieldWord word) : isReserved word = false := by
  cases isName with
  | word isAlpha isWord plain => exact plain
  | number isDigit => exact isReserved_of_isDigit isDigit _

/-- A name is read as an identifier, unless `on` comes next. -/
theorem spells (isName : IsFieldWord word) {rest : List Char} (stops : WordStops rest)
    (noOn : String.ofList ((nextWord rest).map Char.toLower) ≠ "on") :
    Spells word [⟨.identifier, String.ofList word⟩] rest := by
  cases isName with
  | word isAlpha isWord plain =>
      have kind := (ofWord_eq_identifier_iff _).mpr plain
      have read := spells_word isAlpha isWord stops (ofPair?_eq_none_of_not_reserved plain noOn)
      rwa [kind] at read
  | number isDigit isNumber noDate =>
      have read := spells_number isDigit isNumber stops
      rwa [numberKind, if_neg (by simp [noDate])] at read

end IsFieldWord

/-! ## Identifiers of a text -/

theorem isFieldWord_of_word {first : Char} {cs text source : List Char}
    (isAlpha : first.isAlpha = true)
    (read : (Piece.word first cs).1 = .token .identifier text source) : IsFieldWord text := by
  rw [Piece.word] at read
  split at read
  · rename_i kind paired
    rw [TokenKind.ofPair?.eq_def] at paired
    split at paired <;> cases paired <;> cases read
  · obtain ⟨kind, rfl, -⟩ := Piece.token.inj read
    exact .word isAlpha List.all_takeWhile ((ofWord_eq_identifier_iff _).mp kind)

theorem isFieldWord_of_number {first : Char} {cs text source : List Char}
    (isDigit : first.isDigit = true)
    (read : (Piece.number first cs).1 = .token .identifier text source) : IsFieldWord text := by
  rw [Piece.number] at read
  obtain ⟨kind, rfl, -⟩ := Piece.token.inj read
  refine .number isDigit List.all_takeWhile ?_
  by_cases noDate : isDateShaped (first :: cs.takeWhile isNumberChar) = true
  · rw [if_pos noDate] at kind
    cases kind
  · simpa using noDate

theorem isFieldWord_of_next {first : Char} {cs text source : List Char}
    (read : (Piece.next first cs).1 = .token .identifier text source) : IsFieldWord text := by
  rw [Piece.next] at read
  split at read
  · cases read
  split at read
  · cases read
  split at read
  · cases read
  split at read
  · cases read
  split at read
  · rw [Piece.tag] at read
    split at read <;> cases read
  split at read
  · cases read
  split at read
  · exact isFieldWord_of_word ‹_› read
  split at read
  · exact isFieldWord_of_number ‹_› read
  · cases read

/-- Every identifier of a text has the shape of one. -/
theorem isFieldWord_of_mem_tokenize {input : String} {token : Token}
    (member : token ∈ (tokenize input).tokens) (isName : token.kind = .identifier) :
    IsFieldWord token.text.toList := by
  obtain ⟨before, first, after, source, -, -, read⟩ :=
    exists_next_of_mem_tokenize member (by simp [isName])
  rw [isName] at read
  exact isFieldWord_of_next read

theorem isFieldName_iff {name : String} : IsFieldName name ↔ IsFieldWord name.toList := by
  constructor
  · intro named
    obtain ⟨lexemes, _⟩ := named
    have member : (⟨.identifier, name⟩ : Lexeme) ∈ (tokenize name).tokens.map Token.lexeme := by
      rw [lexemes]
      exact List.mem_cons_self
    obtain ⟨token, isToken, same⟩ := List.mem_map.mp member
    obtain ⟨kind, rfl⟩ := Lexeme.mk.inj same
    exact isFieldWord_of_mem_tokenize isToken kind
  · intro isName
    have read := isName.spells wordStops_nil (by decide)
    rw [Spells, List.append_nil, scan_nil, List.append_nil, String.ofList_toList] at read
    obtain ⟨tokens, finish, lexed, lexemes⟩ := exists_tokens_of_shown read 0
    rw [IsFieldName, tokenize, lexed]
    refine ⟨?_, rfl⟩
    rw [List.map_append, lexemes]
    rfl

/-- An identifier of any text is a name when it stands alone. -/
theorem isFieldName_of_mem_tokenize {input : String} {token : Token}
    (member : token ∈ (tokenize input).tokens) (isName : token.kind = .identifier) :
    IsFieldName token.text :=
  isFieldName_iff.mpr (isFieldWord_of_mem_tokenize member isName)

end TaskQuery

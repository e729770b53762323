/-
# Writing queries

A query is written in the form in which it reads back: every conjunction and
disjunction in parentheses, operators in words, and a value bare only where the
lexer takes it as one value token. Any other value is quoted; the quoting doubles
exactly those backslashes that a quote or the end of the text follows.
-/

import TaskQuery.Query.Basic
import TaskQuery.Query.Lexer

namespace TaskQuery

/-! ## Values -/

/-- The words that do not read back as a plain value. -/
def reservedWords : List String :=
  ["and", "or", "not", "sort", "group", "by", "asc", "desc", "is", "includes", "before", "after",
   "matches", "blocks"]

/-- Whether a word of ASCII characters has a meaning of its own in a query, in any
letter case. -/
def isReserved (word : List Char) : Bool :=
  reservedWords.contains (String.ofList (word.map Char.toLower))

/-- Whether a value reads back as it stands: a word that is not reserved, a word of
digits and hyphens, or a tag. -/
def isBareValue : List Char → Bool
  | [] => false
  | first :: rest =>
      if first.isAlpha then rest.all isWordChar && !isReserved (first :: rest)
      else if first.isDigit then rest.all isNumberChar
      else if first = '#' then !rest.isEmpty && rest.all isTagChar
      else false

/-- The inside of a quoted value, where `held` backslashes were read and are still
to be written. -/
def quoteContents : (held : Nat) → List Char → List Char
  | held, [] => List.replicate (2 * held) '\\'
  | held, c :: rest =>
      if c = '\\' then quoteContents (held + 1) rest
      else if c = '"' then
        List.replicate (2 * held + 1) '\\' ++ c :: quoteContents 0 rest
      else List.replicate held '\\' ++ c :: quoteContents 0 rest

/-- A value between double quotes. -/
def quoteValue (value : List Char) : List Char :=
  '"' :: quoteContents 0 value ++ ['"']

/-- A value as a query writes it. -/
def valueText (value : String) : String :=
  if isBareValue value.toList then value else String.ofList (quoteValue value.toList)

/-! ## Queries -/

/-- A dependency check as a query writes it. -/
def DependencyCheck.text : DependencyCheck → String
  | blocked => "is blocked"
  | notBlocked => "is not blocked"
  | blocking => "is blocking"
  | dependsOn target => "depends on " ++ valueText target
  | blocks target => "blocks " ++ valueText target

/-- A filter as a query writes it. -/
def Filter.text : Filter → String
  | comparison field operator value => field ++ " " ++ operator.text ++ " " ++ valueText value
  | and left right => "(" ++ left.text ++ " AND " ++ right.text ++ ")"
  | or left right => "(" ++ left.text ++ " OR " ++ right.text ++ ")"
  | not operand => "NOT " ++ operand.text
  | dependency check => check.text

/-- A sort key as a query writes it. -/
def SortKey.text (key : SortKey) : String :=
  key.field ++ " " ++ key.direction.text

/-- Sort keys as a query writes them. -/
def sortText (keys : List SortKey) : String :=
  ", ".intercalate (keys.map SortKey.text)

/-- A query in the form in which it reads back. -/
def Query.text (query : Query) : String :=
  let filter := (query.filter.map Filter.text).toList
  let sort := if query.sort.isEmpty then [] else ["sort by " ++ sortText query.sort]
  let group := (query.group.map fun field => "group by " ++ field).toList
  " ".intercalate (filter ++ sort ++ group)

end TaskQuery

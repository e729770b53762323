/-
# Lexemes of TOML

Blanks, line ends and comments, texts in their four notations, and keys. Inside a
text on several lines every line end counts as one line feed.
-/

import TaskQuery.Text.Digits
import TaskQuery.Text.Scan
import TaskQuery.Toml.Basic

namespace TaskQuery.Toml

/-- A reader of a TOML document. -/
abbrev Reader : Type → Type :=
  Scan Fault

/-- Fails at the next character. -/
def unexpectedNext : Reader α := do
  match ← Scan.peek with
  | some c => Scan.fail (.unexpected c)
  | none => Scan.fail .endOfText

/-- Takes signs that have to stand next. -/
def expect (signs : List Char) : Reader Unit := do
  if ← Scan.accept signs then return else unexpectedNext

/-! ## Blanks and lines -/

/-- Whether a character is a blank within a line. -/
def isLineBlank (c : Char) : Bool :=
  c == ' ' || c == '\t'

/-- Whether a character may stand in a comment or, unless it has a meaning there, in
a text. -/
def isPlain (c : Char) : Bool :=
  c == '\t' || (0x20 ≤ c.toNat && c.toNat != 0x7f)

/-- Passes over the blanks of a line. -/
def blanks : Reader Unit := do
  discard (Scan.takeWhile isLineBlank)

/-- Takes a line end, if one stands next. -/
def newline? : Reader Bool := do
  if ← Scan.accept ['\n'] then return true else Scan.accept ['\x0d', '\n']

/-- Passes over a comment, if one stands next. -/
def skipComment : Reader Unit := do
  if ← Scan.accept ['#'] then discard (Scan.takeWhile isPlain)

/-- What may follow on a line that is complete. -/
def lineEnd : Reader Unit := do
  blanks
  skipComment
  if (← Scan.peek).isSome && !(← newline?) then unexpectedNext

/-- Passes over blanks and line ends, and over comments if they are allowed. -/
def skipLines (comments : Bool) : Reader Unit :=
  Scan.iterate
    (fun _ => do
      blanks
      if comments then skipComment
      if ← newline? then return .more () else return .done ())
    .endOfText ()

/-! ## Texts -/

/-- The character with a code in so many hexadecimal digits. -/
def codeEscape (width : Nat) : Reader Char := do
  let digits ← Scan.takeWhileUpTo width fun c => (Text.hexValue? c).isSome
  match Text.charOfHex? digits with
  | some c => if digits.length = width then return c else Scan.fail .badEscape
  | none => Scan.fail .badEscape

/-- The character that an escape stands for, after the backslash. -/
def escape : Reader Char := do
  match ← Scan.takeOr .endOfText with
  | 'b' => return '\x08'
  | 't' => return '\t'
  | 'n' => return '\n'
  | 'f' => return '\x0c'
  | 'r' => return '\x0d'
  | '"' => return '"'
  | '\\' => return '\\'
  | 'u' => codeEscape 4
  | 'U' => codeEscape 8
  | _ => Scan.fail .badEscape

/-- The rest of a text on one line, after its opening quote. Only texts between
double quotes have escapes. -/
def lineText (quote : Char) : Reader (List Char) :=
  Scan.loop
    (fun (taken : List Char) c => do
      if c = quote then return .done taken.reverse
      else if c = '\\' ∧ quote = '"' then return .more ((← escape) :: taken)
      else if isPlain c then return .more (c :: taken)
      else Scan.fail (.unexpected c))
    (fun _ => .error .endOfText) []

/-- What a backslash adds to a text on several lines: a character, or nothing at the
end of a line, whose blanks and line ends it takes away. -/
def blockEscape : Reader (List Char) := do
  match ← Scan.peek with
  | some c =>
      if isLineBlank c || c == '\n' || c == '\x0d' then
        blanks
        if ← newline? then skipLines false else unexpectedNext
        return []
      else return [← escape]
  | none => Scan.fail .endOfText

/-- The rest of a text on several lines, after its opening quotes. Two quotes in a row
belong to the text; three or more end it, and up to two of them belong to it. -/
def blockText (quote : Char) : Reader (List Char) :=
  Scan.loop
    (fun (taken : List Char) c => do
      if c = quote then
        let count := (← Scan.takeWhile (· == quote)).length + 1
        if count ≤ 2 then return .more (List.replicate count quote ++ taken)
        else if count ≤ 5 then
          return .done (List.replicate (count - 3) quote ++ taken).reverse
        else Scan.fail (.unexpected quote)
      else if c = '\\' ∧ quote = '"' then return .more ((← blockEscape) ++ taken)
      else if c = '\n' then return .more ('\n' :: taken)
      else if c = '\x0d' then
        expect ['\n']
        return .more ('\n' :: taken)
      else if isPlain c then return .more (c :: taken)
      else Scan.fail (.unexpected c))
    (fun _ => .error .endOfText) []

/-- A text, whose opening quote stands next. -/
def text (quote : Char) : Reader String := do
  if ← Scan.accept [quote, quote, quote] then
    discard newline?
    return String.ofList (← blockText quote)
  else
    expect [quote]
    return String.ofList (← lineText quote)

/-! ## Keys -/

/-- Whether a character may stand in a name without quotes. -/
def isBareKeyChar (c : Char) : Bool :=
  c.isAlphanum || c == '_' || c == '-'

/-- A name, on one line if it has quotes. -/
def keyName : Reader String := do
  if ← Scan.accept ['"'] then return String.ofList (← lineText '"')
  else if ← Scan.accept ['\''] then return String.ofList (← lineText '\'')
  else
    match ← Scan.takeWhile isBareKeyChar with
    | [] => unexpectedNext
    | name => return String.ofList name

/-- How many names a key has at most. -/
def keyLengthLimit : Nat := 79

/-- A key, with the blanks around its names. -/
def key : Reader Key :=
  Scan.iterate
    (fun (path : List String) => do
      blanks
      let name ← keyName
      blanks
      if ← Scan.accept ['.'] then return .more (path ++ [name])
      else if keyLengthLimit ≤ path.length then Scan.fail .tooDeep
      else return .done ⟨path, name⟩)
    .endOfText []

end TaskQuery.Toml

/-
# Reading TOML

A document is read line by line; a value may go on over several lines. The settings
program asks for the document's members only, so that is what `Toml.read` gives.
Arrays and tables between braces may lie in each other up to a fixed depth.
-/

import TaskQuery.Toml.Number

namespace TaskQuery.Toml

/-! ## Values -/

/-- The rest of an array, after its opening bracket. A comma may follow the last
item. -/
def arrayRest (value : Reader Toml) : Reader Toml :=
  Scan.iterate
    (fun (items : List Toml) => do
      skipLines true
      if ← Scan.accept [']'] then return .done (.array items)
      let item ← value
      skipLines true
      if ← Scan.accept [','] then return .more (items ++ [item])
      expect [']']
      return .done (.array (items ++ [item])))
    .endOfText []

/-- A value under a key, with its blanks. -/
def keyValue (value : Reader Toml) : Reader (Key × Toml) := do
  let key ← key
  expect ['=']
  blanks
  return (key, ← value)

/-- The rest of a table between braces, after the opening one. It stays on its line,
and no comma may follow its last member. -/
def tableRest (value : Reader Toml) : Reader Toml := do
  blanks
  if ← Scan.accept ['\x7d'] then return .table .braces []
  Scan.iterate
    (fun (table : OpenTable) => do
      let (key, item) ← keyValue value
      blanks
      let table ← Scan.decided (insertValue key item table)
      if ← Scan.accept [','] then return .more table
      expect ['\x7d']
      return .done (.table .braces table.members))
    .endOfText ⟨.braces, []⟩

/-- A value, with readers for what comes after an opening bracket or brace. -/
def valueWith (arrayRest tableRest : Reader Toml) : Reader Toml := do
  match ← Scan.peek with
  | some '"' => return .string (← text '"')
  | some '\'' => return .string (← text '\'')
  | some '[' =>
      discard Scan.take
      arrayRest
  | some '\x7b' =>
      discard Scan.take
      tableRest
  | some 't' =>
      expect ['t', 'r', 'u', 'e']
      return .bool true
  | some 'f' =>
      expect ['f', 'a', 'l', 's', 'e']
      return .bool false
  | _ =>
      match ← dateTime? with
      | some value => return value
      | none => number

/-- A value with so many levels of arrays and tables inside it. -/
def value : (levels : Nat) → Reader Toml
  | 0 => valueWith (Scan.fail .tooDeep) (Scan.fail .tooDeep)
  | levels + 1 => valueWith (arrayRest (value levels)) (tableRest (value levels))

/-- How deep arrays and tables may lie in each other. -/
def levelLimit : Nat := 79

/-! ## Documents -/

/-- A document while it is being read: all of it, and the names of the header under
which the next lines add to it. -/
structure Reading where
  document : OpenTable
  header : List String

namespace Reading

/-- A document without lines. -/
def start : Reading :=
  ⟨⟨.header, []⟩, []⟩

/-- Adds a value under the last header. -/
def insert (reading : Reading) (key : Key) (value : Toml) : Except Fault Reading := do
  let document ← alterTable .implied (insertValue key value) reading.header reading.document
  return { reading with document }

/-- Goes on under a header. -/
def enter (reading : Reading) (key : Key) (several : Bool) : Except Fault Reading := do
  let document ← if several then openElement key reading.document
    else openTable key reading.document
  return ⟨document, key.names⟩

end Reading

/-- A header, after its first bracket. -/
def headerRest (reading : Reading) : Reader Reading := do
  let several ← Scan.accept ['[']
  let key ← key
  expect (if several then [']', ']'] else [']'])
  lineEnd
  Scan.decided (reading.enter key several)

/-- One line, or several if its value goes on. -/
def line (reading : Reading) : Reader Reading := do
  if ← Scan.accept ['['] then headerRest reading
  else
    let (key, item) ← keyValue (value levelLimit)
    lineEnd
    Scan.decided (reading.insert key item)

/-- All lines of a document. -/
def lines : Reader Members :=
  Scan.iterate
    (fun (reading : Reading) => do
      skipLines true
      if (← Scan.peek).isNone then return .done reading.document.members
      return .more (← line reading))
    .endOfText Reading.start

/-- The members of a document. A mark for the byte order may stand in front of it. -/
def read (document : String) : Except Fault Members :=
  Scan.run (do discard (Scan.accept ['\ufeff']); lines) document.toList

end TaskQuery.Toml

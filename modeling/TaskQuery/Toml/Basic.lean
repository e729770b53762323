/-
# TOML documents

Settings are written as a TOML document: values under names, in tables that can lie
in each other. Who may add to a table depends on how it came to be, so a table
keeps its origin while a document is read.

`Toml.insertValue`, `Toml.openTable` and `Toml.openElement` are the three ways in
which a line adds to a document. Each refuses what would define a name twice.
-/

namespace TaskQuery

namespace Toml

/-- Why a text is no TOML document. -/
inductive Fault
  | endOfText
  | unexpected (c : Char)
  | badEscape
  | badNumber
  | numberOutOfRange
  | badDate
  | duplicateKey (name : String)
  | notTable (name : String)
  | tooDeep
  deriving DecidableEq, Repr

/-- The wording of a fault. -/
def Fault.message : Fault → String
  | endOfText => "the text ends inside a value"
  | unexpected c => "unexpected character '" ++ c.toString ++ "'"
  | badEscape => "invalid escape"
  | badNumber => "invalid number"
  | numberOutOfRange => "number out of range"
  | badDate => "invalid date or time"
  | duplicateKey name => "duplicate key '" ++ name ++ "'"
  | notTable name => "'" ++ name ++ "' is not a table that can be extended"
  | tooDeep => "values are nested too deep"

/-- How a table came to be: by a header of its own, on the way to another header, on
the way to the last name of a dotted key, or between braces. -/
inductive TableOrigin
  | header
  | implied
  | dotted
  | braces
  deriving DecidableEq, Repr

end Toml

/-- A TOML value. Floating-point numbers are checked and then dropped, because no setting
has such a value. A date or a time of day is kept as its text in canonical form. -/
inductive Toml
  | string (value : String)
  | integer (value : Int)
  | float
  | bool (value : Bool)
  | dateTime (text : String)
  | array (items : List Toml)
  | table (origin : Toml.TableOrigin) (members : List (String × Toml))
  | tables (elements : List (List (String × Toml)))
  deriving Repr

namespace Toml

/-- The members of a table, in the order in which they were written. -/
abbrev Members : Type :=
  List (String × Toml)

/-- A table while it is being read. -/
structure OpenTable where
  origin : TableOrigin
  members : Members

/-- Puts a value under a name, in place of an older one. -/
def setMember (name : String) (value : Toml) : Members → Members
  | [] => [(name, value)]
  | (other, old) :: rest =>
      if other = name then (name, value) :: rest else (other, old) :: setMember name value rest

/-- Changes the table that a path leads to. Tables that are missing on the way are
made, with an origin; of several tables under one name the path leads into the last.
A dotted key does not lead into a table that has a header of its own, and nothing
leads into a table between braces. -/
def alterTable (made : TableOrigin) (change : OpenTable → Except Fault OpenTable) :
    List String → OpenTable → Except Fault OpenTable
  | [], here => change here
  | name :: path, here =>
      match here.members.lookup name with
      | none => do
          let inner ← alterTable made change path ⟨made, []⟩
          let member := (name, .table inner.origin inner.members)
          return { here with members := here.members ++ [member] }
      | some (.table origin members) =>
          if origin = .braces then .error (.notTable name)
          else if made = .dotted ∧ origin = .header then .error (.duplicateKey name)
          else do
            let inner ← alterTable made change path ⟨origin, members⟩
            return { here with
              members := setMember name (.table inner.origin inner.members) here.members }
      | some (.tables elements) =>
          match elements.reverse with
          | [] => .error (.notTable name)
          | last :: before => do
              let inner ← alterTable made change path ⟨.header, last⟩
              let elements := before.reverse ++ [inner.members]
              return { here with members := setMember name (.tables elements) here.members }
      | some _ => .error (.notTable name)

/-- A key: the names before the last dot, and the last one. -/
structure Key where
  path : List String
  name : String

/-- Every name of a key. -/
def Key.names (key : Key) : List String :=
  key.path ++ [key.name]

/-- Adds a value under a key, seen from a table. A dotted key adds only to tables that
dotted keys made. -/
def insertValue (key : Key) (value : Toml) : OpenTable → Except Fault OpenTable :=
  alterTable .dotted
    (fun here =>
      if (here.origin = .dotted) = (key.path = []) then .error (.duplicateKey key.name)
      else if (here.members.lookup key.name).isSome then .error (.duplicateKey key.name)
      else .ok { here with members := here.members ++ [(key.name, value)] })
    key.path

/-- Opens the table of a header, which has to be new or no more than implied. -/
def openTable (key : Key) : OpenTable → Except Fault OpenTable :=
  alterTable .implied
    (fun here =>
      match here.members.lookup key.name with
      | none => .ok { here with members := here.members ++ [(key.name, .table .header [])] }
      | some (.table .implied members) =>
          .ok { here with members := setMember key.name (.table .header members) here.members }
      | some _ => .error (.duplicateKey key.name))
    key.path

/-- Opens a further table among the tables of a header. -/
def openElement (key : Key) : OpenTable → Except Fault OpenTable :=
  alterTable .implied
    (fun here =>
      match here.members.lookup key.name with
      | none => .ok { here with members := here.members ++ [(key.name, .tables [[]])] }
      | some (.tables elements) =>
          .ok { here with
            members := setMember key.name (.tables (elements ++ [[]])) here.members }
      | some _ => .error (.duplicateKey key.name))
    key.path

end Toml

end TaskQuery

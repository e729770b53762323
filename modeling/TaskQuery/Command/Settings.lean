/-
# Settings

What a user can set for every run: a task file, further fields and other names for
fields, whether colours are used, and queries with names. Settings are read from a
TOML document in which everything may be left out; names without a meaning are
passed over.
-/

import TaskQuery.Json.Basic
import TaskQuery.Query.Vocabulary
import TaskQuery.Toml.Reader

namespace TaskQuery

/-- The settings of a user. Names are in order and occur once. -/
structure Settings where
  tasksFile : Option String := none
  customFields : List String := []
  color : Option Bool := none
  aliases : List (String × String) := []
  queries : List (String × String) := []
  deriving DecidableEq, Repr

/-- Why settings cannot be used. -/
inductive SettingsFault
  | malformed (fault : Toml.Fault)
  | unsuitable (name : String)
  | tooNew (version : Nat)
  deriving DecidableEq, Repr

/-- The version of the settings that is understood. -/
def settingsVersion : Nat := 1

/-- The wording of a fault. -/
def SettingsFault.message : SettingsFault → String
  | malformed fault => "Failed to parse config: " ++ fault.message
  | unsuitable name => "Failed to parse config: unsuitable value for '" ++ name ++ "'"
  | tooNew version =>
      "Config version " ++ toString version ++ " is newer than this tq understands (max "
        ++ toString settingsVersion ++ ")"

namespace Settings

/-! ## Reading -/

/-- Reads a member, which has a default when it is left out. -/
def readMember (members : Toml.Members) (name : String) (read : Toml → Option α) (default : α) :
    Except SettingsFault α :=
  match members.lookup name with
  | none => .ok default
  | some value =>
      match read value with
      | some result => .ok result
      | none => .error (.unsuitable name)

/-- A version, which is a number of 32 bits. -/
def asVersion? : Toml → Option Nat
  | .integer value => if 0 ≤ value ∧ value < UInt32.size then some value.toNat else none
  | _ => none

/-- A text. -/
def asText? : Toml → Option String
  | .string value => some value
  | _ => none

/-- A list of texts. -/
def asTexts? : Toml → Option (List String)
  | .array items => items.mapM asText?
  | _ => none

/-- The name under which the text of a date stands where texts under names are wanted. -/
def dateName : String :=
  "$__toml_private_datetime"

/-- Texts under names, in the order of the names. A date counts as one text. -/
def asNamedTexts? : Toml → Option (List (String × String))
  | .table _ members => do
      let entries ← members.mapM fun (name, value) => (asText? value).map (name, ·)
      return entries.mergeSort fun a b => a.1 ≤ b.1
  | .dateTime text => some [(dateName, text)]
  | _ => none

/-- A truth value. -/
def asBool? : Toml → Option Bool
  | .bool value => some value
  | _ => none

/-- The colour setting of a table, or of an array, which has it as first item. A date
counts as a table without one. -/
def asColor? : Toml → Option (Option Bool)
  | .table _ members =>
      match members.lookup "color" with
      | some value => (asBool? value).map some
      | none => some none
  | .array (item :: _) => (asBool? item).map some
  | .dateTime _ => some none
  | _ => none

/-- The settings that the members of a document are. -/
def ofMembers (members : Toml.Members) : Except SettingsFault Settings := do
  let version ← readMember members "version" asVersion? settingsVersion
  let settings : Settings := {
    tasksFile := ← readMember members "tasks_file" (fun value => (asText? value).map some) none
    customFields := ← readMember members "custom_fields" asTexts? []
    color := ← readMember members "output" asColor? none
    aliases := ← readMember members "aliases" asNamedTexts? []
    queries := ← readMember members "queries" asNamedTexts? [] }
  if settingsVersion < version then throw (.tooNew version) else return settings

/-- The settings that a document holds. -/
def read (document : String) : Except SettingsFault Settings :=
  match Toml.read document with
  | .ok members => ofMembers members
  | .error fault => .error (.malformed fault)

/-! ## Use -/

/-- The vocabulary with the settings' aliases and fields. -/
def vocabulary (settings : Settings) : Vocabulary :=
  let aliased := settings.aliases.foldl
    (fun vocabulary (short, canonical) => vocabulary.withAlias short canonical) Vocabulary.default
  settings.customFields.foldl Vocabulary.withCustomField aliased

/-- Whether colours may be used. -/
def allowsColor (settings : Settings) : Bool :=
  settings.color.getD true

/-! ## Writing -/

/-- Texts under names as JSON. -/
def namedTextsJson (entries : List (String × String)) : Json :=
  .object (entries.map fun (name, text) => (name, .string text))

/-- The settings as JSON, with their members in order. -/
def json (settings : Settings) : Json :=
  .object
    ([("aliases", namedTextsJson settings.aliases)]
    ++ (if settings.customFields.isEmpty then []
      else [("custom_fields", .ofTexts settings.customFields)])
    ++ [("output", .object (settings.color.map fun color => ("color", Json.bool color)).toList),
      ("queries", namedTextsJson settings.queries)]
    ++ (settings.tasksFile.map fun path => ("tasks_file", Json.string path)).toList
    ++ [("version", .ofNat settingsVersion)])

/-- The lines of a settings file that sets nothing and shows what can be set. -/
def templateLines : List String :=
  ["# tq - task query CLI configuration",
   "",
   "# Config schema version (do not modify)",
   "version = 1",
   "",
   "# Task file queried when --file / TQ_TASKS is not given",
   "# tasks_file = \"~/notes/tasks.json\"",
   "",
   "# Extra property names to accept without an \"unknown field\" warning",
   "# custom_fields = [\"owner\", \"estimate\"]",
   "",
   "# Output preferences",
   "[output]",
   "# color = true              # Enable colors (respects NO_COLOR env)",
   "",
   "# Extra field aliases: short name = canonical field",
   "[aliases]",
   "# who = \"owner\"",
   "",
   "# Saved queries, run with `tq query --saved <name>`",
   "[queries]",
   "# next = \"not done AND is not blocked sort by priority, due\"",
   "# week = \"due before 2025-01-08 group by status\""]

/-- The settings file that is made for a new user. -/
def template : String :=
  String.join (templateLines.map (· ++ "\n"))

end Settings

end TaskQuery

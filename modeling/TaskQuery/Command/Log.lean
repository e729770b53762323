/-
# The log

A run tells on the way what it does: which tasks it has read, which characters it skips,
which patterns it has to do without and what it finds. Each record is made at one place of
the program and has a level, and most of them are only for those who look for a fault.

A library takes the records, chooses among them and writes those chosen in lines of its own.
It is not part of the program, so what it does is a parameter: how it reads the directives
in which an environment says what it wants, and how it writes a line.
-/

import TaskQuery.Command.Arguments
import TaskQuery.Command.Environment
import TaskQuery.Pattern.Fault
import TaskQuery.Report.Style
import TaskQuery.Text.Escape
import TaskQuery.Text.Lowercase
import TaskQuery.Text.Padding

namespace TaskQuery

/-- How grave a record is. -/
inductive LogLevel
  | error
  | warn
  | info
  | debug
  | trace
  deriving DecidableEq, Repr

namespace LogLevel

/-- The levels by their number, from the gravest one on. -/
def rank : LogLevel → Nat
  | error => 1
  | warn => 2
  | info => 3
  | debug => 4
  | trace => 5

/-- Whether a record of a level is wanted where those down to a limit are. -/
def admits (limit level : LogLevel) : Bool :=
  level.rank ≤ limit.rank

/-- The name of a level. -/
def name : LogLevel → String
  | error => "ERROR"
  | warn => "WARN"
  | info => "INFO"
  | debug => "DEBUG"
  | trace => "TRACE"

end LogLevel

/-- A record of the log. -/
inductive LogRecord
  | loadedTasks (path : String) (count : Nat)
  | skippedCharacter (character : Char) (position : Nat)
  | refusedPattern (pattern : String) (fault : Pattern.Fault)
  | executedQuery (total found sortKeys : Nat)
  | groupedResults (field : String) (buckets : Nat)
  deriving DecidableEq, Repr

namespace LogRecord

/-- The level of a record. -/
def level : LogRecord → LogLevel
  | refusedPattern .. => .warn
  | loadedTasks .. | executedQuery .. | groupedResults .. => .debug
  | skippedCharacter .. => .trace

/-- Where a record is made, by which directives can choose it. -/
def target : LogRecord → String
  | loadedTasks .. => "tq::commands::tasks_file"
  | skippedCharacter .. => "taskql::query::lexer"
  | refusedPattern .. => "taskql::query::evaluator"
  | executedQuery .. | groupedResults .. => "taskql::query::engine"

/-- What a record says. -/
def message : LogRecord → String
  | loadedTasks .. => "loaded tasks"
  | skippedCharacter .. => "skipping unexpected character"
  | refusedPattern .. => "invalid pattern, predicate evaluates to false"
  | executedQuery .. => "executed query"
  | groupedResults .. => "grouped results"

/-- What a record is about, by names. A pattern stands between quotes and other texts as
they are. -/
def fields [Pattern.Wording] : LogRecord → List (String × String)
  | loadedTasks path count => [("path", path), ("count", toString count)]
  | skippedCharacter character position =>
      [("character", character.toString), ("position", toString position)]
  | refusedPattern pattern fault =>
      [("pattern", Text.quote pattern), ("error", fault.reason pattern)]
  | executedQuery total found sortKeys =>
      [("total", toString total), ("matched", toString found), ("sort_keys", toString sortKeys)]
  | groupedResults field buckets => [("field", field), ("buckets", toString buckets)]

/-- Whether a record tells of a result. All others are made before a run says anything. -/
def isOfResult : LogRecord → Bool
  | refusedPattern .. | executedQuery .. | groupedResults .. => true
  | loadedTasks .. | skippedCharacter .. => false

end LogRecord

/-- What the library of the log does: directives, if it can read them, say which records are
wanted by their level and the place where they are made, and a record becomes a line, with
codes for a terminal or without. -/
structure LogLibrary where
  filter? : (directives : String) → Option (LogLevel → (target : String) → Bool)
  line : (codes : Bool) → LogLevel → String → List (String × String) → String

/-- The level down to which records are wanted where the environment has no directives. -/
def Arguments.logLevel (arguments : Arguments) : LogLevel :=
  if arguments.verbose then .debug else if arguments.quiet then .error else .warn

namespace LogLibrary

/-- Whether a record gets into the log. Directives that cannot be read are as good as none. -/
def admits (library : LogLibrary) (environment : Environment) (arguments : Arguments)
    (record : LogRecord) : Bool :=
  match environment.logDirectives.bind library.filter? with
  | some wanted => wanted record.level record.target
  | none => arguments.logLevel.admits record.level

/-- The line of a record. -/
def recordLine [Pattern.Wording] (library : LogLibrary) (codes : Bool) (record : LogRecord) :
    String :=
  library.line codes record.level record.message record.fields

/-! ## A library -/

/-- Sets a text off with a code, if codes are wanted. -/
def setOff (codes : Bool) (code text : String) : String :=
  if codes then Style.control code ++ text ++ Style.control "0" else text

/-- The code for the name of a level. -/
def levelCode : LogLevel → String
  | .error => "31"
  | .warn => "33"
  | .info => "32"
  | .debug => "34"
  | .trace => "35"

/-- A field of a line. -/
def fieldText (codes : Bool) (field : String × String) : String :=
  " " ++ setOff codes "3" field.1 ++ setOff codes "2" "=" ++ field.2

/-- A library that knows a level as the one kind of directive, and writes a line with the
level, the message and the fields. -/
def usual : LogLibrary where
  filter? directives :=
    let levels : List LogLevel := [.error, .warn, .info, .debug, .trace]
    (levels.find? fun level => Text.lowercase level.name == Text.lowercase directives).map
      fun limit level _ => limit.admits level
  line codes level message fields :=
    setOff codes (levelCode level) (Text.padLeft 5 level.name) ++ " " ++ message
      ++ String.join (fields.map (fieldText codes)) ++ "\n"

end LogLibrary

end TaskQuery

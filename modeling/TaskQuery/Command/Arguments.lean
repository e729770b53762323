/-
# Arguments

The arguments of a run name a command, its options and its operand. Some options can
be given on every level, from the program itself down to the last command, and each
level is read and checked on its own: what occurs twice or contradicts itself on one
level is refused, while over several levels the innermost value counts.

An option's value is looked at when the next option or operand comes, or when the
level ends. So an unknown option is reported before an unsuitable value in front of
it.
-/

import TaskQuery.Calendar.Reading
import TaskQuery.Text.Digits

namespace TaskQuery

/-- Why a run ends before it begins. -/
inductive Usage
  | help
  | version
  | unknownArgument
  | unknownCommand
  | conflict
  | unsuitableValue
  | invalidValue
  | unneededValue
  | missingOperand
  deriving DecidableEq, Repr

namespace Usage

/-- The exit status. Asking for help or the version is no error. -/
def exitStatus : Usage → Nat
  | help | version => 0
  | _ => 2

/-- A line that says what is the matter. It stands for the text of the library that reads
arguments, which has more to say and sets it off where it writes to a terminal. -/
def message : Usage → String
  | help => "usage: tq [options] [query|explain|config|completions] ..."
  | version => "tq 0.1.0"
  | unknownArgument => "error: unexpected argument"
  | unknownCommand => "error: unrecognized subcommand"
  | conflict => "error: argument cannot be used with another or twice"
  | unsuitableValue => "error: a value is missing or not one of the possible values"
  | invalidValue => "error: invalid value"
  | unneededValue => "error: unexpected value"
  | missingOperand => "error: a required argument was not provided"

end Usage

/-! ## What can be given -/

/-- Options without a value. -/
inductive Flag
  | help
  | version
  | verbose
  | quiet
  | json
  | noColor
  | saved
  | strict
  | tokens
  | force
  deriving DecidableEq, Repr

/-- Options with a value. -/
inductive Parameter
  | file
  | limit
  | today
  deriving DecidableEq, Repr

/-- An option. -/
inductive CommandOption
  | flag (flag : Flag)
  | parameter (parameter : Parameter)
  deriving DecidableEq, Repr

namespace CommandOption

/-- The long name of an option. -/
def name : CommandOption → String
  | flag .help => "help"
  | flag .version => "version"
  | flag .verbose => "verbose"
  | flag .quiet => "quiet"
  | flag .json => "json"
  | flag .noColor => "no-color"
  | flag .saved => "saved"
  | flag .strict => "strict"
  | flag .tokens => "tokens"
  | flag .force => "force"
  | parameter .file => "file"
  | parameter .limit => "limit"
  | parameter .today => "today"

/-- The letter of an option, if it has one. -/
def letter? : CommandOption → Option Char
  | flag .help => some 'h'
  | flag .version => some 'V'
  | flag .verbose => some 'v'
  | flag .quiet => some 'q'
  | flag .saved => some 's'
  | parameter .file => some 'f'
  | parameter .limit => some 'l'
  | _ => none

end CommandOption

/-- What is behind a level of the arguments. -/
inductive CommandName
  | program
  | query
  | explain
  | config
  | showConfig
  | configPath
  | initConfig
  | completions
  | help
  deriving DecidableEq, Repr

namespace CommandName

/-- The options of every level. -/
def commonOptions : List CommandOption :=
  [.flag .help, .flag .version, .flag .verbose, .flag .quiet, .flag .json, .flag .noColor,
   .parameter .file]

/-- The options of a level. -/
def options : CommandName → List CommandOption
  | query =>
      commonOptions ++ [.flag .saved, .flag .strict, .parameter .limit, .parameter .today]
  | explain => commonOptions ++ [.flag .saved, .flag .tokens]
  | initConfig => commonOptions ++ [.flag .force]
  | _ => commonOptions

/-- The commands below a level, by every name that they have. -/
def commands : CommandName → List (String × CommandName)
  | program =>
      [("query", query), ("q", query), ("explain", explain), ("x", explain), ("config", config),
       ("completions", completions), ("help", help)]
  | config =>
      [("show", showConfig), ("path", configPath), ("init", initConfig), ("help", help)]
  | _ => []

/-- Whether a level has an operand. -/
def takesOperand : CommandName → Bool
  | query | explain | completions => true
  | _ => false

/-- Whether a level has to have its operand. -/
def needsOperand : CommandName → Bool
  | explain | completions => true
  | _ => false

/-- The shells that completions are known for. -/
def shells : List String :=
  ["bash", "zsh", "fish", "powershell"]

/-- Whether an operand is one that a level can have. -/
def allowsOperand : CommandName → String → Bool
  | completions, operand => shells.contains operand
  | _, _ => true

/-- What asking for help about some commands comes to. -/
def helpAbout : CommandName → List String → Usage
  | _, [] => .help
  | command, word :: words =>
      match command.commands.lookup word with
      | some inner => inner.helpAbout words
      | none => .unknownCommand

end CommandName

/-! ## Levels -/

/-- What has been read and waits to be looked at. -/
inductive Waiting
  | nothing
  | forValue (parameter : Parameter)
  | value (parameter : Parameter) (text : String)
  | operand (text : String)
  deriving DecidableEq, Repr

/-- What was given on a level. -/
structure Level where
  flags : List Flag := []
  file : Option String := none
  limit : Option Nat := none
  today : Option Date := none
  operand : Option String := none
  waiting : Waiting := .nothing
  deriving Repr

/-- A number of 64 bits in decimal digits, possibly with a plus sign. -/
def limitOfText? (text : String) : Option Nat :=
  let digits := match text.toList with
    | '+' :: digits => digits
    | digits => digits
  let value := Text.natOfDigits digits
  if !digits.isEmpty && digits.all Char.isDigit && value < UInt64.size then some value else none

namespace Level

/-- Gives an option a value that it does not have yet. -/
def giveOnce (current : Option α) (value : Except Usage α) : Except Usage (Option α) :=
  if current.isSome then .error .conflict else value.map some

/-- Gives a value to an option. -/
def give (level : Level) (parameter : Parameter) (text : String) : Except Usage Level :=
  match parameter with
  | .file => do
      let value := if text.isEmpty then .error .unsuitableValue else .ok text
      return { level with file := ← giveOnce level.file value }
  | .limit => do
      let value := (limitOfText? text).elim (.error .invalidValue) .ok
      return { level with limit := ← giveOnce level.limit value }
  | .today => do
      let value := (Date.ofText? text).elim (.error .invalidValue) .ok
      return { level with today := ← giveOnce level.today value }

/-- Looks at what waits. -/
def settle (command : CommandName) (level : Level) : Except Usage Level :=
  let settled := { level with waiting := .nothing }
  match level.waiting with
  | .nothing => .ok settled
  | .forValue _ => .error .unsuitableValue
  | .value parameter text => settled.give parameter text
  | .operand text =>
      if command.allowsOperand text then .ok { settled with operand := some text }
      else .error .unsuitableValue

/-- Gives a flag. -/
def raise (command : CommandName) (level : Level) (flag : Flag) : Except Usage Level := do
  let level ← level.settle command
  match flag with
  | .help => throw .help
  | .version => throw .version
  | _ =>
      if level.flags.contains flag then throw .conflict
      else return { level with flags := level.flags ++ [flag] }

/-- Gives an option, with a value if one is attached to it. -/
def giveOption (command : CommandName) (level : Level) (option : CommandOption)
    (attached : Option String) : Except Usage Level :=
  match option, attached with
  | .flag flag, none => level.raise command flag
  | .flag _, some _ => .error .unneededValue
  | .parameter parameter, some text => do (← level.settle command).give parameter text
  | .parameter parameter, none => do
      return { ← level.settle command with waiting := .forValue parameter }

/-- Gives the option with a long name. -/
def giveLong (command : CommandName) (level : Level) (word : List Char) : Except Usage Level :=
  let name := String.ofList (word.takeWhile (· != '='))
  let attached := match word.dropWhile (· != '=') with
    | [] => none
    | _ :: value => some (String.ofList value)
  match command.options.find? fun option => option.name == name with
  | some option => level.giveOption command option attached
  | none => .error .unknownArgument

/-- Gives the options of some letters. What follows a letter whose option has a value
is that value, with or without an equals sign in front. -/
def giveLetters (command : CommandName) (level : Level) : List Char → Except Usage Level
  | [] => .ok level
  | letter :: letters =>
      match command.options.find? fun option => option.letter? == some letter with
      | none => .error .unknownArgument
      | some (.flag flag) => do (← level.raise command flag).giveLetters command letters
      | some option =>
          let attached := match letters with
            | [] => none
            | '=' :: value => some (String.ofList value)
            | value => some (String.ofList value)
          level.giveOption command option attached

/-- Whether the operand has been given. -/
def hasOperand (level : Level) : Bool :=
  level.operand.isSome || match level.waiting with
    | .operand _ => true
    | _ => false

/-- Gives an operand. Where none is expected, a word can only be meant as a command,
unless it stands behind the end of the options. -/
def giveOperand (command : CommandName) (level : Level) (trailing : Bool) (word : String) :
    Except Usage Level :=
  if command.takesOperand && !level.hasOperand then do
    return { ← level.settle command with waiting := .operand word }
  else if command.commands.isEmpty then .error .unknownArgument
  else if trailing && (command.commands.lookup word).isSome then .error .unknownArgument
  else .error .unknownCommand

/-- Takes a word as an option or its value, if it is one. -/
def giveWord? (command : CommandName) (level : Level) (word : String) :
    Option (Except Usage Level) :=
  match word.toList with
  | '-' :: '-' :: name => some (level.giveLong command name)
  | '-' :: letter :: letters => some (level.giveLetters command (letter :: letters))
  | _ =>
      match level.waiting with
      | .forValue parameter => some (.ok { level with waiting := .value parameter word })
      | _ => none

/-- The command that a word stands for, unless an option waits for the word. -/
def command? (command : CommandName) (level : Level) (word : String) : Option CommandName :=
  match level.waiting with
  | .forValue _ => none
  | _ => command.commands.lookup word

/-- Reads the words of a level, up to a command. Two hyphens end the options, and with
them the commands. -/
def readWords (command : CommandName) : Level → (trailing : Bool) → List String →
    Except Usage (Level × Option (CommandName × List String))
  | level, _, [] => .ok (level, none)
  | level, true, word :: words => do
      (← level.giveOperand command true word).readWords command true words
  | level, false, word :: words =>
      match level.command? command word with
      | some inner => .ok (level, some (inner, words))
      | none =>
          if word = "--" then level.readWords command true words
          else
            match level.giveWord? command word with
            | some given => do (← given).readWords command false words
            | none => do
                (← level.giveOperand command false word).readWords command false words

/-- Ends a level. Where no task file was given the one that the environment names
counts, which has to have a name then. -/
def finish (command : CommandName) (tasksFile : Option String) (level : Level) :
    Except Usage Level := do
  let level ← level.settle command
  if level.file.isNone && tasksFile == some "" then throw .unsuitableValue
  if level.flags.contains .verbose && level.flags.contains .quiet then throw .conflict
  if command.needsOperand && level.operand.isNone then throw .missingOperand
  return level

end Level

/-! ## All arguments -/

/-- A query to run. -/
structure QueryRequest where
  text : String
  saved : Bool
  strict : Bool
  limit : Option Nat
  today : Option Date
  deriving DecidableEq, Repr

/-- A query to explain. -/
structure ExplainRequest where
  text : String
  saved : Bool
  tokens : Bool
  deriving DecidableEq, Repr

/-- What a run is asked to do. -/
inductive Request
  | nothing
  | query (request : QueryRequest)
  | explain (request : ExplainRequest)
  | showConfig
  | configPath
  | initConfig (force : Bool)
  | completions (shell : String)
  deriving DecidableEq, Repr

/-- The meaning of a run's arguments. -/
structure Arguments where
  verbose : Bool
  quiet : Bool
  json : Bool
  noColor : Bool
  file : Option String
  request : Request
  deriving DecidableEq, Repr

namespace Arguments

/-- How many levels there are at most. -/
def levelLimit : Nat := 3

/-- The levels of some arguments, the innermost first. A level is checked after those
inside it. -/
def levels (tasksFile : Option String) :
    (limit : Nat) → CommandName → List String → Except Usage (List (CommandName × Level))
  | 0, _, _ => .ok []
  | limit + 1, command, words => do
      let (level, next) ← Level.readWords command {} false words
      let inner ← match next with
        | none => pure []
        | some (.help, words) => throw (command.helpAbout words)
        | some (name, words) => levels tasksFile limit name words
      return inner ++ [(command, ← level.finish command tasksFile)]

/-- What the innermost level asks for. -/
def requestOf (command : CommandName) (level : Level) : Request :=
  let text := level.operand.getD ""
  let raised := level.flags.contains
  match command with
  | .query => .query ⟨text, raised .saved, raised .strict, level.limit, level.today⟩
  | .explain => .explain ⟨text, raised .saved, raised .tokens⟩
  | .config | .showConfig => .showConfig
  | .configPath => .configPath
  | .initConfig => .initConfig (raised .force)
  | .completions => .completions text
  | .program | .help => .nothing

/-- The meaning of some levels, of which the innermost comes first. -/
def ofLevels (tasksFile : Option String) (levels : List (CommandName × Level)) : Arguments :=
  let raised := fun flag => levels.any fun level => level.2.flags.contains flag
  { verbose := raised .verbose
    quiet := raised .quiet
    json := raised .json
    noColor := raised .noColor
    file := (levels.findSome? fun level => level.2.file).or tasksFile
    request := match levels with
      | (command, level) :: _ => requestOf command level
      | [] => .nothing }

/-- Reads the arguments of a run, where the environment may name a task file. -/
def read (tasksFile : Option String) (words : List String) : Except Usage Arguments := do
  return ofLevels tasksFile (← levels tasksFile levelLimit .program words)

end Arguments

end TaskQuery

/-
# Runs

What the program does for each request. A run reads the settings first, except where
it only shows or makes their file, and a query reads its task file next; only then
is the query text looked at. The one thing that a run writes is a settings file.

Everything is done through a `Host`, so a run is a function of the arguments, the
environment and the state of the files. That goes for the log too: a run hands its records to
the host, and which of them become lines on the second output is decided afterwards, by the
arguments, the environment and the library of the log.
-/

import TaskQuery.Command.Arguments
import TaskQuery.Command.Environment
import TaskQuery.Command.Failure
import TaskQuery.Command.Log
import TaskQuery.Query.Execution
import TaskQuery.Query.Parser
import TaskQuery.Report.Explanation
import TaskQuery.Report.Table

namespace TaskQuery

variable [Pattern.Wording]

/-- What a run writes to its two outputs. -/
structure Output where
  stdout : String := ""
  stderr : String := ""
  deriving DecidableEq, Repr

/-- How a run ends. A run is aborted when it has to tell a due date at an end of the
calendar; what it had written to its second output stays. -/
inductive RunOutcome
  | usage (usage : Usage)
  | finished (output : Output)
  | failed (json : Bool) (failure : Failure)
  | aborted (stderr : String)
  deriving DecidableEq, Repr

namespace RunOutcome

/-- The exit status. -/
def exitStatus : RunOutcome → Nat
  | usage cause => cause.exitStatus
  | finished _ => 0
  | failed _ failure => failure.exitStatus
  | aborted _ => 101

/-- Everything that is written, the report of a failure included and the log left out. -/
def output : RunOutcome → Output
  | usage cause =>
      if cause.exitStatus = 0 then { stdout := cause.message ++ "\n" }
      else { stderr := cause.message ++ "\n" }
  | finished output => output
  | failed json failure => { stderr := failure.report json }
  | aborted stderr => { stderr }

end RunOutcome

/-- How results are to be shown. -/
structure Manner where
  json : Bool
  quiet : Bool
  colors : Bool
  deriving DecidableEq, Repr

namespace Manner

/-- The manner that arguments and environment ask for. -/
def of (arguments : Arguments) (environment : Environment) : Manner where
  json := arguments.json
  quiet := arguments.quiet
  colors := !arguments.noColor && !environment.noColor

/-- A result as JSON or as text; text is left out of a quiet run. -/
def render (manner : Manner) (json : Json) (text : String) : String :=
  if manner.json then json.pretty ++ "\n" else if manner.quiet then "" else text

end Manner

/-- A line. -/
def textLine (text : String) : String :=
  text ++ "\n"

namespace Settings

/-- The text of a query that is given directly or by its name in the settings. -/
def queryText (settings : Settings) (text : String) (saved : Bool) : Except Failure String :=
  if saved then
    match settings.queries.lookup text with
    | some query => .ok query
    | none => .error (.config (.unknownQuery text (settings.queries.map Prod.fst)))
  else .ok text

/-- The path of the task file: the given one, or the one that the settings name. -/
def tasksPath (settings : Settings) (home given : Option String) : Except Failure String :=
  match given.or (settings.tasksFile.map (Path.expandHome home)) with
  | some path => .ok path
  | none => .error (.tasks .notGiven)

/-- Settings and their file for people. -/
def text (settings : Settings) : String :=
  "Settings:\n"
    ++ settings.tasksFile.elim "" (fun path => textLine ("  tasks_file: " ++ path))
    ++ (if settings.customFields.isEmpty then ""
      else textLine ("  custom_fields: " ++ ", ".intercalate settings.customFields))
    ++ "\n[output]\n"
    ++ settings.color.elim "" (fun color => textLine ("  color: " ++ toString color))
    ++ "\n[aliases]\n"
    ++ String.join (settings.aliases.map fun (short, canonical) =>
      textLine ("  " ++ short ++ " = " ++ canonical))
    ++ "\n[queries]\n"
    ++ String.join (settings.queries.map fun (name, query) =>
      textLine ("  " ++ name ++ " = " ++ query))

end Settings

/-! ## Queries -/

/-- What is logged while a text is read as a query. -/
def readingRecords (input : String) : List LogRecord :=
  (tokenize input).strays.map fun stray => .skippedCharacter stray.character stray.position

/-- What is logged about the patterns that an evaluator has to do without. -/
def Evaluator.refusedRecords (evaluator : Evaluator) : List LogRecord :=
  evaluator.compiled.filterMap fun (pattern, compiled) =>
    match compiled with
    | .ok _ => none
    | .error fault => some (.refusedPattern pattern fault)

/-- A query that has been read, and what was forgiven. -/
structure PreparedQuery where
  query : Query
  diagnostics : List Diagnostic
  deriving DecidableEq, Repr

namespace PreparedQuery

/-- Reads the query of a request. A strict request forgives nothing. -/
def of (settings : Settings) (request : QueryRequest) : Except Failure PreparedQuery := do
  let text ← settings.queryText request.text request.saved
  if request.strict then
    match Query.parseStrict settings.vocabulary text with
    | .ok query => return ⟨query, []⟩
    | .error problem => throw (.query problem)
  else
    let outcome := Query.parse settings.vocabulary text
    return ⟨outcome.query, outcome.diagnostics⟩

/-- What is logged while the query of a request is read. -/
def records (settings : Settings) (request : QueryRequest) : List LogRecord :=
  match settings.queryText request.text request.saved with
  | .ok text => readingRecords text
  | .error _ => []

/-- What a run says about what was forgiven. -/
def warnings (prepared : PreparedQuery) (manner : Manner) : String :=
  if manner.json || manner.quiet then ""
  else String.join (prepared.diagnostics.map fun diagnostic =>
    textLine (styled manner.colors [.yellow] ("warning: " ++ diagnostic.message)))

/-- The first tasks of a list, up to a limit. -/
def limited (limit : Option Nat) (tasks : List Task) : List Task :=
  match limit with
  | some count => tasks.take count
  | none => tasks

/-- The result of a query as JSON. -/
def json (prepared : PreparedQuery) (setting : Setting) (limit : Option Nat)
    (tasks : List Task) : Json :=
  let query := prepared.query
  if query.group.isSome then
    let groups := (query.executeGrouped setting tasks).map fun group =>
      { group with tasks := limited limit group.tasks }
    groupsListing query.text groups prepared.diagnostics
  else
    tasksListing query.text (limited limit (query.execute setting tasks)) prepared.diagnostics

/-- The result of a query as tables, if they can be shown. -/
def table? (prepared : PreparedQuery) (setting : Setting) (colors : Bool) (limit : Option Nat)
    (tasks : List Task) : Option String :=
  let query := prepared.query
  if query.group.isSome then
    let groups := (query.executeGrouped setting tasks).map fun group =>
      { group with tasks := limited limit group.tasks }
    groupsTable? colors setting.today groups
  else tasksTable? colors setting.today (limited limit (query.execute setting tasks))

/-- What is logged while a query is executed. -/
def resultRecords (prepared : PreparedQuery) (setting : Setting) (tasks : List Task) :
    List LogRecord :=
  let query := prepared.query
  (Evaluator.of setting query.filter).refusedRecords
    ++ [.executedQuery tasks.length (query.execute setting tasks).length query.sort.length]
    ++ (query.group.map fun field =>
      LogRecord.groupedResults field (query.executeGrouped setting tasks).groups.length).toList

end PreparedQuery

/-- Shows the result of a query. Its table is made in a quiet run too, and may then
still not be showable. -/
def queryOutcome (manner : Manner) (settings : Settings) (request : QueryRequest)
    (prepared : PreparedQuery) (today : Date) (tasks : List Task) : RunOutcome :=
  let setting : Setting := ⟨settings.vocabulary, .ofTasks tasks, today⟩
  let stderr := prepared.warnings manner
  if manner.json then
    .finished ⟨(prepared.json setting request.limit tasks).pretty ++ "\n", stderr⟩
  else
    match prepared.table? setting (manner.colors && settings.allowsColor) request.limit tasks with
    | some table => .finished ⟨if manner.quiet then "" else table, stderr⟩
    | none => .aborted stderr

/-- What is logged while a query is explained, whose text is read once more for its tokens. -/
def explainRecords (request : ExplainRequest) (input : String) : List LogRecord :=
  readingRecords input ++ if request.tokens then readingRecords input else []

/-- Shows how a query was read. -/
def explainOutput (manner : Manner) (settings : Settings) (request : ExplainRequest)
    (input : String) : Output :=
  let outcome := Query.parse settings.vocabulary input
  let explanation : Explanation := {
    input
    query := outcome.query
    tokens := if request.tokens then some (tokenize input).tokens else none
    diagnostics := outcome.diagnostics }
  { stdout := manner.render explanation.json
      (explanation.text (manner.colors && settings.allowsColor)) }

/-! ## Settings -/

/-- Shows where the settings file is. Its path is shown by a quiet run too. -/
def configPathOutput (manner : Manner) (path : String) (isThere : Bool) : Output :=
  let json := Json.object [("exists", .bool isThere), ("path", .string path)]
  { stdout := { manner with quiet := false }.render json (textLine path) }

/-- Shows the settings. -/
def showConfigOutput (manner : Manner) (settings : Settings) (path : String) (isThere : Bool) :
    Output :=
  let json := Json.object
    [("config", settings.json), ("exists", .bool isThere), ("path", .string path)]
  let text := styled manner.colors [.green, .bold] "Configuration" ++ "\n\n"
    ++ textLine ("File: " ++ path)
    ++ textLine ("Exists: " ++ toString isThere) ++ "\n"
    ++ (if isThere then settings.text
      else textLine "(No config file exists. Run 'tq config init' to create one.)")
  { stdout := manner.render json text }

/-- Says that a settings file was made. -/
def initConfigOutput (manner : Manner) (path : String) : Output :=
  let json := Json.object [("path", .string path), ("status", .string "success")]
  { stdout := manner.render json (textLine ("Created config at: " ++ path)) }

/-- What a run says that was asked for nothing. -/
def greeting (manner : Manner) : Output :=
  { stdout := if manner.quiet then ""
      else "tq - task query CLI\nUse --help for usage information\n" }

/-! ## Steps with files -/

section

variable {m : Type → Type} [Monad m]

/-- The path of the settings file. -/
def findSettings (environment : Environment) : ExceptT Failure m String :=
  match environment.settingsPath with
  | some path => pure path
  | none => throw (.config .noDirectory)

/-- Reads the settings. Without a file everything is left at its default. -/
def loadSettings (host : Host m) (environment : Environment) : ExceptT Failure m Settings := do
  let path ← findSettings environment
  if ← host.isThere path then
    match ← host.read path with
    | .error fault => throw (.config (.unreadable fault))
    | .ok document =>
        match Settings.read document with
        | .ok settings => return settings
        | .error fault => throw (.config (.unusable fault))
  else return {}

/-- Reads a task file. -/
def loadTasks (host : Host m) (path : String) : ExceptT Failure m (List Task) := do
  match ← host.read path with
  | .error fault => throw (.tasks (.unreadable path fault))
  | .ok document =>
      match TaskFile.read document with
      | .ok tasks =>
          host.log [.loadedTasks path tasks.length]
          return tasks
      | .error fault => throw (.tasks (.unusable path fault))

/-- Executes a query on some tasks and shows its result. -/
def runPrepared (host : Host m) (manner : Manner) (settings : Settings) (request : QueryRequest)
    (tasks : List Task) (prepared : PreparedQuery) (today : Date) :
    ExceptT Failure m RunOutcome := do
  host.log (prepared.resultRecords ⟨settings.vocabulary, .ofTasks tasks, today⟩ tasks)
  return queryOutcome manner settings request prepared today tasks

/-- Runs a query. -/
def runQuery (host : Host m) (environment : Environment) (arguments : Arguments)
    (manner : Manner) (request : QueryRequest) : ExceptT Failure m RunOutcome := do
  let settings ← loadSettings host environment
  let path ← ExceptT.mk (pure (settings.tasksPath environment.homeDirectory arguments.file))
  let tasks ← loadTasks host path
  host.log (PreparedQuery.records settings request)
  let prepared ← ExceptT.mk (pure (PreparedQuery.of settings request))
  let today ← match request.today with
    | some date => pure date
    | none => ExceptT.lift host.today
  runPrepared host manner settings request tasks prepared today

/-- Explains a query. -/
def runExplain (host : Host m) (environment : Environment) (manner : Manner)
    (request : ExplainRequest) : ExceptT Failure m RunOutcome := do
  let settings ← loadSettings host environment
  let input ← ExceptT.mk (pure (settings.queryText request.text request.saved))
  host.log (explainRecords request input)
  return .finished (explainOutput manner settings request input)

/-- Shows the settings. -/
def runShowConfig (host : Host m) (environment : Environment) (manner : Manner) :
    ExceptT Failure m RunOutcome := do
  let settings ← loadSettings host environment
  let path ← findSettings environment
  return .finished (showConfigOutput manner settings path (← host.isThere path))

/-- Shows where the settings file is. -/
def runConfigPath (host : Host m) (environment : Environment) (manner : Manner) :
    ExceptT Failure m RunOutcome := do
  let path ← findSettings environment
  return .finished (configPathOutput manner path (← host.isThere path))

/-- Makes a settings file, in place of one that is there only if that is forced. -/
def runInitConfig (host : Host m) (environment : Environment) (manner : Manner) (force : Bool) :
    ExceptT Failure m RunOutcome := do
  let path ← findSettings environment
  if (← host.isThere path) && !force then throw (.config (.alreadyExists path))
  match ← host.makeParents path with
  | .error fault => throw (.config (.directoryNotMade fault))
  | .ok _ =>
      match ← host.write path Settings.template with
      | .error fault => throw (.config (.notWritten fault))
      | .ok _ => return .finished (initConfigOutput manner path)

/-- Does what a request asks for. Scripts for shells are not part of this program, so a
request for one is accepted and gives nothing. -/
def runRequest (host : Host m) (environment : Environment) (arguments : Arguments) :
    ExceptT Failure m RunOutcome :=
  let manner := Manner.of arguments environment
  match arguments.request with
  | .nothing => return .finished (greeting manner)
  | .query request => runQuery host environment arguments manner request
  | .explain request => runExplain host environment manner request
  | .showConfig => runShowConfig host environment manner
  | .configPath => runConfigPath host environment manner
  | .initConfig force => runInitConfig host environment manner force
  | .completions _ => return .finished {}

/-- A run of the program. -/
def run (host : Host m) (environment : Environment) (words : List String) : m RunOutcome := do
  match Arguments.read environment.tasksFile words with
  | .error usage => return .usage usage
  | .ok arguments =>
      match ← (runRequest host environment arguments).run with
      | .ok outcome => return outcome
      | .error failure => return .failed arguments.json failure

end

/-! ## The log of a run -/

/-- What a run writes, with the lines of its log. They stand around what the run says besides
its result: what it logs before it has a query comes first, and what it logs while it executes
the query comes last. -/
def Output.withLog (output : Output) (line : LogRecord → String) (log : List LogRecord) :
    Output :=
  let lines (records : List LogRecord) := String.join (records.map line)
  { output with
    stderr := lines (log.filter (!·.isOfResult)) ++ output.stderr
      ++ lines (log.filter (·.isOfResult)) }

/-- The records of a run that get into its log. Without arguments that mean anything there is
no log yet. -/
def admittedRecords (library : LogLibrary) (environment : Environment) (words : List String)
    (log : List LogRecord) : List LogRecord :=
  match Arguments.read environment.tasksFile words with
  | .ok arguments => log.filter (library.admits environment arguments)
  | .error _ => []

/-- A run of the program, and everything that it writes. -/
def runWithLog {m : Type → Type} [Monad m] (library : LogLibrary) (host : Host m)
    (environment : Environment) (words : List String) : m (RunOutcome × Output) := do
  let (outcome, log) ← (run host.listening environment words).run []
  let line := library.recordLine (!environment.noLogColors)
  return (outcome, outcome.output.withLog line (admittedRecords library environment words log))

end TaskQuery

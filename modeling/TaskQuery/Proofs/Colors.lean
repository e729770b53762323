/-
# Runs without colours

Colours are turned off in three ways: by an argument, by a variable of the environment and by
the settings. The first two are known before a run starts, and then everything that it says
is plain if its inputs are. The settings are found later, and each result has to ask for them.
Tables and explanations do. Two texts do not: the heading above the settings, and the warnings
of a query. These still have codes when nothing but the settings turns colours off, and they
are the only ones among what a run says.

The log asks nobody but the environment. Each of its lines has codes unless the variable that
turns colours off holds a text, whatever the arguments and the settings say. What it takes for
such a line without any argument for it is a query with a pattern that is refused.
-/

import TaskQuery.Proofs.PlainSteps

namespace TaskQuery

open FileSystem

/-! ## Results -/

/-- What a run says besides its result, if it is not about a failure. -/
def RunOutcome.warnings : RunOutcome → String
  | finished output => output.stderr
  | aborted stderr => stderr
  | usage _ | failed _ _ => ""

/-- A result as JSON is plain, and so is a quiet run's, whatever their text is. -/
theorem Manner.isPlain_render_iff (manner : Manner) (json : Json) (text : String) :
    IsPlain (manner.render json text) ↔
      (!manner.json && !manner.quiet) = false ∨ IsPlain text := by
  obtain ⟨asJson, quiet, colors⟩ := manner
  cases asJson with
  | true => exact iff_of_true (.append (Json.isPlain_pretty _) (.literal rfl)) (Or.inl rfl)
  | false =>
      cases quiet with
      | true => exact iff_of_true (.literal rfl) (Or.inl rfl)
      | false => exact (or_iff_right Bool.noConfusion).symm

section

variable [Pattern.Wording]

/-- Codes are written where colours are wanted and nothing asks the settings: in a heading
above the result, if there is one, and in warnings, if there can be any. -/
structure RunOutcome.HasCodes (colors heading warns : Bool) (outcome : RunOutcome) : Prop where
  stdout : IsPlain outcome.output.stdout ↔ (colors && heading) = false
  stderr : IsPlain outcome.output.stderr ↔ colors = false ∨ outcome.warnings = ""
  warnings : warns = false → outcome.warnings = ""

namespace RunOutcome.HasCodes

variable {colors : Bool}

theorem silent {stdout : String} (plain : IsPlain stdout) :
    (RunOutcome.finished { stdout }).HasCodes colors false false :=
  ⟨iff_of_true plain (Bool.and_false colors), iff_of_true (.literal rfl) (Or.inr rfl), fun _ => rfl⟩

/-- A query gives warnings besides its result. -/
theorem warning {manner : Manner} {prepared : PreparedQuery} {stdout : String}
    (plain : IsPlain stdout) (warns : IsPlain (prepared.warnings manner) ↔
      colors = false ∨ prepared.warnings manner = "") :
    (RunOutcome.finished ⟨stdout, prepared.warnings manner⟩).HasCodes colors false true :=
  ⟨iff_of_true plain (Bool.and_false colors), warns, Bool.noConfusion⟩

end RunOutcome.HasCodes

/-- What is said about arguments that mean nothing is plain. -/
theorem isPlain_usage (cause : Usage) :
    IsPlain (RunOutcome.usage cause).output.stdout ∧
      IsPlain (RunOutcome.usage cause).output.stderr := by
  have line : IsPlain (cause.message ++ "\n") :=
    IsPlain.append (by cases cause <;> exact .literal rfl) (.literal rfl)
  rw [RunOutcome.output]
  split
  · exact ⟨line, .literal rfl⟩
  · exact ⟨.literal rfl, line⟩

/-- Warnings are set off where colours are wanted, whatever the settings say. -/
theorem PreparedQuery.isPlain_warnings_iff {prepared : PreparedQuery} (manner : Manner)
    (tells : TellsPlain prepared.diagnostics) :
    TaskQuery.IsPlain (prepared.warnings manner) ↔
      manner.colors = false ∨ prepared.warnings manner = "" := by
  rw [warnings]
  split
  · exact iff_of_true (.literal rfl) (Or.inr rfl)
  cases wanted : manner.colors with
  | false =>
      refine iff_of_true (.join_map fun diagnostic member => ?_) (Or.inl rfl)
      exact isPlain_textLine (.styled _ (.append (.literal rfl) (tells diagnostic member)))
  | true =>
      rw [or_iff_right (by decide)]
      cases prepared.diagnostics with
      | nil => exact iff_of_true (.literal rfl) rfl
      | cons diagnostic diagnostics =>
          have codes : ¬ TaskQuery.IsPlain (String.join ((diagnostic :: diagnostics).map
              fun diagnostic =>
                textLine (styled true [.yellow] ("warning: " ++ diagnostic.message)))) := by
            rw [List.map_cons, String.join_cons]
            exact fun plain => not_isPlain_styled (by decide) _ plain.of_append.of_append
          refine iff_of_false codes fun empty => codes ?_
          rw [empty]
          exact .literal rfl

theorem queryOutcome_hasCodes {manner : Manner} {settings : Settings} {request : QueryRequest}
    {prepared : PreparedQuery} {today : Date} {tasks : List Task}
    (off : (manner.colors && settings.allowsColor) = false)
    (tells : TellsPlain prepared.diagnostics) (plain : ∀ task ∈ tasks, task.IsPlain) :
    (queryOutcome manner settings request prepared today tasks).HasCodes
      manner.colors false true := by
  have warns := prepared.isPlain_warnings_iff manner tells
  rw [queryOutcome, off]
  split
  · exact .warning (.append (Json.isPlain_pretty _) (.literal rfl)) warns
  split
  · rename_i table shown
    refine .warning ?_ warns
    split
    · exact .literal rfl
    · exact PreparedQuery.isPlain_of_table plain shown
  · exact ⟨iff_of_true (.literal rfl) (Bool.and_false _), warns, Bool.noConfusion⟩

theorem explainOutput_hasCodes (refuses : Pattern.RefusesPlainly) {manner : Manner}
    {settings : Settings} (request : ExplainRequest) {input : String}
    (off : (manner.colors && settings.allowsColor) = false) (plain : settings.IsPlain)
    (isInput : IsPlain input) :
    (RunOutcome.finished (explainOutput manner settings request input)).HasCodes
      manner.colors false false := by
  have outcome := Query.parse_isPlain refuses plain.offersPlain isInput
  rw [explainOutput, off]
  exact .silent ((manner.isPlain_render_iff _ _).mpr
    (Or.inr (Explanation.isPlain_text isInput outcome.query outcome.tells)))

theorem configPathOutput_hasCodes (manner : Manner) {path : String} (isThere : Bool)
    (isPath : IsPlain path) :
    (RunOutcome.finished (configPathOutput manner path isThere)).HasCodes
      manner.colors false false :=
  .silent ((Manner.isPlain_render_iff _ _ _).mpr (Or.inr (isPlain_textLine isPath)))

theorem initConfigOutput_hasCodes (manner : Manner) {path : String} (isPath : IsPlain path) :
    (RunOutcome.finished (initConfigOutput manner path)).HasCodes manner.colors false false :=
  .silent ((Manner.isPlain_render_iff _ _ _).mpr
    (Or.inr (isPlain_textLine (.append (.literal rfl) isPath))))

theorem greeting_hasCodes (manner : Manner) :
    (RunOutcome.finished (greeting manner)).HasCodes manner.colors false false := by
  refine .silent ?_
  split <;> exact .literal rfl

/-- The heading above the settings is set off where colours are wanted, whatever the settings
say. -/
theorem showConfigOutput_hasCodes (manner : Manner) {settings : Settings} {path : String}
    (isThere : Bool) (plain : settings.IsPlain) (isPath : IsPlain path) :
    (RunOutcome.finished (showConfigOutput manner settings path isThere)).HasCodes
      manner.colors (!manner.json && !manner.quiet) false := by
  refine ⟨(manner.isPlain_render_iff _ _).trans ?_, iff_of_true (.literal rfl) (Or.inr rfl),
    fun _ => rfl⟩
  cases manner.colors with
  | true =>
      rw [Bool.true_and]
      refine or_iff_left fun whole =>
        not_isPlain_styled (List.cons_ne_nil .green [.bold]) "Configuration" ?_
      exact whole.of_append.of_append.of_append.of_append.of_append
  | false =>
      refine iff_of_true (Or.inr ?_) rfl
      refine .append (.append (.append (.append (.append (.styled _ (.literal rfl)) (.literal rfl))
        (isPlain_textLine (.append (.literal rfl) isPath))) (isPlain_textLine
          (.append (.literal rfl) (isPlain_bool isThere)))) (.literal rfl)) ?_
      split
      · exact plain.text
      · exact isPlain_textLine (.literal rfl)

end

/-! ## Requests -/

/-- The settings that a run reads leave no colours to a result that asks them. -/
def LeavesNoColors (today : Date) (environment : Environment) (files : FileSystem)
    (manner : Manner) : Prop :=
  ∀ settings, loadSettings (host today) environment files = (.ok settings, files) →
    (manner.colors && settings.allowsColor) = false

/-- A run shows the heading above the settings, as text. -/
def Arguments.showHeading (arguments : Arguments) : Bool :=
  arguments.request = .showConfig && !arguments.json && !arguments.quiet

/-- A request is for a query. -/
def Request.isQuery : Request → Bool
  | query _ => true
  | _ => false

section

variable {today : Date} {environment : Environment} {files : FileSystem} {manner : Manner}
  {arguments : Arguments}

/-- Settings that can be read can be shown. -/
theorem runShowConfig_of_loaded {settings : Settings}
    (loaded : loadSettings (host today) environment files = (.ok settings, files)) :
    ∃ output, runShowConfig (host today) environment manner files =
      (.ok (.finished output), files) := by
  rw [runShowConfig, FileStep.bind_apply, loaded]
  cases found : environment.settingsPath with
  | none =>
      rw [loadSettings, findSettings, found] at loaded
      cases congrArg Prod.fst loaded
  | some path =>
      rw [findSettings, found]
      exact ⟨_, rfl⟩

variable [Pattern.Wording]

theorem runQuery_hasCodes (refuses : Pattern.RefusesPlainly) {request : QueryRequest}
    (isEnvironment : environment.IsPlain)
    (holds : files.HoldsPlain) (isFile : PlainIfGiven arguments.file)
    (isText : IsPlain request.text) (off : LeavesNoColors today environment files manner) :
    EndsPlain (RunOutcome.HasCodes manner.colors false true)
      (runQuery (host today) environment arguments manner request files).1 := by
  refine (endsPlain_loadSettings today isEnvironment holds).step
    (.loadSettings environment today) fun settings loaded plain => ?_
  refine (endsPlain_tasksPath plain isEnvironment.homeDirectory isFile).step (.known _)
    fun path _ isPath => ?_
  refine (endsPlain_loadTasks today isPath holds).step (.loadTasks today path)
    fun tasks _ areTasks => ?_
  rw [FileStep.log_bind]
  refine (endsPlain_prepared refuses plain isText).step (.known _) fun prepared _ isPrepared => ?_
  have result (day : Date) :
      (queryOutcome manner settings request prepared day tasks).HasCodes manner.colors false true :=
    queryOutcome_hasCodes (off settings loaded) isPrepared.tells areTasks
  cases request.today with
  | none => exact .ok (result today)
  | some date => exact .ok (result date)

theorem runExplain_hasCodes (refuses : Pattern.RefusesPlainly) {request : ExplainRequest}
    (isEnvironment : environment.IsPlain)
    (holds : files.HoldsPlain) (isText : IsPlain request.text)
    (off : LeavesNoColors today environment files manner) :
    EndsPlain (RunOutcome.HasCodes manner.colors false false)
      (runExplain (host today) environment manner request files).1 := by
  refine (endsPlain_loadSettings today isEnvironment holds).step
    (.loadSettings environment today) fun settings loaded plain => ?_
  refine (endsPlain_queryText plain isText request.saved).step (.known _)
    fun input _ isInput => ?_
  rw [FileStep.log_bind]
  exact .ok (explainOutput_hasCodes refuses request (off settings loaded) plain isInput)

theorem runShowConfig_hasCodes (isEnvironment : environment.IsPlain) (holds : files.HoldsPlain) :
    EndsPlain (RunOutcome.HasCodes manner.colors (!manner.json && !manner.quiet) false)
      (runShowConfig (host today) environment manner files).1 := by
  refine (endsPlain_loadSettings today isEnvironment holds).step
    (.loadSettings environment today) fun settings _ plain => ?_
  refine (endsPlain_findSettings isEnvironment).step (.findSettings environment)
    fun path _ isPath => ?_
  exact .ok (showConfigOutput_hasCodes manner (files.isThere path) plain isPath)

theorem runConfigPath_hasCodes (isEnvironment : environment.IsPlain) :
    EndsPlain (RunOutcome.HasCodes manner.colors false false)
      (runConfigPath (host today) environment manner files).1 :=
  (endsPlain_findSettings isEnvironment).step (.findSettings environment) fun path _ isPath =>
    .ok (configPathOutput_hasCodes manner (files.isThere path) isPath)

theorem runInitConfig_hasCodes (isEnvironment : environment.IsPlain) (force : Bool) :
    EndsPlain (RunOutcome.HasCodes manner.colors false false)
      (runInitConfig (host today) environment manner force files).1 := by
  cases found : environment.settingsPath with
  | none =>
      rw [runInitConfig, findSettings, found]
      exact .error (Failure.isPlain_config (.literal rfl))
  | some path =>
      have isPath := isEnvironment.settingsPath path found
      rw [runInitConfig_apply today manner force files found]
      split
      · exact .error (Failure.isPlain_config
          (.append (.append (.literal rfl) isPath) (.literal rfl)))
      · have makes := files.failsOnly_makeParents path
        rcases made : files.makeParents path with ⟨fault | _, later⟩ <;> rw [made] at makes
        · exact .error (Failure.isPlain_config (.append (.literal rfl) makes))
        · have writes := later.failsOnly_write path Settings.template
          dsimp only
          rcases written : later.write path Settings.template with ⟨fault | _, last⟩ <;>
            rw [written] at writes
          · exact .error (Failure.isPlain_config (.append (.literal rfl) writes))
          · exact .ok (initConfigOutput_hasCodes manner isPath)

/-- Where the settings leave no colours, codes are written in two places at most: in the
heading above the settings, and in the warnings of a query. -/
theorem runRequest_hasCodes (refuses : Pattern.RefusesPlainly)
    (isEnvironment : environment.IsPlain) (holds : files.HoldsPlain) (plain : arguments.IsPlain)
    (off : LeavesNoColors today environment files (.of arguments environment)) :
    EndsPlain (RunOutcome.HasCodes (Manner.of arguments environment).colors
        arguments.showHeading arguments.request.isQuery)
      (runRequest (host today) environment arguments files).1 := by
  have isFile := plain.file
  have isRequest := plain.request
  obtain ⟨verbose, quiet, json, noColor, file, request⟩ := arguments
  cases request with
  | nothing => exact .ok (greeting_hasCodes _)
  | query request => exact runQuery_hasCodes refuses isEnvironment holds isFile isRequest off
  | explain request => exact runExplain_hasCodes refuses isEnvironment holds isRequest off
  | showConfig => exact runShowConfig_hasCodes isEnvironment holds
  | configPath => exact runConfigPath_hasCodes isEnvironment
  | initConfig force => exact runInitConfig_hasCodes isEnvironment force
  | completions shell => exact .ok (.silent (.literal rfl))

end

/-! ## Runs -/

namespace Invocation

/-- An argument or the variable for it turns colours off. -/
def TurnsColorsOff (invocation : Invocation) : Prop :=
  invocation.environment.noColor = true ∨
    ∀ arguments, Arguments.read invocation.environment.tasksFile invocation.words = .ok arguments →
      arguments.noColor = true

/-- The settings that a run finds turn colours off. -/
def SettingsTurnColorsOff (invocation : Invocation) (files : FileSystem) : Prop :=
  ∃ settings, loadSettings (host invocation.today) invocation.environment files =
    (.ok settings, files) ∧ settings.color = some false

/-- A run is to show the settings, as text. -/
def ShowsHeading (invocation : Invocation) : Prop :=
  ∃ arguments, Arguments.read invocation.environment.tasksFile invocation.words = .ok arguments ∧
    arguments.showHeading = true

variable {invocation : Invocation} {files : FileSystem} {arguments : Arguments}

theorem SettingsTurnColorsOff.leavesNoColors (off : invocation.SettingsTurnColorsOff files)
    (manner : Manner) :
    LeavesNoColors invocation.today invocation.environment files manner := by
  obtain ⟨settings, loaded, isOff⟩ := off
  intro other loadedToo
  obtain rfl : settings = other := by
    rw [loaded] at loadedToo
    cases loadedToo
    rfl
  rw [Settings.allowsColor, isOff]
  exact Bool.and_false _

section

variable (reads : Arguments.read invocation.environment.tasksFile invocation.words = .ok arguments)
include reads

theorem turnsColorsOff_iff :
    invocation.TurnsColorsOff ↔ (Manner.of arguments invocation.environment).colors = false := by
  rw [Manner.of, Bool.and_eq_false_iff, Bool.not_eq_false', Bool.not_eq_false', or_comm]
  refine or_congr_right ⟨fun argument => argument arguments reads, fun argument other same => ?_⟩
  rw [reads] at same
  cases same
  exact argument

theorem showsHeading_iff : invocation.ShowsHeading ↔ arguments.showHeading = true := by
  refine ⟨fun ⟨other, same, shows⟩ => ?_, fun shows => ⟨arguments, reads, shows⟩⟩
  rw [reads] at same
  cases same
  exact shows

variable [Pattern.Wording]

/-- A run fails in plain words, or its codes are in the two places where they may be. -/
theorem failed_or_hasCodes (refuses : Pattern.RefusesPlainly) (plain : invocation.IsPlain)
    (holds : files.HoldsPlain)
    (off : LeavesNoColors invocation.today invocation.environment files
      (.of arguments invocation.environment)) :
    (∃ failure later, runRequest (host invocation.today) invocation.environment arguments files =
        (.error failure, later) ∧ failure.IsPlain ∧
          (invocation.on files).1 = .failed arguments.json failure) ∨
      (invocation.on files).1.HasCodes (Manner.of arguments invocation.environment).colors
        arguments.showHeading arguments.request.isQuery := by
  have isPlain := plain.isPlain_arguments reads
  have ends := runRequest_hasCodes refuses plain.environment holds isPlain off
  rcases ran : runRequest (host invocation.today) invocation.environment arguments files with
    ⟨failure | outcome, later⟩ <;> rw [ran] at ends
  · refine Or.inl ⟨failure, later, rfl, ends, ?_⟩
    rw [on_of_error reads ran]
  · rw [on_of_ok reads ran]
    exact Or.inr ends

end

section

variable [Pattern.Wording]

/-- A run that is to show settings which can be read succeeds. -/
theorem SettingsTurnColorsOff.exists_output (off : invocation.SettingsTurnColorsOff files)
    (shows : arguments.showHeading = true) :
    ∃ output, runRequest (host invocation.today) invocation.environment arguments files =
      (.ok (.finished output), files) := by
  obtain ⟨settings, loaded, -⟩ := off
  rw [Arguments.showHeading, Bool.and_eq_true, Bool.and_eq_true, decide_eq_true_eq] at shows
  rw [runRequest, shows.1.1]
  exact runShowConfig_of_loaded loaded

/-- Of the three ways to turn colours off the first two are complete for what a run says: where
an argument or the variable for it does so, all of that is plain if the inputs are. Settings
turn off the colours of every result, but not those of the heading above the settings and of
the warnings of a query. -/
theorem isPlain_output_of_colorsOff (refuses : Pattern.RefusesPlainly)
    (plain : invocation.IsPlain) (holds : files.HoldsPlain) :
    let outcome := (invocation.on files).1
    (invocation.TurnsColorsOff →
      TaskQuery.IsPlain outcome.output.stdout ∧ TaskQuery.IsPlain outcome.output.stderr) ∧
    (invocation.SettingsTurnColorsOff files →
      (TaskQuery.IsPlain outcome.output.stdout ↔
        invocation.TurnsColorsOff ∨ ¬ invocation.ShowsHeading) ∧
      (TaskQuery.IsPlain outcome.output.stderr ↔
        invocation.TurnsColorsOff ∨ outcome.warnings = "") ∧
      (outcome.warnings ≠ "" → ∃ request, invocation.request? = some (.query request))) := by
  intro outcome
  rcases reads : Arguments.read invocation.environment.tasksFile invocation.words with
    cause | arguments
  · have ends : outcome = .usage cause := congrArg Prod.fst (on_of_usage reads)
    have off : invocation.TurnsColorsOff := Or.inr fun arguments other => by
      rw [reads] at other
      cases other
    have isPlain := isPlain_usage cause
    rw [ends]
    exact ⟨fun _ => isPlain, fun _ => ⟨iff_of_true isPlain.1 (Or.inl off),
      iff_of_true isPlain.2 (Or.inl off), fun warns => absurd rfl warns⟩⟩
  · refine ⟨fun off => ?_, fun off => ?_⟩
    · have noColors := (turnsColorsOff_iff reads).mp off
      have leaves : LeavesNoColors invocation.today invocation.environment files
          (.of arguments invocation.environment) := fun settings _ => by rw [noColors]; rfl
      rcases failed_or_hasCodes reads refuses plain holds leaves with
        ⟨failure, -, -, told, ends⟩ | codes
      · rw [show outcome = _ from ends]
        exact ⟨.literal rfl, told.report _⟩
      · exact ⟨codes.stdout.mpr (by rw [noColors]; rfl), codes.stderr.mpr (Or.inl noColors)⟩
    · rw [turnsColorsOff_iff reads, showsHeading_iff reads]
      rcases failed_or_hasCodes reads refuses plain holds (off.leavesNoColors _) with
        ⟨failure, later, fails, told, ends⟩ | codes
      · have noHeading : ¬ arguments.showHeading = true := fun shows => by
          obtain ⟨output, succeeds⟩ := off.exists_output shows
          rw [fails] at succeeds
          cases succeeds
        rw [show outcome = _ from ends]
        exact ⟨iff_of_true (.literal rfl) (Or.inr noHeading),
          iff_of_true (told.report _) (Or.inr rfl), fun warns => absurd rfl warns⟩
      · refine ⟨codes.stdout.trans ?_, codes.stderr, fun warns => ?_⟩
        · rw [Bool.and_eq_false_iff, Bool.not_eq_true]
        · cases asked : arguments.request with
          | query request =>
              refine ⟨request, ?_⟩
              rw [request?, reads]
              exact congrArg some asked
          | _ => exact absurd (codes.warnings (by rw [asked]; rfl)) warns

/-- The log of a run on plain inputs leaves what the run says as plain as it is, unless there is
a line in it and the variable that turns colours off does not hold a text. -/
theorem isPlain_written_iff (refuses : Pattern.RefusesPlainly) {library : LogLibrary}
    (documented : library.IsDocumented) (plain : invocation.IsPlain) (holds : files.HoldsPlain) :
    TaskQuery.IsPlain (invocation.written library files).stderr ↔
      TaskQuery.IsPlain (invocation.on files).1.output.stderr ∧
        (invocation.environment.noLogColors = true ∨ invocation.admitted library files = []) := by
  have decides : ∀ record ∈ invocation.admitted library files,
      TaskQuery.IsPlain (library.recordLine (!invocation.environment.noLogColors) record) ↔
        (!invocation.environment.noLogColors) = false := fun record member =>
    documented.isPlain_recordLine_iff
      (isPlain_of_mem_log plain holds refuses record (mem_log_of_mem_admitted member)) _
  rw [written_eq, Output.isPlain_withLog_iff decides, Bool.not_eq_false']

/-- A run whose arguments mean nothing says so, and it has no log. -/
theorem written_of_usage (library : LogLibrary) (files : FileSystem) {cause : Usage}
    (refused : Arguments.read invocation.environment.tasksFile invocation.words = .error cause) :
    invocation.written library files = (RunOutcome.usage cause).output := by
  rw [written_eq, on_of_usage refused, admitted, admittedRecords, refused, Output.withLog_nil]

end

end Invocation

/-- A directory with settings that turn colours off, and a task file without tasks. -/
def colorlessFiles : FileSystem :=
  FileSystem.put
    (.put ⟨fun place => if place = [] then some .directory else none, []⟩
      ["config.toml"] (.file "[output]\ncolor = false\n"))
    ["tasks.json"] (.file "[]")

/-- A run in that directory. -/
def colorlessRun (words : List String) : Invocation :=
  ⟨.first, { settingsFile := some "config.toml" }, words⟩

theorem Arguments.eq_of_map_read {α : Type} {f : Arguments → α} {value : α}
    {tasksFile : Option String} {words : List String} {arguments : Arguments}
    (given : (read tasksFile words).map f = .ok value)
    (reads : read tasksFile words = .ok arguments) : f arguments = value := by
  rw [reads] at given
  exact Except.ok.inj given

theorem isPlain_colorlessRun {words : List String} (plain : ∀ word ∈ words, IsPlain word) :
    (colorlessRun words).IsPlain where
  words := plain
  environment := ⟨plainIfGiven_some (.literal rfl), plainIfGiven_none, plainIfGiven_none,
    plainIfGiven_none, plainIfGiven_none⟩

theorem settingsTurnColorsOff_colorlessRun (words : List String) :
    (colorlessRun words).SettingsTurnColorsOff colorlessFiles := by
  have reads : colorlessFiles.read "config.toml" = .ok "[output]\ncolor = false\n" := by
    decide +kernel
  have usable : Settings.read "[output]\ncolor = false\n" = .ok { color := some false } := by
    decide +kernel
  exact ⟨_, loadSettings_of_read .first rfl reads usable, rfl⟩

theorem holdsPlain_colorlessFiles : colorlessFiles.HoldsPlain := by
  have isSettings : TaskQuery.HoldsPlain "[output]\ncolor = false\n" :=
    .of_text (.literal rfl) (by decide +kernel)
  have isTasks : TaskQuery.HoldsPlain "[]" := .of_text (.literal rfl) (by decide +kernel)
  intro place content isFile
  rw [content?_eq_some_iff, colorlessFiles] at isFile
  by_cases atTasks : place = ["tasks.json"]
  · rw [atTasks, entry_put_self] at isFile
    cases isFile
    exact isTasks
  rw [entry_put_of_ne _ _ atTasks] at isFile
  by_cases atSettings : place = ["config.toml"]
  · rw [atSettings, entry_put_self] at isFile
    cases isFile
    exact isSettings
  rw [entry_put_of_ne _ _ atSettings] at isFile
  dsimp only at isFile
  split at isFile <;> cases isFile

/-- A run in that directory that is not to have colours, for a query with a pattern that is
refused. -/
def refusingRun : Invocation :=
  colorlessRun ["--no-color", "query", "path matches \"/a/z\"", "-f", "tasks.json"]

theorem turnsColorsOff_refusingRun : refusingRun.TurnsColorsOff := by
  have noColor : (Arguments.read none refusingRun.words).map Arguments.noColor = .ok true := by
    decide +kernel
  exact Or.inr fun arguments reads => Arguments.eq_of_map_read noColor reads

end TaskQuery

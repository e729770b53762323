/-
# What is heard of a run

A run does the same whether somebody listens to its log or not: it ends in the same way and
leaves the same files. Most of its steps say nothing. Records are made where tasks are read,
where a query is read and where it is executed, so what is heard of a run is known from how
far it comes.

Which of these records get into the log is decided for each of them alone. Unless the
environment or the arguments ask for more it is only the refused patterns of a query, and in
a quiet run it is nothing.
-/

import TaskQuery.Proofs.DueDates
import TaskQuery.Proofs.RefusedPatterns

namespace TaskQuery

open FileSystem

/-! ## Records -/

/-- Where nothing else is asked for, the records that are wanted are those of refused patterns. -/
theorem LogLevel.admits_warn_iff {record : LogRecord} :
    LogLevel.warn.admits record.level = true ↔
      ∃ pattern fault, record = .refusedPattern pattern fault := by
  cases record <;> simp [LogRecord.level, LogLevel.admits, LogLevel.rank]

/-- No record is as grave as an error. -/
theorem LogLevel.admits_error (record : LogRecord) :
    LogLevel.error.admits record.level = false := by
  cases record <;> rfl

theorem exists_of_mem_readingRecords {input : String} {record : LogRecord}
    (member : record ∈ readingRecords input) :
    ∃ stray ∈ (tokenize input).strays,
      record = .skippedCharacter stray.character stray.position := by
  obtain ⟨stray, skipped, rfl⟩ := List.mem_map.mp member
  exact ⟨stray, skipped, rfl⟩

theorem Evaluator.refusedRecords_of (setting : Setting) (filter : Option Filter) :
    (Evaluator.of setting filter).refusedRecords =
      (filter.elim [] Filter.patterns).eraseDups.filterMap fun pattern =>
        (Pattern.fault? pattern).map (.refusedPattern pattern) := by
  rw [refusedRecords, Evaluator.of, List.filterMap_map]
  refine List.filterMap_congr fun pattern _ => ?_
  rw [Function.comp_apply, Pattern.fault?]
  cases Pattern.compile pattern <;> rfl

/-- An evaluator logs each pattern of its filter that is refused, and nothing else. -/
theorem Evaluator.mem_refusedRecords_iff {setting : Setting} {filter : Option Filter}
    {record : LogRecord} :
    record ∈ (Evaluator.of setting filter).refusedRecords ↔
      ∃ pattern fault, record = .refusedPattern pattern fault ∧
        pattern ∈ filter.elim [] Filter.patterns ∧ Pattern.fault? pattern = some fault := by
  rw [refusedRecords_of, List.mem_filterMap]
  constructor
  · rintro ⟨pattern, member, told⟩
    obtain ⟨fault, refused, rfl⟩ := Option.map_eq_some_iff.mp told
    exact ⟨pattern, fault, rfl, List.mem_eraseDups.mp member, refused⟩
  · rintro ⟨pattern, fault, rfl, member, refused⟩
    exact ⟨pattern, List.mem_eraseDups.mpr member, by rw [refused]; rfl⟩

/-- What is logged of a result is about refused patterns or about what was found. -/
theorem PreparedQuery.of_mem_resultRecords {prepared : PreparedQuery} {setting : Setting}
    {tasks : List Task} {record : LogRecord}
    (member : record ∈ prepared.resultRecords setting tasks) :
    (∃ pattern fault, record = .refusedPattern pattern fault ∧
        pattern ∈ prepared.query.filter.elim [] Filter.patterns ∧
        Pattern.fault? pattern = some fault) ∨
      (∃ total found sortKeys, record = .executedQuery total found sortKeys) ∨
      ∃ field ∈ prepared.query.group, ∃ buckets, record = .groupedResults field buckets := by
  rcases List.mem_append.mp member with front | grouped
  · rcases List.mem_append.mp front with refused | executed
    · exact Or.inl (Evaluator.mem_refusedRecords_iff.mp refused)
    · exact Or.inr (Or.inl ⟨_, _, _, List.mem_singleton.mp executed⟩)
  · obtain ⟨field, given, rfl⟩ := Option.map_eq_some_iff.mp (Option.mem_toList.mp grouped)
    exact Or.inr (Or.inr ⟨field, given, _, rfl⟩)

theorem mem_readingRecords_of_explain {request : ExplainRequest} {input : String}
    {record : LogRecord} (member : record ∈ explainRecords request input) :
    record ∈ readingRecords input := by
  rcases List.mem_append.mp member with isFirst | again
  · exact isFirst
  · split at again
    · exact again
    · cases again

/-- What is heard of a run when it has the tasks for a query. -/
def taskRecords (settings : Settings) (request : QueryRequest) (path : String)
    (tasks : List Task) : List LogRecord :=
  .loadedTasks path tasks.length :: PreparedQuery.records settings request

theorem of_mem_taskRecords {settings : Settings} {request : QueryRequest} {path : String}
    {tasks : List Task} {record : LogRecord}
    (member : record ∈ taskRecords settings request path tasks) :
    record = .loadedTasks path tasks.length ∨
      ∃ text, settings.queryText request.text request.saved = .ok text ∧
        record ∈ readingRecords text := by
  rcases List.mem_cons.mp member with same | isReading
  · exact Or.inl same
  · refine Or.inr ?_
    rw [PreparedQuery.records] at isReading
    split at isReading
    · exact ⟨_, ‹_›, isReading⟩
    · cases isReading

/-! ## Steps that somebody listens to -/

/-- A step of a run with a listener, on files that are a value. -/
abbrev HeardStep (α : Type) : Type :=
  ExceptT Failure (StateT (List LogRecord) (StateM FileSystem)) α

theorem HeardStep.bind_apply {α β : Type} (step : HeardStep α) (next : α → HeardStep β)
    (before : List LogRecord) (files : FileSystem) :
    (step >>= next) before files =
      ExceptT.bindCont next (step before files).1.1 (step before files).1.2
        (step before files).2 := rfl

theorem heard_bind_apply_of_eq {α β : Type} {step : StateT (List LogRecord) (StateM FileSystem) α}
    {next : α → StateT (List LogRecord) (StateM FileSystem) β} {before after : List LogRecord}
    {files later : FileSystem} {value : α} (ends : step before files = ((value, after), later)) :
    (step >>= next) before files = next value after later := by
  have split : (step >>= next) before files =
      next (step before files).1.1 (step before files).1.2 (step before files).2 := rfl
  rw [split, ends]

/-- Of a step some records are heard, behind those that were heard before. Apart from that it
is the step that nobody listens to. -/
def Tells {α : Type} (heard : HeardStep α) (step : FileStep α) (files : FileSystem)
    (records : List LogRecord) : Prop :=
  ∀ before, heard before files = (((step files).1, before ++ records), (step files).2)

/-- Nothing is heard of a step. -/
def IsSilent {α : Type} (heard : HeardStep α) (step : FileStep α) : Prop :=
  ∀ files, Tells heard step files []

section

variable {α β : Type} {heard : HeardStep α} {step : FileStep α} {next : α → HeardStep β}
  {nextStep : α → FileStep β} {files later : FileSystem} {records others : List LogRecord}

namespace Tells

/-- Steps in a row are heard in a row. -/
theorem bind_of_ok {value : α} (first : Tells heard step files records)
    (ends : step files = (.ok value, later))
    (second : Tells (next value) (nextStep value) later others) :
    Tells (heard >>= next) (step >>= nextStep) files (records ++ others) := by
  intro before
  have isFirst := first before
  rw [ends] at isFirst
  rw [HeardStep.bind_apply, isFirst, FileStep.bind_apply, ends, ← List.append_assoc]
  exact second (before ++ records)

/-- Steps in a row of which only the first one is heard. -/
theorem bind_silent {value : α} (first : Tells heard step files records)
    (ends : step files = (.ok value, later))
    (second : Tells (next value) (nextStep value) later []) :
    Tells (heard >>= next) (step >>= nextStep) files records := by
  rw [← List.append_nil records]
  exact first.bind_of_ok ends second

/-- Behind a step that fails nothing is heard any more. -/
theorem bind_of_error {failure : Failure} (first : Tells heard step files records)
    (fails : step files = (.error failure, later)) :
    Tells (heard >>= next) (step >>= nextStep) files records := by
  intro before
  have isFirst := first before
  rw [fails] at isFirst
  rw [HeardStep.bind_apply, isFirst, FileStep.bind_apply, fails]
  rfl

/-- What is logged is heard. -/
theorem log (today : Date) (records : List LogRecord) (files : FileSystem) :
    Tells (liftM ((host today).listening.log records)) (liftM ((host today).log records))
      files records :=
  fun _ => rfl

/-- Of asking the machine nothing is heard, but of what is done with its answer. -/
theorem ask_bind (ask : StateM FileSystem α)
    (second : Tells (next (ask files).1) (nextStep (ask files).1) (ask files).2 others) :
    Tells (liftM (liftM ask : StateT (List LogRecord) (StateM FileSystem) α) >>= next)
      (liftM ask >>= nextStep) files others :=
  fun before => second before

/-- What is heard of two steps in a row is as it should be, if that holds where the first one
fails and, with what the second one says, where it succeeds. -/
theorem exists_bind {good : List LogRecord → Prop} (first : Tells heard step files records)
    (reads : OnlyReads step) (fails : good records)
    (second : ∀ value, step files = (.ok value, files) →
      ∃ others, good (records ++ others) ∧ Tells (next value) (nextStep value) files others) :
    ∃ records, good records ∧ Tells (heard >>= next) (step >>= nextStep) files records := by
  have same := reads files
  rcases ends : step files with ⟨failure | value, later⟩ <;> rw [ends] at same
  · exact ⟨records, fails, first.bind_of_error ends⟩
  · obtain rfl : later = files := same
    obtain ⟨others, isGood, told⟩ := second value ends
    exact ⟨records ++ others, isGood, first.bind_of_ok ends told⟩

end Tells

namespace IsSilent

theorem pure (value : α) : IsSilent (Pure.pure value) (Pure.pure value) :=
  fun files before => congrArg (fun log => ((Except.ok value, log), files))
    (List.append_nil before).symm

theorem known (value : Except Failure α) :
    IsSilent (ExceptT.mk (Pure.pure value)) (ExceptT.mk (Pure.pure value)) :=
  fun files before => congrArg (fun log => ((value, log), files)) (List.append_nil before).symm

theorem throw (failure : Failure) :
    IsSilent (MonadExcept.throw failure : HeardStep α) (MonadExcept.throw failure) :=
  known (.error failure)

theorem throw_bind (failure : Failure) :
    IsSilent ((MonadExcept.throw failure : HeardStep α) >>= next)
      ((MonadExcept.throw failure : FileStep α) >>= nextStep) :=
  known (.error failure)

/-- What the machine is asked makes no record. -/
theorem ask (ask : StateM FileSystem α) :
    IsSilent (liftM (liftM ask : StateT (List LogRecord) (StateM FileSystem) α)) (liftM ask) :=
  fun files before => congrArg (fun log => ((Except.ok (ask files).1, log), (ask files).2))
    (List.append_nil before).symm

theorem bind (first : IsSilent heard step)
    (second : ∀ value, IsSilent (next value) (nextStep value)) :
    IsSilent (heard >>= next) (step >>= nextStep) := by
  intro files
  rcases ends : step files with ⟨failure | value, later⟩
  · exact (first files).bind_of_error ends
  · exact (first files).bind_of_ok ends (second value later)

theorem bind_of_ok {value : α} (first : IsSilent heard step)
    (ends : step files = (.ok value, later))
    (second : Tells (next value) (nextStep value) later others) :
    Tells (heard >>= next) (step >>= nextStep) files others :=
  (first files).bind_of_ok ends second

end IsSilent

end

/-! ## Silent steps -/

namespace IsSilent

variable (environment : Environment) (manner : Manner) (today : Date)

theorem findSettings :
    IsSilent (TaskQuery.findSettings environment) (TaskQuery.findSettings environment) := by
  rw [TaskQuery.findSettings, TaskQuery.findSettings]
  split
  · exact pure _
  · exact throw _

theorem loadSettings : IsSilent (TaskQuery.loadSettings (host today).listening environment)
    (TaskQuery.loadSettings (host today) environment) := by
  refine (findSettings environment).bind fun path =>
    (ask ((host today).isThere path)).bind fun there => ?_
  split
  · refine (ask ((host today).read path)).bind fun document => ?_
    split
    · exact throw _
    · split
      · exact pure _
      · exact throw _
  · exact pure _

theorem runShowConfig : IsSilent
    (TaskQuery.runShowConfig (host today).listening environment manner)
    (TaskQuery.runShowConfig (host today) environment manner) :=
  (loadSettings environment today).bind fun _ => (findSettings environment).bind fun path =>
    (ask ((host today).isThere path)).bind fun _ => pure _

theorem runConfigPath : IsSilent
    (TaskQuery.runConfigPath (host today).listening environment manner)
    (TaskQuery.runConfigPath (host today) environment manner) :=
  (findSettings environment).bind fun path =>
    (ask ((host today).isThere path)).bind fun _ => pure _

theorem runInitConfig (force : Bool) : IsSilent
    (TaskQuery.runInitConfig (host today).listening environment manner force)
    (TaskQuery.runInitConfig (host today) environment manner force) := by
  refine (findSettings environment).bind fun path =>
    (ask ((host today).isThere path)).bind fun there => ?_
  dsimp only
  split
  · exact throw_bind _
  · refine (ask ((host today).makeParents path)).bind fun made => ?_
    split
    · exact throw _
    · refine (ask ((host today).write path Settings.template)).bind fun written => ?_
      split
      · exact throw _
      · exact pure _

end IsSilent

/-! ## Steps that say something -/

/-- Of reading tasks it is heard how many there are, if they can be read. -/
theorem tells_loadTasks (today : Date) (path : String) (files : FileSystem) :
    (∃ failure, loadTasks (host today) path files = (.error failure, files) ∧
        Tells (loadTasks (host today).listening path) (loadTasks (host today) path) files []) ∨
      ∃ tasks, loadTasks (host today) path files = (.ok tasks, files) ∧
        Tells (loadTasks (host today).listening path) (loadTasks (host today) path) files
          [.loadedTasks path tasks.length] := by
  rw [loadTasks, loadTasks, FileStep.ask_bind_apply, host_read]
  cases reads : files.read path with
  | error fault =>
      refine Or.inl ⟨_, rfl, .ask_bind _ ?_⟩
      rw [host_read, reads]
      exact IsSilent.throw _ _
  | ok document =>
      dsimp only
      cases usable : TaskFile.read document with
      | error fault =>
          refine Or.inl ⟨_, rfl, .ask_bind _ ?_⟩
          rw [host_read, reads]
          dsimp only
          rw [usable]
          exact IsSilent.throw _ _
      | ok tasks =>
          refine Or.inr ⟨_, rfl, .ask_bind _ ?_⟩
          rw [host_read, reads]
          dsimp only
          rw [usable]
          exact (Tells.log today _ files).bind_silent rfl (IsSilent.pure _ files)

theorem tells_loadTasks_of_ok {today : Date} {path : String} {files : FileSystem}
    {tasks : List Task} (loads : loadTasks (host today) path files = (.ok tasks, files)) :
    Tells (loadTasks (host today).listening path) (loadTasks (host today) path) files
      [.loadedTasks path tasks.length] := by
  rcases tells_loadTasks today path files with ⟨failure, fails, -⟩ | ⟨others, loadsToo, told⟩
  · rw [loads] at fails
    cases fails
  · rw [loads] at loadsToo
    cases loadsToo
    exact told

/-! ## How far a run comes -/

namespace Invocation

/-- What a run has read when it has the tasks for a query. -/
structure ReadsTasks (invocation : Invocation) (files : FileSystem) (arguments : Arguments)
    (request : QueryRequest) (settings : Settings) (path : String) (tasks : List Task) :
    Prop where
  readsArguments :
    Arguments.read invocation.environment.tasksFile invocation.words = .ok arguments
  asked : arguments.request = .query request
  loadsSettings : loadSettings (host invocation.today) invocation.environment files =
    (.ok settings, files)
  isPath : settings.tasksPath invocation.environment.homeDirectory arguments.file = .ok path
  loadsTasks : loadTasks (host invocation.today) path files = (.ok tasks, files)

section

variable {invocation : Invocation} {files : FileSystem} {arguments : Arguments}
  {request : QueryRequest} {settings : Settings} {path : String} {tasks : List Task}
  {prepared : PreparedQuery}

theorem ReadsTasks.finds
    (reads : invocation.ReadsTasks files arguments request settings path tasks)
    (readsQuery : PreparedQuery.of settings request = .ok prepared) :
    invocation.Finds files arguments request settings tasks prepared :=
  ⟨reads.readsArguments, reads.asked, reads.loadsSettings, ⟨path, reads.isPath, reads.loadsTasks⟩,
    readsQuery⟩

theorem Finds.exists_readsTasks
    (found : invocation.Finds files arguments request settings tasks prepared) :
    ∃ path, invocation.ReadsTasks files arguments request settings path tasks := by
  obtain ⟨path, isPath, loadsTasks⟩ := found.loadsTasks
  exact ⟨path, found.readsArguments, found.asked, found.loadsSettings, isPath, loadsTasks⟩

end

/-- What may be heard of a run on some files: nothing, or what it says when it comes to an
explanation, to the tasks for a query or to a result. -/
inductive Logs (invocation : Invocation) (files : FileSystem) : List LogRecord → Prop
  | nothing : Logs invocation files []
  | explanation {arguments : Arguments} {request : ExplainRequest} {settings : Settings}
      {input : String}
      (reads : Arguments.read invocation.environment.tasksFile invocation.words = .ok arguments)
      (asked : arguments.request = .explain request)
      (loads : loadSettings (host invocation.today) invocation.environment files =
        (.ok settings, files))
      (given : settings.queryText request.text request.saved = .ok input) :
      Logs invocation files (explainRecords request input)
  | tasks {arguments : Arguments} {request : QueryRequest} {settings : Settings} {path : String}
      {tasks : List Task}
      (reads : invocation.ReadsTasks files arguments request settings path tasks) :
      Logs invocation files (taskRecords settings request path tasks)
  | result {arguments : Arguments} {request : QueryRequest} {settings : Settings} {path : String}
      {tasks : List Task} {prepared : PreparedQuery}
      (reads : invocation.ReadsTasks files arguments request settings path tasks)
      (readsQuery : PreparedQuery.of settings request = .ok prepared) :
      Logs invocation files (taskRecords settings request path tasks ++ prepared.resultRecords
        ⟨settings.vocabulary, .ofTasks tasks, request.today.getD invocation.today⟩ tasks)

end Invocation

section

variable [Pattern.Wording]

/-- Of executing a query it is heard what it does without and what it finds. -/
theorem tells_runPrepared (manner : Manner) (settings : Settings) (request : QueryRequest)
    (tasks : List Task) (prepared : PreparedQuery) (today date : Date) (files : FileSystem) :
    Tells (runPrepared (host today).listening manner settings request tasks prepared date)
      (runPrepared (host today) manner settings request tasks prepared date) files
      (prepared.resultRecords ⟨settings.vocabulary, .ofTasks tasks, date⟩ tasks) :=
  (Tells.log today _ files).bind_silent rfl (IsSilent.pure _ files)

/-! ## Runs -/

namespace Invocation

variable {invocation : Invocation} {files : FileSystem} {arguments : Arguments}

/-- Everything is heard of a run that comes to showing a result. -/
theorem ReadsTasks.tells_runQuery {request : QueryRequest} {settings : Settings} {path : String}
    {tasks : List Task} {prepared : PreparedQuery}
    (found : invocation.ReadsTasks files arguments request settings path tasks)
    (readsQuery : PreparedQuery.of settings request = .ok prepared) (manner : Manner) :
    Tells (runQuery (host invocation.today).listening invocation.environment arguments manner
        request)
      (runQuery (host invocation.today) invocation.environment arguments manner request) files
      (taskRecords settings request path tasks ++ prepared.resultRecords
        ⟨settings.vocabulary, .ofTasks tasks, request.today.getD invocation.today⟩ tasks) := by
  have readsPath : (ExceptT.mk (pure (settings.tasksPath invocation.environment.homeDirectory
      arguments.file)) : FileStep String) files = (.ok path, files) :=
    congrArg (·, files) found.isPath
  have prepares : (ExceptT.mk (pure (PreparedQuery.of settings request)) :
      FileStep PreparedQuery) files = (.ok prepared, files) :=
    congrArg (·, files) readsQuery
  refine (IsSilent.loadSettings _ _).bind_of_ok found.loadsSettings ?_
  refine (IsSilent.known _).bind_of_ok readsPath ?_
  refine (tells_loadTasks_of_ok found.loadsTasks).bind_of_ok found.loadsTasks ?_
  refine (Tells.log _ _ files).bind_of_ok rfl ?_
  refine (IsSilent.known _).bind_of_ok prepares ?_
  cases request.today with
  | none => exact .ask_bind _ (tells_runPrepared manner settings request tasks prepared _ _ files)
  | some date =>
      exact tells_runPrepared manner settings request tasks prepared invocation.today date files

/-- A run for a query is heard as far as it comes. -/
theorem exists_tells_runQuery {request : QueryRequest}
    (reads : Arguments.read invocation.environment.tasksFile invocation.words = .ok arguments)
    (asked : arguments.request = .query request) (manner : Manner) :
    ∃ records, invocation.Logs files records ∧
      Tells (runQuery (host invocation.today).listening invocation.environment arguments manner
          request)
        (runQuery (host invocation.today) invocation.environment arguments manner request)
        files records := by
  by_cases shows : ∃ settings path tasks prepared,
      invocation.ReadsTasks files arguments request settings path tasks ∧
        PreparedQuery.of settings request = .ok prepared
  · obtain ⟨settings, path, tasks, prepared, found, readsQuery⟩ := shows
    exact ⟨_, .result found readsQuery, found.tells_runQuery readsQuery manner⟩
  have isLoad := IsSilent.loadSettings invocation.environment invocation.today files
  refine isLoad.exists_bind (.loadSettings _ _) .nothing fun settings loads => ?_
  refine (IsSilent.known _ files).exists_bind (.known _) .nothing fun path isPath => ?_
  rcases tells_loadTasks invocation.today path files with
    ⟨failure, fails, told⟩ | ⟨tasks, loadsTasks, told⟩
  · exact ⟨[], .nothing, told.bind_of_error fails⟩
  have found : invocation.ReadsTasks files arguments request settings path tasks :=
    ⟨reads, asked, loads, congrArg Prod.fst isPath, loadsTasks⟩
  refine ⟨_, .tasks found, told.bind_of_ok loadsTasks ?_⟩
  refine (Tells.log _ _ files).bind_silent rfl ?_
  rcases readsQuery : PreparedQuery.of settings request with failure | prepared
  · exact (IsSilent.known _ files).bind_of_error rfl
  · exact absurd ⟨settings, path, tasks, prepared, found, readsQuery⟩ shows

/-- A run is heard as far as it comes. -/
theorem exists_tells_runRequest (files : FileSystem)
    (reads : Arguments.read invocation.environment.tasksFile invocation.words = .ok arguments) :
    ∃ records, invocation.Logs files records ∧
      Tells (runRequest (host invocation.today).listening invocation.environment arguments)
        (runRequest (host invocation.today) invocation.environment arguments) files records := by
  rw [runRequest, runRequest]
  cases asked : arguments.request with
  | nothing => exact ⟨[], .nothing, IsSilent.pure _ files⟩
  | query request => exact exists_tells_runQuery reads asked _
  | explain request =>
      have isLoad := IsSilent.loadSettings invocation.environment invocation.today files
      refine isLoad.exists_bind (.loadSettings _ _) .nothing fun settings loads => ?_
      refine (IsSilent.known _ files).exists_bind (.known _) .nothing fun input given => ?_
      exact ⟨_, .explanation reads asked loads (congrArg Prod.fst given),
        (Tells.log _ _ files).bind_silent rfl (IsSilent.pure _ files)⟩
  | showConfig => exact ⟨[], .nothing, IsSilent.runShowConfig _ _ _ files⟩
  | configPath => exact ⟨[], .nothing, IsSilent.runConfigPath _ _ _ files⟩
  | initConfig force => exact ⟨[], .nothing, IsSilent.runInitConfig _ _ _ force files⟩
  | completions shell => exact ⟨[], .nothing, IsSilent.pure _ files⟩

/-- A run that somebody listens to ends as it does alone, and leaves the same files. -/
theorem run_listening_of_tells {records : List LogRecord}
    (reads : Arguments.read invocation.environment.tasksFile invocation.words = .ok arguments)
    (told : Tells (runRequest (host invocation.today).listening invocation.environment arguments)
      (runRequest (host invocation.today) invocation.environment arguments) files records) :
    run (host invocation.today).listening invocation.environment invocation.words [] files =
      (((invocation.on files).1, records), (invocation.on files).2) := by
  rw [run, reads]
  refine (heard_bind_apply_of_eq (told [])).trans ?_
  rcases ran : runRequest (host invocation.today) invocation.environment arguments files with
    ⟨failure | outcome, later⟩
  · rw [on_of_error reads ran]
    rfl
  · rw [on_of_ok reads ran]
    rfl

variable (invocation files)

/-- A run ends in the same way with a listener, and what is heard is known by how far it
comes. -/
theorem exists_run_listening :
    ∃ records, invocation.Logs files records ∧
      run (host invocation.today).listening invocation.environment invocation.words [] files =
        (((invocation.on files).1, records), (invocation.on files).2) := by
  cases reads : Arguments.read invocation.environment.tasksFile invocation.words with
  | error usage =>
      refine ⟨[], .nothing, ?_⟩
      rw [on_of_usage reads, run, reads]
      rfl
  | ok arguments =>
      obtain ⟨records, logs, told⟩ := exists_tells_runRequest files reads
      exact ⟨records, logs, run_listening_of_tells reads told⟩

/-- What is heard of a run on some files. -/
def log : List LogRecord :=
  (run (host invocation.today).listening invocation.environment invocation.words [] files).1.2

theorem logs_log : invocation.Logs files (invocation.log files) := by
  obtain ⟨records, logs, ends⟩ := invocation.exists_run_listening files
  rw [log, ends]
  exact logs

theorem run_listening :
    run (host invocation.today).listening invocation.environment invocation.words [] files =
      (((invocation.on files).1, invocation.log files), (invocation.on files).2) := by
  obtain ⟨records, -, ends⟩ := invocation.exists_run_listening files
  rw [log, ends]

variable {invocation files}

/-- Everything is heard of a run that comes to showing a result. -/
theorem ReadsTasks.log_eq {request : QueryRequest} {settings : Settings} {path : String}
    {tasks : List Task} {prepared : PreparedQuery}
    (found : invocation.ReadsTasks files arguments request settings path tasks)
    (readsQuery : PreparedQuery.of settings request = .ok prepared) :
    invocation.log files = taskRecords settings request path tasks ++ prepared.resultRecords
      ⟨settings.vocabulary, .ofTasks tasks, request.today.getD invocation.today⟩ tasks := by
  have told := found.tells_runQuery readsQuery (.of arguments invocation.environment)
  rw [log, run_listening_of_tells found.readsArguments]
  rw [runRequest, runRequest, found.asked]
  exact told

/-- The log of a run tells of a refused pattern exactly if the run comes to showing the result
of a query with that pattern in its filter. -/
theorem refusedPattern_mem_log_iff {pattern : String} {fault : Pattern.Fault} :
    .refusedPattern pattern fault ∈ invocation.log files ↔
      ∃ arguments request settings tasks prepared,
        invocation.Finds files arguments request settings tasks prepared ∧
          pattern ∈ prepared.query.filter.elim [] Filter.patterns ∧
          Pattern.fault? pattern = some fault := by
  have notRead (input : String) : .refusedPattern pattern fault ∉ readingRecords input := by
    intro member
    obtain ⟨_, -, same⟩ := exists_of_mem_readingRecords member
    cases same
  have notTasks (settings : Settings) (request : QueryRequest) (path : String)
      (tasks : List Task) :
      .refusedPattern pattern fault ∉ taskRecords settings request path tasks := by
    intro member
    rcases of_mem_taskRecords member with same | ⟨text, -, isReading⟩
    · cases same
    · exact notRead text isReading
  constructor
  · intro member
    have logs := invocation.logs_log files
    generalize invocation.log files = records at logs member
    cases logs with
    | nothing => cases member
    | explanation => exact absurd (mem_readingRecords_of_explain member) (notRead _)
    | tasks => exact absurd member (notTasks _ _ _ _)
    | result reads readsQuery =>
        have ofResult := (List.mem_append.mp member).resolve_left (notTasks _ _ _ _)
        rcases PreparedQuery.of_mem_resultRecords ofResult with
          ⟨_, _, same, isPattern, refused⟩ | ⟨_, _, _, same⟩ | ⟨_, -, _, same⟩ <;> cases same
        exact ⟨_, _, _, _, _, reads.finds readsQuery, isPattern, refused⟩
  · rintro ⟨arguments, request, settings, tasks, prepared, found, member, refused⟩
    obtain ⟨path, reads⟩ := found.exists_readsTasks
    rw [reads.log_eq found.readsQuery]
    refine List.mem_append_right _ (List.mem_append_left _ (List.mem_append_left _ ?_))
    exact Evaluator.mem_refusedRecords_iff.mpr ⟨pattern, fault, rfl, member, refused⟩

end Invocation

/-! ## The log -/

namespace Invocation

/-- The records of a run that get into its log. -/
def admitted (invocation : Invocation) (library : LogLibrary) (files : FileSystem) :
    List LogRecord :=
  admittedRecords library invocation.environment invocation.words (invocation.log files)

/-- Everything that a run writes. -/
def written (invocation : Invocation) (library : LogLibrary) (files : FileSystem) : Output :=
  (runWithLog library (host invocation.today) invocation.environment invocation.words files).1.2

theorem written_eq (invocation : Invocation) (library : LogLibrary) (files : FileSystem) :
    invocation.written library files = (invocation.on files).1.output.withLog
      (library.recordLine (!invocation.environment.noLogColors))
      (invocation.admitted library files) := by
  rw [written, runWithLog, StateT.run, bind_apply_of_eq (invocation.run_listening files)]
  rfl

variable {invocation : Invocation} {files : FileSystem} {arguments : Arguments}

theorem mem_log_of_mem_admitted {library : LogLibrary} {record : LogRecord}
    (member : record ∈ invocation.admitted library files) : record ∈ invocation.log files := by
  rw [admitted, admittedRecords] at member
  split at member
  · exact List.mem_of_mem_filter member
  · cases member

/-- Where nothing else is asked for, a run that is not quiet logs the refused patterns of a query
whose result it shows, and a quiet run logs nothing. -/
theorem admitted_ne_nil_iff {library : LogLibrary}
    (reads : Arguments.read invocation.environment.tasksFile invocation.words = .ok arguments)
    (noDirectives : invocation.environment.logDirectives.bind library.filter? = none)
    (notVerbose : arguments.verbose = false) :
    invocation.admitted library files ≠ [] ↔
      arguments.quiet = false ∧ ∃ request settings tasks prepared,
        invocation.Finds files arguments request settings tasks prepared ∧
          ∃ pattern ∈ prepared.query.filter.elim [] Filter.patterns,
            (Pattern.fault? pattern).isSome := by
  have wanted (record : LogRecord) : library.admits invocation.environment arguments record =
      arguments.logLevel.admits record.level := by
    rw [LogLibrary.admits, noDirectives]
  have isAdmitted : invocation.admitted library files ≠ [] ↔
      ∃ record ∈ invocation.log files, arguments.logLevel.admits record.level = true := by
    rw [admitted, admittedRecords, reads, ← List.isEmpty_eq_false_iff,
      List.isEmpty_eq_false_iff_exists_mem]
    simp only [List.mem_filter, wanted]
  rw [isAdmitted, Arguments.logLevel, notVerbose]
  cases arguments.quiet with
  | true => simp [LogLevel.admits_error]
  | false =>
      constructor
      · rintro ⟨record, member, isWanted⟩
        obtain ⟨pattern, fault, rfl⟩ := LogLevel.admits_warn_iff.mp isWanted
        obtain ⟨others, request, settings, tasks, prepared, found, isPattern, refused⟩ :=
          refusedPattern_mem_log_iff.mp member
        obtain rfl : arguments = others := Except.ok.inj (reads.symm.trans found.readsArguments)
        exact ⟨rfl, request, settings, tasks, prepared, found, pattern, isPattern,
          Option.isSome_of_eq_some refused⟩
      · rintro ⟨-, request, settings, tasks, prepared, found, pattern, isPattern, refused⟩
        obtain ⟨fault, isFault⟩ := Option.isSome_iff_exists.mp refused
        have member := refusedPattern_mem_log_iff.mpr
          ⟨arguments, request, settings, tasks, prepared, found, isPattern, isFault⟩
        exact ⟨_, member, LogLevel.admits_warn_iff.mpr ⟨pattern, fault, rfl⟩⟩

end Invocation

end

end TaskQuery

/-
# Runs on plain inputs

Inputs are the arguments, the environment and the files. A file can also spell a character
with an escape, so it is plain if what it holds is: its text, the settings or tasks that
are read from it, and the names that are told when it cannot be read.

Where all inputs are plain, so is everything on the way to a result. Each step of a run gives
something plain or fails in plain words, and what is heard of the run is plain too.
-/

import TaskQuery.Proofs.PlainFailures
import TaskQuery.Proofs.PlainInputs
import TaskQuery.Proofs.PlainLog

namespace TaskQuery

open FileSystem

/-! ## Inputs -/

/-- A document holds nothing that is not plain, whatever it is read as. -/
structure HoldsPlain (document : String) : Prop where
  text : IsPlain document
  names : ∀ name, Toml.read document = .error (.duplicateKey name) ∨
    Toml.read document = .error (.notTable name) → IsPlain name
  settings : ∀ settings, Settings.read document = .ok settings → settings.IsPlain
  tasks : ∀ tasks, TaskFile.read document = .ok tasks → ∀ task ∈ tasks, task.IsPlain

/-- A document is plain in every way if its text is and spells no character that it should not
hold. -/
theorem HoldsPlain.of_text {document : String} (plain : IsPlain document)
    (unspelled : ¬ SpellsEscape document.toList) : HoldsPlain document where
  text := plain
  names := fun name told => by
    have about {fault : Toml.Fault} (unread : Toml.read document = .error fault) :=
      (Toml.ends_read document).fails unread
    rcases told with unread | unread
    · exact (about unread).isPlain unspelled
    · exact (about unread).isPlain unspelled
  settings := fun _ => Settings.isPlain_settings_of_read unspelled
  tasks := fun _ => TaskFile.isPlain_tasks_of_read unspelled

/-- Every file holds nothing that is not plain. -/
def FileSystem.HoldsPlain (files : FileSystem) : Prop :=
  ∀ place content, files.content? place = some content → TaskQuery.HoldsPlain content

theorem FileSystem.HoldsPlain.of_read {files : FileSystem} (holds : files.HoldsPlain)
    {path content : String} (reads : files.read path = .ok content) :
    TaskQuery.HoldsPlain content := by
  obtain ⟨directory, name, -, -, found⟩ := read_eq_ok_iff.mp reads
  have isFile := (lookUp_eq_ok_iff.mp found).2
  exact holds (next directory name) content (content?_eq_some_iff.mpr isFile)

/-! ## Steps -/

/-- A query that has been read is plain, and so is what was forgiven. -/
structure PreparedQuery.IsPlain [Pattern.Wording] (prepared : PreparedQuery) : Prop where
  query : prepared.query.IsPlain
  tells : TellsPlain prepared.diagnostics

/-- Something good is given, or the failure is told in plain words. -/
abbrev EndsPlain [Pattern.Wording] {α : Type} (good : α → Prop) (outcome : Except Failure α) :
    Prop :=
  EndsWell Failure.IsPlain good outcome

/-- Behind a step that only reads, the next one works on the same files. -/
theorem EndsPlain.step [Pattern.Wording] {α β : Type} {files : FileSystem} {good : α → Prop}
    {fine : β → Prop} {step : FileStep α} {next : α → FileStep β} (reads : OnlyReads step)
    (isFirst : EndsPlain good (step files).1)
    (isSecond : ∀ value, step files = (.ok value, files) → good value →
      EndsPlain fine (next value files).1) : EndsPlain fine ((step >>= next) files).1 := by
  have same := reads files
  rw [FileStep.bind_apply]
  rcases ends : step files with ⟨failure | value, later⟩ <;> rw [ends] at same isFirst
  · exact isFirst
  · obtain rfl : later = files := same
    exact isSecond value ends isFirst

theorem Settings.isPlain_default : Settings.IsPlain {} :=
  ⟨plainIfGiven_none, List.forall_mem_nil _, List.forall_mem_nil _, List.forall_mem_nil _⟩

section

variable [Pattern.Wording] {environment : Environment} {files : FileSystem} {settings : Settings}
  (today : Date)

theorem endsPlain_findSettings (plain : environment.IsPlain) :
    EndsPlain IsPlain ((findSettings environment : FileStep String) files).1 := by
  rw [findSettings]
  cases found : environment.settingsPath with
  | none => exact .error (Failure.isPlain_config (.literal rfl))
  | some path => exact .ok (plain.settingsPath path found)

theorem endsPlain_loadSettings (plain : environment.IsPlain) (holds : files.HoldsPlain) :
    EndsPlain Settings.IsPlain (loadSettings (host today) environment files).1 := by
  refine (endsPlain_findSettings plain).step (.findSettings environment) fun path _ isPath => ?_
  rw [FileStep.ask_bind_apply, host_isThere]
  dsimp only
  split
  · rw [FileStep.ask_bind_apply, host_read]
    dsimp only
    cases reads : files.read path with
    | error fault =>
        have isFault := (files.failsOnly_read path).fails reads
        exact .error (Failure.isPlain_config (.append (.literal rfl) isFault))
    | ok document =>
        have isDocument := holds.of_read reads
        dsimp only
        cases usable : Settings.read document with
        | ok settings => exact .ok (isDocument.settings settings usable)
        | error fault =>
            exact .error (Failure.isPlain_config
              (Settings.isPlain_of_read isDocument.text isDocument.names usable))
  · exact .ok Settings.isPlain_default

theorem endsPlain_loadTasks {path : String} (isPath : IsPlain path) (holds : files.HoldsPlain) :
    EndsPlain (fun tasks => ∀ task ∈ tasks, task.IsPlain)
      (loadTasks (host today) path files).1 := by
  rw [loadTasks, FileStep.ask_bind_apply, host_read]
  dsimp only
  cases reads : files.read path with
  | error fault =>
      have isFault := (files.failsOnly_read path).fails reads
      exact .error (Failure.isPlain_tasks
        (.append (.append (.append (.literal rfl) isPath) (.literal rfl)) isFault))
  | ok document =>
      have isDocument := holds.of_read reads
      dsimp only
      cases usable : TaskFile.read document with
      | ok tasks => exact .ok (isDocument.tasks tasks usable)
      | error fault =>
          have isFault := TaskFile.isPlain_of_read isDocument.text usable
          exact .error (Failure.isPlain_tasks
            (.append (.append (.append (.literal rfl) isPath) (.literal rfl)) isFault))

theorem endsPlain_tasksPath {home given : Option String} (plain : settings.IsPlain)
    (isHome : PlainIfGiven home) (isGiven : PlainIfGiven given) :
    EndsPlain IsPlain (settings.tasksPath home given) := by
  rw [Settings.tasksPath]
  split
  · rename_i path chosen
    rcases Option.or_eq_some_iff.mp chosen with isPath | ⟨-, isPath⟩
    · exact .ok (isGiven path isPath)
    · obtain ⟨file, isFile, rfl⟩ := Option.map_eq_some_iff.mp isPath
      exact .ok (Path.isPlain_expandHome isHome (plain.tasksFile file isFile))
  · exact .error (Failure.isPlain_tasks (.literal rfl))

theorem endsPlain_queryText {text : String} (plain : settings.IsPlain) (isText : IsPlain text)
    (saved : Bool) : EndsPlain IsPlain (settings.queryText text saved) := by
  rw [Settings.queryText]
  split
  · split
    · rename_i query found
      obtain ⟨before, behind, split, -⟩ := List.lookup_eq_some_iff.mp found
      exact .ok (plain.queries (text, query) (split ▸ List.mem_append_right _ List.mem_cons_self)).2
    · refine .error (Failure.isPlain_unknownQuery isText ?_)
      exact List.forall_mem_map.mpr fun entry member => (plain.queries entry member).1
  · exact .ok isText

theorem endsPlain_prepared (refuses : Pattern.RefusesPlainly) {request : QueryRequest}
    (plain : settings.IsPlain) (isText : IsPlain request.text) :
    EndsPlain PreparedQuery.IsPlain (PreparedQuery.of settings request) := by
  refine (endsPlain_queryText plain isText request.saved).bind fun text isQuery => ?_
  have outcome := Query.parse_isPlain refuses plain.offersPlain isQuery
  split
  · rw [Query.parseStrict]
    cases told : (Query.parse settings.vocabulary text).diagnostics with
    | nil => exact .ok ⟨outcome.query, .none⟩
    | cons problem others =>
        exact .error (Failure.isPlain_query
          (outcome.tells problem (by rw [told]; exact List.mem_cons_self)))
  · exact .ok ⟨outcome.query, outcome.tells⟩

end

/-! ## Records of a run -/

namespace Invocation

/-- The arguments and the environment of a run are plain. -/
structure IsPlain (invocation : Invocation) : Prop where
  words : ∀ word ∈ invocation.words, TaskQuery.IsPlain word
  environment : invocation.environment.IsPlain

section

variable {invocation : Invocation} {files : FileSystem} {arguments : Arguments}
  (plain : invocation.IsPlain) (holds : files.HoldsPlain)
include plain

theorem IsPlain.isPlain_arguments (reads : Arguments.read invocation.environment.tasksFile
    invocation.words = .ok arguments) : arguments.IsPlain :=
  Arguments.isPlain_of_read plain.environment.tasksFile plain.words reads

variable [Pattern.Wording]
include holds

theorem IsPlain.isPlain_settings {settings : Settings} (loads : loadSettings (host invocation.today)
    invocation.environment files = (.ok settings, files)) : settings.IsPlain :=
  (endsPlain_loadSettings invocation.today plain.environment holds).gives (congrArg Prod.fst loads)

theorem isPlain_of_mem_taskRecords {request : QueryRequest} {settings : Settings} {path : String}
    {tasks : List Task}
    (reads : invocation.ReadsTasks files arguments request settings path tasks) :
    ∀ record ∈ taskRecords settings request path tasks, record.IsPlain := by
  have areSettings := plain.isPlain_settings holds reads.loadsSettings
  have areArguments := plain.isPlain_arguments reads.readsArguments
  have isPath : TaskQuery.IsPlain path := (endsPlain_tasksPath areSettings
    plain.environment.homeDirectory areArguments.file).gives reads.isPath
  have isRequest := areArguments.request
  rw [reads.asked] at isRequest
  intro record member
  rcases of_mem_taskRecords member with rfl | ⟨text, given, isReading⟩
  · exact List.forall_mem_cons.mpr ⟨⟨.literal rfl, isPath⟩,
      List.forall_mem_singleton.mpr ⟨.literal rfl, isPlain_nat _⟩⟩
  · have isText := (endsPlain_queryText areSettings isRequest request.saved).gives given
    exact isPlain_of_mem_readingRecords isText isReading

/-- What is heard of a run on plain inputs is plain. -/
theorem isPlain_of_mem_log (refuses : Pattern.RefusesPlainly) :
    ∀ record ∈ invocation.log files, record.IsPlain := by
  intro record member
  have logs := invocation.logs_log files
  generalize invocation.log files = records at logs member
  cases logs with
  | nothing => cases member
  | @explanation arguments request settings input reads asked loads given =>
      have isRequest := (plain.isPlain_arguments reads).request
      rw [asked] at isRequest
      have isInput := (endsPlain_queryText (plain.isPlain_settings holds loads) isRequest
        request.saved).gives given
      exact isPlain_of_mem_readingRecords isInput (mem_readingRecords_of_explain member)
  | tasks reads => exact isPlain_of_mem_taskRecords plain holds reads record member
  | @result arguments request settings path tasks prepared reads readsQuery =>
      rcases List.mem_append.mp member with early | ofResult
      · exact isPlain_of_mem_taskRecords plain holds reads record early
      · have isRequest := (plain.isPlain_arguments reads.readsArguments).request
        rw [reads.asked] at isRequest
        have areSettings := plain.isPlain_settings holds reads.loadsSettings
        have isPrepared := (endsPlain_prepared refuses areSettings isRequest).gives readsQuery
        exact isPlain_of_mem_resultRecords refuses isPrepared.query ofResult

end

end Invocation

end TaskQuery

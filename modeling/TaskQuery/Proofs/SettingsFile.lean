/-
# What runs write

Of all requests only one writes: the one for a new settings file. The others look at files
and leave them as they are, which goes through their steps one by one. What is left to say
is about that one request, and it has few ways to go. It fails and has made directories at
most, or it succeeds, and then the template is at the place that its path leads to and
everything else is as before.

A file at that place is protected by looking for it first. The look comes before the missing
directories of the path are made, so it does not see a file to which the path leads only
once they are there. Without being forced a run writes over such a file and over no other
one; in a tree it takes a path that leads up again out of a directory that is missing.
-/

import TaskQuery.Command.Run
import TaskQuery.Proofs.Places

namespace TaskQuery

open FileSystem

/-! ## Steps that only read -/

/-- A step of a run on files that are a value. -/
abbrev FileStep (α : Type) : Type :=
  ExceptT Failure (StateM FileSystem) α

theorem bind_apply_of_eq {σ α β : Type} {step : StateM σ α} {next : α → StateM σ β}
    {state later : σ} {value : α} (ends : step state = (value, later)) :
    (step >>= next) state = next value later := by
  have split : (step >>= next) state = next (step state).1 (step state).2 := rfl
  rw [split, ends]

/-- Steps in a row: the second one works on what the first one leaves. -/
theorem FileStep.bind_apply {α β : Type} (step : FileStep α) (next : α → FileStep β)
    (files : FileSystem) :
    (step >>= next) files = match step files with
      | (.ok value, later) => next value later
      | (.error failure, later) => (.error failure, later) := by
  have split : (step >>= next) files =
      ExceptT.bindCont next (step files).1 (step files).2 := rfl
  rw [split]
  rcases step files with ⟨_ | _, later⟩ <;> rfl

/-- What the machine is asked it answers, and the next step works on the answer. -/
theorem FileStep.ask_bind_apply {α β : Type} (ask : StateM FileSystem α) (next : α → FileStep β)
    (files : FileSystem) :
    ((liftM ask : FileStep α) >>= next) files = next (ask files).1 (ask files).2 := rfl

theorem host_isThere (today : Date) (path : String) (files : FileSystem) :
    (host today).isThere path files = (files.isThere path, files) := rfl

theorem host_read (today : Date) (path : String) (files : FileSystem) :
    (host today).read path files = (files.read path, files) := rfl

theorem host_makeParents (today : Date) (path : String) (files : FileSystem) :
    (host today).makeParents path files = files.makeParents path := by
  rw [host]

/-- Where nobody listens, what is logged makes no difference. -/
theorem FileStep.log_bind {α : Type} (today : Date) (records : List LogRecord)
    (next : Unit → FileStep α) :
    ((liftM ((host today).log records) : FileStep Unit) >>= next) = next () := rfl

theorem host_write (today : Date) (path content : String) (files : FileSystem) :
    (host today).write path content files = files.write path content := rfl

/-- A step leaves all files as they are, whatever it gives. -/
def OnlyReads {α : Type} (step : FileStep α) : Prop :=
  ∀ files, (step files).2 = files

namespace OnlyReads

variable {α β : Type} (environment : Environment) (arguments : Arguments) (manner : Manner)
  (today : Date)

theorem pure (value : α) : OnlyReads (Pure.pure value) :=
  fun _ => rfl

theorem throw (failure : Failure) : OnlyReads (MonadExcept.throw failure : FileStep α) :=
  fun _ => rfl

theorem known (value : Except Failure α) : OnlyReads (ExceptT.mk (Pure.pure value)) :=
  fun _ => rfl

theorem bind {step : FileStep α} {next : α → FileStep β} (first : OnlyReads step)
    (second : ∀ value, OnlyReads (next value)) : OnlyReads (step >>= next) := by
  intro files
  have same := first files
  rw [FileStep.bind_apply]
  match step files, same with
  | (.error failure, later), same => exact same
  | (.ok value, later), same => exact (second value later).trans same

theorem isThere (path : String) : OnlyReads (liftM ((host today).isThere path)) :=
  fun _ => rfl

theorem read (path : String) : OnlyReads (liftM ((host today).read path)) :=
  fun _ => rfl

theorem log (records : List LogRecord) : OnlyReads (liftM ((host today).log records)) :=
  fun _ => rfl

theorem findSettings : OnlyReads (TaskQuery.findSettings environment) := by
  rw [TaskQuery.findSettings]
  split
  · exact pure _
  · exact throw _

theorem loadSettings : OnlyReads (TaskQuery.loadSettings (host today) environment) := by
  refine (findSettings environment).bind fun path => (isThere today path).bind fun there => ?_
  split
  · refine (read today path).bind fun document => ?_
    split
    · exact throw _
    · split
      · exact pure _
      · exact throw _
  · exact pure _

theorem loadTasks (path : String) : OnlyReads (TaskQuery.loadTasks (host today) path) := by
  refine (read today path).bind fun document => ?_
  split
  · exact throw _
  · split
    · exact (log today _).bind fun _ => pure _
    · exact throw _

section

variable [Pattern.Wording]

theorem runPrepared (settings : Settings) (request : QueryRequest) (tasks : List Task)
    (prepared : PreparedQuery) (date : Date) :
    OnlyReads (TaskQuery.runPrepared (host today) manner settings request tasks prepared date) :=
  (log today (prepared.resultRecords ⟨settings.vocabulary, .ofTasks tasks, date⟩ tasks)).bind
    fun _ => pure _

theorem runQuery (request : QueryRequest) :
    OnlyReads (TaskQuery.runQuery (host today) environment arguments manner request) := by
  refine (loadSettings environment today).bind fun settings => (known _).bind fun path =>
    (loadTasks today path).bind fun tasks =>
      (log today (PreparedQuery.records settings request)).bind fun _ =>
        (known _).bind fun prepared => ?_
  dsimp only
  split
  · exact runPrepared manner today settings request tasks prepared _
  · exact runPrepared manner today settings request tasks prepared today

theorem runExplain (request : ExplainRequest) :
    OnlyReads (TaskQuery.runExplain (host today) environment manner request) :=
  (loadSettings environment today).bind fun _ => (known _).bind fun input =>
    (log today (explainRecords request input)).bind fun _ => pure _

end

theorem runShowConfig :
    OnlyReads (TaskQuery.runShowConfig (host today) environment manner) :=
  (loadSettings environment today).bind fun _ => (findSettings environment).bind fun path =>
    (isThere today path).bind fun _ => pure _

theorem runConfigPath :
    OnlyReads (TaskQuery.runConfigPath (host today) environment manner) :=
  (findSettings environment).bind fun path => (isThere today path).bind fun _ => pure _

/-- Every request only reads, unless it is for a new settings file. -/
theorem runRequest [Pattern.Wording] (other : ∀ force, arguments.request ≠ .initConfig force) :
    OnlyReads (TaskQuery.runRequest (host today) environment arguments) := by
  rw [TaskQuery.runRequest]
  match asked : arguments.request with
  | .nothing => exact pure _
  | .query request => exact runQuery environment arguments _ today request
  | .explain request => exact runExplain environment _ today request
  | .showConfig => exact runShowConfig environment _ today
  | .configPath => exact runConfigPath environment _ today
  | .initConfig force => exact absurd asked (other force)
  | .completions _ => exact pure _

end OnlyReads

/-! ## A new settings file -/

/-- A new settings file is written: the path is known, no file was seen there unless the run
is forced, and the missing directories can be made and the file be written. -/
structure Writes (environment : Environment) (files : FileSystem) (path : String)
    (force : Bool) (later : FileSystem) : Prop where
  found : environment.settingsPath = some path
  allowed : files.isThere path = true → force = true
  made : (files.makeParents path).1 = .ok ()
  writable : (files.makeParents path).2.placeToWrite path = .ok (files.placeOf path)
  written : later = (files.makeParents path).2.put (files.placeOf path) (.file Settings.template)

theorem runInitConfig_apply {environment : Environment} {path : String} (today : Date)
    (manner : Manner) (force : Bool) (files : FileSystem)
    (found : environment.settingsPath = some path) :
    runInitConfig (host today) environment manner force files =
      if files.isThere path && !force then (.error (.config (.alreadyExists path)), files)
      else match files.makeParents path with
        | (.error fault, later) => (.error (.config (.directoryNotMade fault)), later)
        | (.ok _, later) =>
            match later.write path Settings.template with
            | (.error fault, last) => (.error (.config (.notWritten fault)), last)
            | (.ok _, last) => (.ok (.finished (initConfigOutput manner path)), last) := by
  rw [runInitConfig, findSettings, found, pure_bind, FileStep.ask_bind_apply, host_isThere]
  dsimp only
  split
  · rfl
  · rw [FileStep.ask_bind_apply, host_makeParents]
    rcases files.makeParents path with ⟨fault | _, later⟩
    · rfl
    · dsimp only
      rw [FileStep.ask_bind_apply, host_write]
      rcases later.write path Settings.template with ⟨fault | _, last⟩ <;> rfl

/-- The request for a new settings file writes it, or fails and leaves the content of every
file as it was. -/
theorem runInitConfig_cases (today : Date) (environment : Environment) (manner : Manner)
    (force : Bool) (files : FileSystem) :
    (∃ failure later, runInitConfig (host today) environment manner force files =
        (.error failure, later) ∧ (later = files ∨ ∃ path, later = (files.makeParents path).2)) ∨
      ∃ path later, runInitConfig (host today) environment manner force files =
        (.ok (.finished (initConfigOutput manner path)), later) ∧
          Writes environment files path force later := by
  cases found : environment.settingsPath with
  | none =>
      refine Or.inl ⟨.config .noDirectory, files, ?_, Or.inl rfl⟩
      rw [runInitConfig, findSettings, found]
      rfl
  | some path =>
      rw [runInitConfig_apply today manner force files found]
      split
      · exact Or.inl ⟨_, files, rfl, Or.inl rfl⟩
      · rename_i allowed
        have seen : files.isThere path = true → force = true := by simpa using allowed
        split
        · rename_i fault later made
          exact Or.inl ⟨_, later, rfl, Or.inr ⟨path, by rw [made]⟩⟩
        · rename_i later made
          have isLater : later = (files.makeParents path).2 := by rw [made]
          rw [write]
          cases writable : later.placeToWrite path with
          | error fault => exact Or.inl ⟨_, later, rfl, Or.inr ⟨path, isLater⟩⟩
          | ok place =>
              obtain rfl : place = files.placeOf path :=
                (eq_placeOf_of_placeToWrite writable).trans (placeOf_congr path (by simp [isLater]))
              refine Or.inr ⟨path, _, rfl, found, seen, by rw [made], ?_, ?_⟩
              · rwa [← isLater]
              · rw [← isLater]

namespace Writes

variable {environment : Environment} {files later : FileSystem} {path : String} {force : Bool}

theorem content?_placeOf (writes : Writes environment files path force later) :
    later.content? (files.placeOf path) = some Settings.template := by
  rw [writes.written, content?_put_self]

theorem content?_of_ne (writes : Writes environment files path force later) {place : Place}
    (differ : place ≠ files.placeOf path) : later.content? place = files.content? place := by
  rw [writes.written, content?_put_of_ne _ _ differ, content?_makeParents]

theorem workingDirectory_eq (writes : Writes environment files path force later) :
    later.workingDirectory = files.workingDirectory := by
  rw [writes.written, workingDirectory_put, workingDirectory_makeParents]

theorem isTree (writes : Writes environment files path force later) (tree : files.IsTree) :
    later.IsTree := by
  rw [writes.written]
  exact (tree.makeParents path).put_of_placeToWrite writes.writable _

/-- A file that was there is written over when that is forced, or when it was out of sight
because a directory on the way was missing. -/
theorem force_or_lacksDirectory (writes : Writes environment files path force later)
    (isFile : files.content? (files.placeOf path) ≠ none) :
    force = true ∨ files.LacksDirectory path := by
  cases seen : files.isThere path with
  | true => exact Or.inl (writes.allowed seen)
  | false => exact Or.inr (lacksDirectory_of_makeParents writes.made writes.writable isFile seen)

end Writes

/-- The template sets nothing. -/
theorem Settings.read_template : Settings.read Settings.template = .ok {} := by
  have letters : Settings.template.toList =
      Settings.templateLines.flatMap fun line => line.toList ++ ['\n'] := by
    simp [Settings.template, List.flatMap_map]
  -- the characters of each line are found apart, which is much less work than those of the whole
  rw [Settings.read, Toml.read, letters]
  simp only [Settings.templateLines, List.flatMap_cons, List.flatMap_nil, String.reduceToList]
  decide +kernel

theorem loadSettings_of_read {environment : Environment} {files : FileSystem}
    {path document : String} {settings : Settings} (today : Date)
    (found : environment.settingsPath = some path) (reads : files.read path = .ok document)
    (usable : Settings.read document = .ok settings) :
    loadSettings (host today) environment files = (.ok settings, files) := by
  rw [loadSettings, findSettings, found, pure_bind, FileStep.ask_bind_apply, host_isThere]
  dsimp only
  rw [if_pos (isThere_of_read reads), FileStep.ask_bind_apply, host_read, reads]
  dsimp only
  rw [usable]
  rfl

/-- A settings file that was written is there and is read with everything at its default. -/
theorem Writes.loadSettings {environment : Environment} {files later : FileSystem}
    {path : String} {force : Bool} (writes : Writes environment files path force later)
    (today : Date) : loadSettings (host today) environment later = (.ok {}, later) := by
  have reads : later.read path = .ok Settings.template := by
    rw [writes.written]
    exact read_put_of_placeToWrite writes.writable _
  exact loadSettings_of_read today writes.found reads Settings.read_template

/-! ## Runs -/

/-- What one run of the program is given besides the files: the day, its variables and its
arguments. -/
structure Invocation where
  today : Date
  environment : Environment
  words : List String

section

variable [Pattern.Wording]

namespace Invocation

variable {invocation : Invocation} {files later : FileSystem}

/-- How a run on some files ends, and the files that it leaves. -/
def on (invocation : Invocation) (files : FileSystem) : RunOutcome × FileSystem :=
  run (host invocation.today) invocation.environment invocation.words files

/-- What a run is asked to do, if its arguments mean anything. -/
def request? (invocation : Invocation) : Option Request :=
  match Arguments.read invocation.environment.tasksFile invocation.words with
  | .ok arguments => some arguments.request
  | .error _ => none

theorem on_of_usage {usage : Usage}
    (refused : Arguments.read invocation.environment.tasksFile invocation.words = .error usage) :
    invocation.on files = (.usage usage, files) := by
  rw [on, run, refused]
  rfl

section

variable {arguments : Arguments}
  (reads : Arguments.read invocation.environment.tasksFile invocation.words = .ok arguments)
include reads

theorem on_of_ok {outcome : RunOutcome}
    (ends : runRequest (host invocation.today) invocation.environment arguments files =
      (.ok outcome, later)) : invocation.on files = (outcome, later) := by
  rw [on, run, reads]
  exact bind_apply_of_eq ends

theorem on_of_error {failure : Failure}
    (fails : runRequest (host invocation.today) invocation.environment arguments files =
      (.error failure, later)) :
    invocation.on files = (.failed arguments.json failure, later) := by
  rw [on, run, reads]
  exact bind_apply_of_eq fails

end

/-- A run that is not asked for a new settings file leaves all files as they are. -/
theorem on_of_other (other : ∀ force, invocation.request? ≠ some (.initConfig force)) :
    (invocation.on files).2 = files := by
  cases reads : Arguments.read invocation.environment.tasksFile invocation.words with
  | error usage => rw [on_of_usage reads]
  | ok arguments =>
      rw [request?, reads] at other
      have same := OnlyReads.runRequest invocation.environment arguments invocation.today
        (fun force asked => other force (congrArg some asked)) files
      rcases result : runRequest (host invocation.today) invocation.environment arguments files
        with ⟨failure | outcome, later⟩ <;> rw [result] at same
      · rw [on_of_error reads result]
        exact same
      · rw [on_of_ok reads result]
        exact same

/-- A run that is asked for a new settings file writes it, or fails and makes directories
at most. -/
theorem on_of_initConfig {force : Bool}
    (asked : invocation.request? = some (.initConfig force)) (files : FileSystem) :
    ((invocation.on files).1.exitStatus ≠ 0 ∧
        ((invocation.on files).2 = files ∨
          ∃ path, (invocation.on files).2 = (files.makeParents path).2)) ∨
      (invocation.on files).1.exitStatus = 0 ∧
        ∃ path, Writes invocation.environment files path force (invocation.on files).2 := by
  cases reads : Arguments.read invocation.environment.tasksFile invocation.words with
  | error usage =>
      rw [request?, reads] at asked
      cases asked
  | ok arguments =>
      rw [request?, reads] at asked
      have isInit : arguments.request = .initConfig force := Option.some.inj asked
      have isRun : runRequest (host invocation.today) invocation.environment arguments =
          runInitConfig (host invocation.today) invocation.environment
            (Manner.of arguments invocation.environment) force := by
        rw [runRequest, isInit]
      rcases runInitConfig_cases invocation.today invocation.environment
        (Manner.of arguments invocation.environment) force files with
        ⟨failure, later, fails, isLater⟩ | ⟨path, later, ends, writes⟩
      · refine Or.inl ?_
        rw [on_of_error reads (isRun ▸ fails)]
        exact ⟨by cases failure <;> exact Nat.noConfusion, isLater⟩
      · refine Or.inr ?_
        rw [on_of_ok reads (isRun ▸ ends)]
        exact ⟨rfl, path, writes⟩

/-- Whatever a run is asked to do, it writes a new settings file on request and with success,
or the content of every file stays as it was. -/
theorem on_cases (invocation : Invocation) (files : FileSystem) :
    (invocation.on files).2 = files ∨
      (∃ path, (invocation.on files).2 = (files.makeParents path).2) ∨
      ∃ force path, invocation.request? = some (.initConfig force) ∧
        (invocation.on files).1.exitStatus = 0 ∧
        Writes invocation.environment files path force (invocation.on files).2 := by
  by_cases asked : ∃ force, invocation.request? = some (.initConfig force)
  · obtain ⟨force, isInit⟩ := asked
    rcases on_of_initConfig isInit files with ⟨-, same | made⟩ | ⟨ends, path, writes⟩
    · exact Or.inl same
    · exact Or.inr (Or.inl made)
    · exact Or.inr (Or.inr ⟨force, path, isInit, ends, writes⟩)
  · exact Or.inl (on_of_other (not_exists.mp asked))

theorem workingDirectory_on (invocation : Invocation) (files : FileSystem) :
    (invocation.on files).2.workingDirectory = files.workingDirectory := by
  rcases invocation.on_cases files with same | ⟨path, made⟩ | ⟨_, _, -, -, writes⟩
  · rw [same]
  · rw [made, workingDirectory_makeParents]
  · exact writes.workingDirectory_eq

theorem isTree_on (invocation : Invocation) (tree : files.IsTree) :
    (invocation.on files).2.IsTree := by
  rcases invocation.on_cases files with same | ⟨path, made⟩ | ⟨_, _, -, -, writes⟩
  · rwa [same]
  · rw [made]
    exact tree.makeParents path
  · exact writes.isTree tree

/-- If a run changes the content at a place, it writes a new settings file there. -/
theorem writes_of_content?_ne {place : Place}
    (changed : (invocation.on files).2.content? place ≠ files.content? place) :
    ∃ force path, invocation.request? = some (.initConfig force) ∧
      (invocation.on files).1.exitStatus = 0 ∧ place = files.placeOf path ∧
      Writes invocation.environment files path force (invocation.on files).2 := by
  rcases invocation.on_cases files with same | ⟨path, made⟩ | ⟨force, path, asked, ends, writes⟩
  · rw [same] at changed
    exact absurd rfl changed
  · rw [made, content?_makeParents] at changed
    exact absurd rfl changed
  · refine ⟨force, path, asked, ends, ?_, writes⟩
    by_contra differ
    exact changed (writes.content?_of_ne differ)

end Invocation

/-! ## Runs one after another -/

/-- What some runs leave of some files, one after another. -/
def after (files : FileSystem) (invocations : List Invocation) : FileSystem :=
  invocations.foldl (fun files invocation => (invocation.on files).2) files

theorem workingDirectory_after (files : FileSystem) (invocations : List Invocation) :
    (after files invocations).workingDirectory = files.workingDirectory := by
  induction invocations generalizing files with
  | nil => rfl
  | cons invocation invocations ih => exact (ih _).trans (invocation.workingDirectory_on files)

theorem isTree_after {files : FileSystem} (tree : files.IsTree) (invocations : List Invocation) :
    (after files invocations).IsTree := by
  induction invocations generalizing files with
  | nil => exact tree
  | cons invocation invocations ih => exact ih (invocation.isTree_on tree)

/-- Runs change the content at a place to the template only, and it is a run with its settings
path at that place that does. -/
theorem content?_after_of_ne {files : FileSystem} {invocations : List Invocation} {place : Place}
    (changed : (after files invocations).content? place ≠ files.content? place) :
    (after files invocations).content? place = some Settings.template ∧
      ∃ invocation ∈ invocations, ∃ force path,
        invocation.request? = some (.initConfig force) ∧
          invocation.environment.settingsPath = some path ∧ files.placeOf path = place := by
  induction invocations generalizing files with
  | nil => exact absurd rfl changed
  | cons invocation invocations ih =>
      by_cases later : (after files (invocation :: invocations)).content? place =
          (invocation.on files).2.content? place
      · rw [later] at changed ⊢
        obtain ⟨force, path, asked, -, rfl, writes⟩ := Invocation.writes_of_content?_ne changed
        exact ⟨writes.content?_placeOf, invocation, List.mem_cons_self, force, path, asked,
          writes.found, rfl⟩
      · obtain ⟨holds, other, member, force, path, asked, found, leads⟩ := ih later
        refine ⟨holds, other, List.mem_cons_of_mem _ member, force, path, asked, found, ?_⟩
        rw [← leads, placeOf_congr path (invocation.workingDirectory_on files)]

/-- Only the request for a new settings file writes. Take any files, any runs on them and a
run after those. If that run changes the content at a place, it was asked for a new settings
file and ends with success, its settings path leads to the place, and the place then holds
the template. A file that was there before is changed only if that is forced or if the path
leads to it through a directory that was missing; in a tree the second can happen only to a
path with two points among its names. A run that fails leaves the content of every file as
it was. A request for a new settings file that ends with success writes it, and with the same
variables the settings are then read, with everything at its default. And over all the runs
no content has changed but to the template, at the settings path of one of them. -/
theorem content?_on_after (files : FileSystem) (earlier : List Invocation)
    (invocation : Invocation) :
    let before := after files earlier
    let outcome := (invocation.on before).1
    let later := (invocation.on before).2
    (∀ place, later.content? place ≠ before.content? place →
      ∃ force path, invocation.request? = some (.initConfig force) ∧ outcome.exitStatus = 0 ∧
        invocation.environment.settingsPath = some path ∧ files.placeOf path = place ∧
        later.content? place = some Settings.template ∧
        (before.content? place ≠ none →
          (force = true ∨ before.LacksDirectory path) ∧
            (files.IsTree → ".." ∉ Path.names path → force = true))) ∧
    (outcome.exitStatus ≠ 0 → ∀ place, later.content? place = before.content? place) ∧
    (∀ force, invocation.request? = some (.initConfig force) → outcome.exitStatus = 0 →
      ∃ path, invocation.environment.settingsPath = some path ∧
        later.content? (files.placeOf path) = some Settings.template ∧
        loadSettings (host invocation.today) invocation.environment later = (.ok {}, later)) ∧
    ∀ place, before.content? place ≠ files.content? place →
      before.content? place = some Settings.template ∧
        ∃ other ∈ earlier, ∃ force path, other.request? = some (.initConfig force) ∧
          other.environment.settingsPath = some path ∧ files.placeOf path = place := by
  intro before outcome later
  have samePlace (path : String) : before.placeOf path = files.placeOf path :=
    placeOf_congr path (workingDirectory_after files earlier)
  refine ⟨fun place changed => ?_, fun fails place => ?_, fun force asked ends => ?_,
    fun place changed => content?_after_of_ne changed⟩
  · obtain ⟨force, path, asked, ends, rfl, writes⟩ := Invocation.writes_of_content?_ne changed
    refine ⟨force, path, asked, ends, writes.found, (samePlace path).symm,
      writes.content?_placeOf, fun isFile => ?_⟩
    have protects := writes.force_or_lacksDirectory isFile
    refine ⟨protects, fun tree noPoints => protects.resolve_right ?_⟩
    exact (isTree_after tree earlier).not_lacksDirectory noPoints isFile
  · by_contra changed
    obtain ⟨_, _, -, ends, -⟩ := Invocation.writes_of_content?_ne changed
    exact fails ends
  · rcases Invocation.on_of_initConfig asked before with ⟨fails, -⟩ | ⟨-, path, writes⟩
    · exact absurd ends fails
    · refine ⟨path, writes.found, ?_, writes.loadSettings invocation.today⟩
      rw [← samePlace]
      exact writes.content?_placeOf

end

/-- Without being forced a run writes over a settings file when its path leads into a missing
directory and out of it again: the run makes the directory, and then the path leads to the
file. -/
theorem unforced_initConfig_overwrites :
    let files := FileSystem.put ⟨fun place => if place = [] then some .directory else none, []⟩
      ["config.toml"] (.file "version = 1\n[output]\ncolor = false\n")
    let invocation : Invocation :=
      ⟨.first, { settingsFile := some "missing/../config.toml" }, ["config", "init"]⟩
    files.content? (files.placeOf "missing/../config.toml") =
        some "version = 1\n[output]\ncolor = false\n" ∧
      invocation.request? = some (.initConfig false) ∧
      (invocation.on files).1.exitStatus = 0 ∧
      (invocation.on files).2.content? (files.placeOf "missing/../config.toml") =
        some Settings.template := by
  intro files invocation
  have asked : invocation.request? = some (.initConfig false) := by decide +kernel
  have ends : (invocation.on files).1.exitStatus = 0 := by decide +kernel
  refine ⟨by decide +kernel, asked, ends, ?_⟩
  rcases Invocation.on_of_initConfig asked files with ⟨fails, -⟩ | ⟨-, path, writes⟩
  · exact absurd ends fails
  · obtain rfl : "missing/../config.toml" = path := Option.some.inj writes.found
    exact writes.content?_placeOf

end TaskQuery

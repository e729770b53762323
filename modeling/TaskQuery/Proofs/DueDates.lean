/-
# Where due dates cannot be told

A due date is told by its distance from today, and for that the days on both sides of today
are asked for first, whatever the date is. The first and the last day of the calendar have
only one of them. On these two days no due date can be told, neither tomorrow's nor one of a
hundred years ago, and a table with one due date in it cannot be shown. Filters are not
concerned: to them a day that does not exist is one that no date is compared with.

A table takes a run with it. The second part goes from the table to the run: of all requests
only one for a query can end so, and it does exactly if a table is asked for and one of the
tasks in it has a date.
-/

import TaskQuery.Proofs.SettingsFile
import TaskQuery.Report.Table

namespace TaskQuery

/-! ## The ends of the calendar -/

namespace Date

/-- The calendar ends on one side of the date. -/
def IsOutermost (date : Date) : Prop :=
  date = first ∨ date = last

instance (date : Date) : Decidable date.IsOutermost :=
  inferInstanceAs (Decidable (_ ∨ _))

theorem isSome_ofNumber?_iff (number : Int) :
    (ofNumber? number).isSome ↔ firstDayNumber ≤ number ∧ number ≤ lastDayNumber := by
  rw [ofNumber?]
  split <;> simp_all

theorem isSome_next?_iff (date : Date) : date.next?.isSome ↔ date ≠ last := by
  have fromFirst := date.first_le
  have toLast := date.le_last
  have same : date = last ↔ date.number = lastDayNumber := Date.ext_iff
  rw [next?, isSome_ofNumber?_iff, ne_eq, same]
  omega

theorem isSome_previous?_iff (date : Date) : date.previous?.isSome ↔ date ≠ first := by
  have fromFirst := date.first_le
  have toLast := date.le_last
  have same : date = first ↔ date.number = firstDayNumber := Date.ext_iff
  rw [previous?, isSome_ofNumber?_iff, ne_eq, same]
  omega

end Date

/-! ## Cells and tables -/

/-- A due date is given, and it is a text that begins with a date. -/
def HoldsDate (due : Option String) : Prop :=
  (due.bind Date.ofField?).isSome

instance (due : Option String) : Decidable (HoldsDate due) :=
  inferInstanceAs (Decidable (_ = true))

/-- Where a date lies is asked of both neighbours of today, so it does not matter which date
it is. -/
theorem DueDay.isSome_of?_iff (today date : Date) :
    (of? today date).isSome ↔ ¬ today.IsOutermost := by
  rw [Date.IsOutermost, not_or, ← ne_eq, ← ne_eq, ← Date.isSome_previous?_iff,
    ← Date.isSome_next?_iff, of?]
  cases today.next? <;> cases today.previous? <;> simp

theorem isSome_mapM_iff {α β : Type} (f : α → Option β) (items : List α) :
    (items.mapM f).isSome ↔ ∀ item ∈ items, (f item).isSome := by
  induction items with
  | nil => simp
  | cons item items ih =>
      rw [List.mapM_cons, List.forall_mem_cons, ← ih]
      cases f item <;> cases items.mapM f <;> simp

section

variable (colors : Bool) (today : Date)

theorem isSome_dueCell?_iff (due : Option String) :
    (dueCell? colors today due).isSome ↔ ¬ (today.IsOutermost ∧ HoldsDate due) := by
  cases due with
  | none => simp [dueCell?, HoldsDate]
  | some text =>
      rw [dueCell?, HoldsDate, Option.bind_some]
      cases Date.ofField? text with
      | none => simp
      | some date => simp [DueDay.isSome_of?_iff]

theorem isSome_ofTask?_iff (task : Task) :
    (TableRow.ofTask? colors today task).isSome ↔ ¬ (today.IsOutermost ∧ HoldsDate task.due) := by
  rw [← isSome_dueCell?_iff colors, TableRow.ofTask?]
  cases dueCell? colors today task.due <;> simp

theorem isSome_tasksTable?_iff (tasks : List Task) :
    (tasksTable? colors today tasks).isSome ↔
      ¬ (today.IsOutermost ∧ ∃ task ∈ tasks, HoldsDate task.due) := by
  have rows : (tasks.mapM (TableRow.ofTask? colors today)).isSome ↔
      ¬ (today.IsOutermost ∧ ∃ task ∈ tasks, HoldsDate task.due) := by
    simp only [isSome_mapM_iff, isSome_ofTask?_iff]
    grind
  rw [← rows, tasksTable?]
  cases tasks with
  | nil => simp
  | cons task tasks => cases (task :: tasks).mapM (TableRow.ofTask? colors today) <;> simp

theorem isSome_groupsTable?_iff (groups : List TaskGroup) :
    (groupsTable? colors today groups).isSome ↔
      ¬ (today.IsOutermost ∧ ∃ group ∈ groups, ∃ task ∈ group.tasks, HoldsDate task.due) := by
  let titled (group : TaskGroup) : Option String := do
    return group.title colors ++ (← tasksTable? colors today group.tasks)
  have each (group : TaskGroup) : (titled group).isSome ↔
      ¬ (today.IsOutermost ∧ ∃ task ∈ group.tasks, HoldsDate task.due) := by
    rw [← isSome_tasksTable?_iff colors]
    cases shown : tasksTable? colors today group.tasks <;> simp [titled, shown]
  have tables : (groups.mapM titled).isSome ↔
      ¬ (today.IsOutermost ∧ ∃ group ∈ groups, ∃ task ∈ group.tasks, HoldsDate task.due) := by
    simp only [isSome_mapM_iff, each]
    grind
  rw [← tables, groupsTable?]
  cases groups with
  | nil => simp
  | cons group groups =>
      change ((groups.cons group).mapM titled >>= _).isSome ↔ _
      cases (group :: groups).mapM titled <;> simp

end

/-! ## Results of queries -/

/-- The tasks that the result of a query shows, group by group if it has groups. -/
def PreparedQuery.shown (prepared : PreparedQuery) (setting : Setting) (limit : Option Nat)
    (tasks : List Task) : List Task :=
  if prepared.query.group.isSome then
    (prepared.query.executeGrouped setting tasks).groups.flatMap fun group =>
      limited limit group.tasks
  else limited limit (prepared.query.execute setting tasks)

theorem PreparedQuery.isSome_table?_iff (prepared : PreparedQuery) (setting : Setting)
    (colors : Bool) (limit : Option Nat) (tasks : List Task) :
    (prepared.table? setting colors limit tasks).isSome ↔
      ¬ (setting.today.IsOutermost ∧
        ∃ task ∈ prepared.shown setting limit tasks, HoldsDate task.due) := by
  rw [table?, shown]
  split
  · rw [isSome_groupsTable?_iff]
    simp only [TaskGroups.map, List.mem_map, List.mem_flatMap]
    grind
  · exact isSome_tasksTable?_iff _ _ _

/-- Showing a result aborts the run if it is asked for as a table which cannot be shown. It
makes no difference that a quiet run would not write the table. -/
theorem exists_queryOutcome_eq_aborted_iff [Pattern.Wording] (manner : Manner)
    (settings : Settings) (request : QueryRequest) (prepared : PreparedQuery) (today : Date)
    (tasks : List Task) :
    (∃ stderr, queryOutcome manner settings request prepared today tasks = .aborted stderr) ↔
      manner.json = false ∧ today.IsOutermost ∧
        ∃ task ∈ prepared.shown ⟨settings.vocabulary, .ofTasks tasks, today⟩ request.limit tasks,
          HoldsDate task.due := by
  have told := prepared.isSome_table?_iff ⟨settings.vocabulary, .ofTasks tasks, today⟩
    (manner.colors && settings.allowsColor) request.limit tasks
  rw [queryOutcome]
  cases manner.json with
  | true => simp
  | false =>
      cases shown : prepared.table? ⟨settings.vocabulary, .ofTasks tasks, today⟩
          (manner.colors && settings.allowsColor) request.limit tasks <;>
        rw [shown] at told <;> simpa using told

/-! ## Steps of a run -/

/-- The second of two steps goes on with what the first one gives, if that one only reads. -/
theorem OnlyReads.bind_eq_ok_iff {α β : Type} {step : FileStep α} (reads : OnlyReads step)
    (next : α → FileStep β) (files later : FileSystem) (value : β) :
    (step >>= next) files = (.ok value, later) ↔
      ∃ first, step files = (.ok first, files) ∧ next first files = (.ok value, later) := by
  have same := reads files
  rw [FileStep.bind_apply]
  match step files, same with
  | (.error failure, middle), same =>
      constructor
      · intro ends
        cases ends
      · rintro ⟨first, fails, -⟩
        cases fails
  | (.ok first, middle), same =>
      obtain rfl : middle = files := same
      constructor
      · intro ends
        exact ⟨first, rfl, ends⟩
      · rintro ⟨other, gives, ends⟩
        cases gives
        exact ends

/-- A step ends the run with what is to be written, if it does not fail. -/
def OnlyFinishes (step : FileStep RunOutcome) : Prop :=
  ∀ files outcome, (step files).1 = .ok outcome → ∃ output, outcome = .finished output

namespace OnlyFinishes

theorem finished (output : Output) : OnlyFinishes (pure (.finished output)) := by
  intro files outcome ends
  exact ⟨output, (Except.ok.inj ends).symm⟩

theorem bind {α : Type} (step : FileStep α) {next : α → FileStep RunOutcome}
    (second : ∀ value, OnlyFinishes (next value)) : OnlyFinishes (step >>= next) := by
  intro files outcome ends
  rw [FileStep.bind_apply] at ends
  split at ends
  · exact second _ _ _ ends
  · cases ends

theorem initConfig (today : Date) (environment : Environment) (manner : Manner) (force : Bool) :
    OnlyFinishes (runInitConfig (FileSystem.host today) environment manner force) := by
  intro files outcome ends
  rcases runInitConfig_cases today environment manner force files with
    ⟨failure, later, fails, -⟩ | ⟨path, later, writes, -⟩
  · rw [fails] at ends
    cases ends
  · rw [writes] at ends
    exact ⟨_, (Except.ok.inj ends).symm⟩

/-- Every request ends with what is to be written, unless it is for a query. -/
theorem runRequest [Pattern.Wording] {arguments : Arguments} (today : Date)
    (environment : Environment) (other : ∀ request, arguments.request ≠ .query request) :
    OnlyFinishes (TaskQuery.runRequest (FileSystem.host today) environment arguments) := by
  rw [TaskQuery.runRequest]
  cases asked : arguments.request with
  | nothing => exact finished _
  | query request => exact absurd asked (other request)
  | explain request =>
      exact bind _ fun settings => bind _ fun input => bind _ fun _ => finished _
  | showConfig => exact bind _ fun settings => bind _ fun path => bind _ fun isThere => finished _
  | configPath => exact bind _ fun path => bind _ fun isThere => finished _
  | initConfig force => exact initConfig today environment _ force
  | completions shell => exact finished _

end OnlyFinishes

/-! ## Aborted runs -/

namespace Invocation

/-- What a run has read when it comes to showing the result of a query. -/
structure Finds (invocation : Invocation) (files : FileSystem) (arguments : Arguments)
    (request : QueryRequest) (settings : Settings) (tasks : List Task)
    (prepared : PreparedQuery) : Prop where
  readsArguments :
    Arguments.read invocation.environment.tasksFile invocation.words = .ok arguments
  asked : arguments.request = .query request
  loadsSettings : loadSettings (FileSystem.host invocation.today) invocation.environment files =
    (.ok settings, files)
  loadsTasks : ∃ path,
    settings.tasksPath invocation.environment.homeDirectory arguments.file = .ok path ∧
      loadTasks (FileSystem.host invocation.today) path files = (.ok tasks, files)
  readsQuery : PreparedQuery.of settings request = .ok prepared

variable {invocation : Invocation} {files later : FileSystem} {arguments : Arguments}
  {request : QueryRequest} {outcome : RunOutcome} [Pattern.Wording]

/-- A run for a query that does not fail shows the result of what it has read. -/
theorem runQuery_eq_ok_iff
    (reads : Arguments.read invocation.environment.tasksFile invocation.words = .ok arguments)
    (asked : arguments.request = .query request) :
    runQuery (FileSystem.host invocation.today) invocation.environment arguments
        (.of arguments invocation.environment) request files = (.ok outcome, later) ↔
      ∃ settings tasks prepared, invocation.Finds files arguments request settings tasks prepared ∧
        queryOutcome (.of arguments invocation.environment) settings request prepared
          (request.today.getD invocation.today) tasks = outcome ∧ files = later := by
  rw [runQuery, (OnlyReads.loadSettings _ _).bind_eq_ok_iff]
  simp only [(OnlyReads.known _).bind_eq_ok_iff, (OnlyReads.loadTasks _ _).bind_eq_ok_iff,
    FileStep.log_bind]
  constructor
  · rintro ⟨settings, loaded, path, isPath, tasks, areTasks, prepared, isPrepared, ends⟩
    refine ⟨settings, tasks, prepared, ⟨reads, asked, loaded, ⟨path, ?_, areTasks⟩, ?_⟩, ?_⟩
    · exact congrArg Prod.fst isPath
    · exact congrArg Prod.fst isPrepared
    · cases given : request.today <;> rw [given] at ends <;> cases ends <;> exact ⟨rfl, rfl⟩
  · rintro ⟨settings, tasks, prepared, found, rfl, rfl⟩
    obtain ⟨path, isPath, areTasks⟩ := found.loadsTasks
    refine ⟨settings, found.loadsSettings, path, ?_, tasks, areTasks, prepared, ?_, ?_⟩
    · rw [isPath]
      rfl
    · rw [found.readsQuery]
      rfl
    · cases request.today <;> rfl

/-- A run is aborted exactly if it comes to showing the result of a query as a table that
cannot be shown. -/
theorem exists_on_eq_aborted_iff (invocation : Invocation) (files : FileSystem) :
    (∃ stderr, (invocation.on files).1 = .aborted stderr) ↔
      ∃ arguments request settings tasks prepared,
        invocation.Finds files arguments request settings tasks prepared ∧
          arguments.json = false ∧ (request.today.getD invocation.today).IsOutermost ∧
          ∃ task ∈ prepared.shown
              ⟨settings.vocabulary, .ofTasks tasks, request.today.getD invocation.today⟩
              request.limit tasks, HoldsDate task.due := by
  have isRun {arguments : Arguments} {request : QueryRequest}
      (asked : arguments.request = .query request) :
      runRequest (FileSystem.host invocation.today) invocation.environment arguments =
        runQuery (FileSystem.host invocation.today) invocation.environment arguments
          (.of arguments invocation.environment) request := by
    rw [runRequest, asked]
  constructor
  · rintro ⟨stderr, ends⟩
    cases reads : Arguments.read invocation.environment.tasksFile invocation.words with
    | error cause =>
        rw [on_of_usage reads] at ends
        cases ends
    | ok arguments =>
        rcases ran : runRequest (FileSystem.host invocation.today) invocation.environment
          arguments files with ⟨failure | outcome, later⟩
        · rw [on_of_error reads ran] at ends
          cases ends
        · rw [on_of_ok reads ran] at ends
          by_cases isQuery : ∃ request, arguments.request = .query request
          · obtain ⟨request, asked⟩ := isQuery
            rw [isRun asked] at ran
            obtain ⟨settings, tasks, prepared, found, shows, -⟩ :=
              (runQuery_eq_ok_iff reads asked).mp ran
            refine ⟨arguments, request, settings, tasks, prepared, found, ?_⟩
            exact (exists_queryOutcome_eq_aborted_iff _ _ _ _ _ _).mp ⟨stderr, shows.trans ends⟩
          · obtain ⟨output, finished⟩ := OnlyFinishes.runRequest invocation.today
              invocation.environment (not_exists.mp isQuery) files outcome (by rw [ran])
            rw [finished] at ends
            cases ends
  · rintro ⟨arguments, request, settings, tasks, prepared, found, aborts⟩
    obtain ⟨stderr, ends⟩ := (exists_queryOutcome_eq_aborted_iff
      (.of arguments invocation.environment) settings request prepared _ tasks).mpr aborts
    have ran := (runQuery_eq_ok_iff found.readsArguments found.asked).mpr
      ⟨settings, tasks, prepared, found, ends, rfl⟩
    rw [← isRun found.asked] at ran
    exact ⟨stderr, congrArg Prod.fst (on_of_ok found.readsArguments ran)⟩

end Invocation

/-- Whatever a due date is, whatever day today is and with colours or without, the due date
has a text to show exactly if it is no date or today has a day on both sides. The same holds
of a table for each due date in it, and of the tables of groups. And a run is aborted for
this reason only: it was to show the result of a query as a table, on the first or the last
day of the calendar, with a date among the due dates in it. -/
theorem isSome_dueCell?_and_tables_iff [Pattern.Wording] (colors : Bool) (today : Date)
    (due : Option String) (tasks : List Task) (groups : List TaskGroup) (invocation : Invocation)
    (files : FileSystem) :
    ((dueCell? colors today due).isSome ↔ ¬ (today.IsOutermost ∧ HoldsDate due)) ∧
    ((tasksTable? colors today tasks).isSome ↔
      ¬ (today.IsOutermost ∧ ∃ task ∈ tasks, HoldsDate task.due)) ∧
    ((groupsTable? colors today groups).isSome ↔
      ¬ (today.IsOutermost ∧ ∃ group ∈ groups, ∃ task ∈ group.tasks, HoldsDate task.due)) ∧
    ((∃ stderr, (invocation.on files).1 = .aborted stderr) ↔
      ∃ arguments request settings tasks prepared,
        invocation.Finds files arguments request settings tasks prepared ∧
          arguments.json = false ∧ (request.today.getD invocation.today).IsOutermost ∧
          ∃ task ∈ prepared.shown
              ⟨settings.vocabulary, .ofTasks tasks, request.today.getD invocation.today⟩
              request.limit tasks, HoldsDate task.due) :=
  ⟨isSome_dueCell?_iff colors today due, isSome_tasksTable?_iff colors today tasks,
    isSome_groupsTable?_iff colors today groups, invocation.exists_on_eq_aborted_iff files⟩

/-- An ordinary due date has no text on the last day of the calendar and on the first, and
neither has a table with it. -/
theorem dueCell?_eq_none_on_outermost_days :
    let task : Task := { id := "a", due := some "2025-01-15" }
    dueCell? false .last task.due = none ∧ dueCell? true .first task.due = none ∧
      tasksTable? false .last [task] = none ∧
      groupsTable? true .first [⟨"all", [task]⟩] = none := by
  decide +kernel

end TaskQuery

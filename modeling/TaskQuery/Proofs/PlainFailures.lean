/-
# Plain failures

Why a run fails is told with paths, with names from the settings and with what is wrong about
a file or a query. The paths come from the arguments, the environment and the settings. All of
it is plain where they and the files are.
-/

import TaskQuery.Command.Environment
import TaskQuery.Proofs.PlainArguments
import TaskQuery.Proofs.PlainReports

namespace TaskQuery

/-! ## Paths -/

namespace Path

theorem subset_of_mem_splitOn {cs part : List Char} {separator : Char}
    (member : part ∈ cs.splitOn separator) : part ⊆ cs := by
  rw [List.splitOn] at member
  induction cs generalizing part with
  | nil =>
      rw [List.splitOnP_nil, List.mem_singleton] at member
      subst member
      exact List.Subset.refl _
  | cons c cs ih =>
      rw [List.splitOnP_cons_eq_if_modifyHead] at member
      split at member
      · rcases List.mem_cons.mp member with rfl | later
        · exact List.nil_subset _
        · exact List.subset_cons_of_subset c (ih later)
      · cases parts : cs.splitOnP (· == separator) with
        | nil =>
            rw [parts] at member
            cases member
        | cons first others =>
            rw [parts] at member ih
            rcases List.mem_cons.mp member with rfl | later
            · exact List.cons_subset_cons c (ih List.mem_cons_self)
            · exact List.subset_cons_of_subset c (ih (List.mem_cons_of_mem _ later))

variable {path base : String}

theorem isPlain_of_mem_parts (plain : IsPlain path) : ∀ part ∈ parts path, IsPlain part := by
  intro part member
  obtain ⟨cs, isPart, rfl⟩ := List.mem_map.mp member
  exact .ofList fun escape => plain (subset_of_mem_splitOn isPart escape)

theorem isPlain_join (isBase : IsPlain base) (isPath : IsPlain path) :
    IsPlain (join base path) := by
  rw [join]
  split
  · exact isPath
  split
  · exact isBase.append isPath
  · exact .append (isBase.append (.literal rfl)) isPath

theorem isPlain_expandHome {home : Option String} (isHome : PlainIfGiven home)
    (isPath : IsPlain path) : IsPlain (expandHome home path) := by
  rw [expandHome.eq_def]
  split
  · rename_i home rest split
    refine isPlain_join (isHome home rfl) (.intercalate (.literal rfl) fun part member => ?_)
    refine isPlain_of_mem_parts isPath part ?_
    rw [split]
    refine List.mem_cons_of_mem _ ((List.dropWhile_sublist isIdle).mem ?_)
    exact List.mem_reverse.mp ((List.dropWhile_sublist isIdle).mem (List.mem_reverse.mp member))
  · exact isPath

end Path

/-- The texts of an environment are plain. -/
structure Environment.IsPlain (environment : Environment) : Prop where
  settingsFile : PlainIfGiven environment.settingsFile
  tasksFile : PlainIfGiven environment.tasksFile
  settingsHome : PlainIfGiven environment.settingsHome
  home : PlainIfGiven environment.home
  accountHome : PlainIfGiven environment.accountHome

namespace Environment.IsPlain

variable {environment : Environment}

theorem homeDirectory (plain : environment.IsPlain) : PlainIfGiven environment.homeDirectory := by
  rw [Environment.homeDirectory]
  split
  · rename_i home isHome
    split
    · exact plain.accountHome
    · exact plainIfGiven_some (plain.home home isHome)
  · exact plain.accountHome

theorem settingsDirectory (plain : environment.IsPlain) :
    PlainIfGiven environment.settingsDirectory := by
  rw [Environment.settingsDirectory]
  split
  · exact plainIfGiven_some (Path.isPlain_join (plain.settingsHome _ ‹_›) (.literal rfl))
  · intro path isPath
    obtain ⟨home, isHome, rfl⟩ := Option.map_eq_some_iff.mp isPath
    exact Path.isPlain_join (Path.isPlain_join (plain.homeDirectory home isHome) (.literal rfl))
      (.literal rfl)

theorem settingsPath (plain : environment.IsPlain) : PlainIfGiven environment.settingsPath := by
  rw [Environment.settingsPath]
  split
  · exact plainIfGiven_some (plain.settingsFile _ ‹_›)
  · intro path isPath
    obtain ⟨directory, isDirectory, rfl⟩ := Option.map_eq_some_iff.mp isPath
    exact Path.isPlain_join (plain.settingsDirectory directory isDirectory) (.literal rfl)

end Environment.IsPlain

/-! ## Files -/

/-- The wording of a file fault is plain. -/
def IoFault.IsPlain (fault : IoFault) : Prop :=
  TaskQuery.IsPlain fault.message

namespace FileSystem

variable (files : FileSystem)

theorem failsOnly_checkPath (path : String) : FailsOnly IoFault.IsPlain (checkPath path) :=
  .ite (.error (.literal rfl)) (.ite (.error (.literal rfl))
    (.ite (.error (.literal rfl)) (.ok trivial)))

theorem failsOnly_lookUp (place : Place) (name : String) :
    FailsOnly IoFault.IsPlain (files.lookUp place name) :=
  .ite (.error (.literal rfl)) (.ok trivial)

theorem failsOnly_follow (place : Place) (names : List String) :
    FailsOnly IoFault.IsPlain (files.follow place names) := by
  induction names generalizing place with
  | nil => exact .ok trivial
  | cons name names ih =>
      rw [follow]
      refine (files.failsOnly_lookUp place name).next fun found => ?_
      split
      · exact ih _
      · exact .throw (.literal rfl)
      · exact .throw (.literal rfl)

theorem failsOnly_locate (path : String) : FailsOnly IoFault.IsPlain (files.locate path) :=
  (failsOnly_checkPath path).next fun _ => (files.failsOnly_follow _ _).next fun _ => .pure trivial

theorem failsOnly_read (path : String) : FailsOnly IoFault.IsPlain (files.read path) := by
  refine (files.failsOnly_locate path).next fun located => ?_
  split
  · exact .throw (.literal rfl)
  · refine (files.failsOnly_lookUp _ _).next fun found => ?_
    split
    · exact .ite (.throw (.literal rfl)) (.pure trivial)
    · exact .throw (.literal rfl)
    · exact .throw (.literal rfl)

theorem failsOnly_placeToWrite (path : String) :
    FailsOnly IoFault.IsPlain (files.placeToWrite path) := by
  refine (files.failsOnly_locate path).next fun located => ?_
  split
  · exact .throw (.literal rfl)
  · refine .ite (.throw (.literal rfl)) ?_
    refine (files.failsOnly_lookUp _ _).next fun found => ?_
    split
    · exact .throw (.literal rfl)
    · exact .pure trivial

theorem failsOnly_write (path content : String) :
    FailsOnly IoFault.IsPlain (files.write path content).1 := by
  have writable := files.failsOnly_placeToWrite path
  rw [write]
  split
  · exact .ok trivial
  · rename_i fault refused
    exact .error (writable.fails refused)

theorem failsOnly_makeDirectories (place : Place) (names : List String) :
    FailsOnly IoFault.IsPlain (files.makeDirectories place names).1 := by
  induction names generalizing files place with
  | nil => exact .ok trivial
  | cons name names ih =>
      have looks := files.failsOnly_lookUp place name
      rw [makeDirectories]
      split
      · exact ih files _
      · refine .error ?_
        split <;> exact .literal rfl
      · exact ih _ _
      · rename_i fault refused
        exact .error (looks.fails refused)

theorem failsOnly_makeParents (path : String) :
    FailsOnly IoFault.IsPlain (files.makeParents path).1 := by
  rw [makeParents]
  generalize Path.above path = directory
  split
  · exact .error (.literal rfl)
  split
  · exact .error (.literal rfl)
  · exact files.failsOnly_makeDirectories _ _

end FileSystem

/-! ## Failures -/

section

variable [Pattern.Wording]

/-- The wording of a failure is plain. -/
def Failure.IsPlain (failure : Failure) : Prop :=
  TaskQuery.IsPlain failure.message

namespace Failure

theorem isPlain_query {problem : Diagnostic} (plain : TaskQuery.IsPlain problem.message) :
    (Failure.query problem).IsPlain :=
  .append (.literal rfl) plain

theorem isPlain_tasks {fault : TasksFault} (plain : TaskQuery.IsPlain fault.message) :
    (Failure.tasks fault).IsPlain :=
  .append (.literal rfl) plain

theorem isPlain_config {fault : ConfigFault} (plain : TaskQuery.IsPlain fault.message) :
    (Failure.config fault).IsPlain :=
  .append (.literal rfl) plain

theorem isPlain_unknownQuery {name : String} {known : List String}
    (isName : TaskQuery.IsPlain name) (areKnown : ∀ other ∈ known, TaskQuery.IsPlain other) :
    (Failure.config (.unknownQuery name known)).IsPlain := by
  cases known with
  | nil => exact isPlain_config (.append (.append (.literal rfl) isName) (.literal rfl))
  | cons first others =>
      exact isPlain_config (.append (.append (.append (.append (.literal rfl) isName)
        (.literal rfl)) (.intercalate (.literal rfl) areKnown)) (.literal rfl))

/-- A report as JSON is plain, whatever failed. -/
theorem IsPlain.report {failure : Failure} (plain : failure.IsPlain) (json : Bool) :
    TaskQuery.IsPlain (failure.report json) := by
  rw [Failure.report]
  split
  · exact .append (Json.isPlain_pretty _) (.literal rfl)
  · exact .append (.append (.literal rfl) plain) (.literal rfl)

end Failure

end

end TaskQuery

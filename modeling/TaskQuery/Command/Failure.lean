/-
# Failures

Why a run fails, how that is worded and which exit status it has. A failure is
reported in a line, or as JSON if that was asked for.
-/

import TaskQuery.Command.FileSystem
import TaskQuery.Command.Settings
import TaskQuery.Command.TaskFile
import TaskQuery.Json.Printer
import TaskQuery.Query.Diagnostic

namespace TaskQuery

/-- Why there are no tasks to query. -/
inductive TasksFault
  | notGiven
  | unreadable (path : String) (fault : IoFault)
  | unusable (path : String) (fault : TaskFile.Fault)
  deriving DecidableEq, Repr

/-- The wording of a fault. -/
def TasksFault.message : TasksFault → String
  | notGiven => "No task file given. Use --file, set TQ_TASKS, or set tasks_file in the config"
  | unreadable path fault => "Failed to read " ++ path ++ ": " ++ fault.message
  | unusable path fault => "Failed to parse " ++ path ++ ": " ++ fault.message

/-- What is wrong about the settings or their file. -/
inductive ConfigFault
  | noDirectory
  | unreadable (fault : IoFault)
  | unusable (fault : SettingsFault)
  | unknownQuery (name : String) (known : List String)
  | alreadyExists (path : String)
  | directoryNotMade (fault : IoFault)
  | notWritten (fault : IoFault)
  deriving DecidableEq, Repr

/-- The wording of a fault. -/
def ConfigFault.message : ConfigFault → String
  | noDirectory => "Could not determine config directory"
  | unreadable fault => "Failed to read config: " ++ fault.message
  | unusable fault => fault.message
  | unknownQuery name [] => "Unknown saved query '" ++ name ++ "' (no queries are saved)"
  | unknownQuery name known =>
      "Unknown saved query '" ++ name ++ "' (saved queries: " ++ ", ".intercalate known ++ ")"
  | alreadyExists path =>
      "Config file already exists at " ++ path ++ " (use --force to overwrite)"
  | directoryNotMade fault => "Failed to create config directory: " ++ fault.message
  | notWritten fault => "Failed to write config: " ++ fault.message

/-- Why a run fails. -/
inductive Failure
  | query (problem : Diagnostic)
  | tasks (fault : TasksFault)
  | config (fault : ConfigFault)
  deriving DecidableEq, Repr

namespace Failure

variable [Pattern.Wording]

/-- The wording of a failure. -/
def message : Failure → String
  | query problem => "query error: " ++ problem.message
  | tasks fault => "task file error: " ++ fault.message
  | config fault => "configuration error: " ++ fault.message

/-- The word by which other programs know the kind of a failure. -/
def code : Failure → String
  | query _ => "QUERY_ERROR"
  | tasks _ => "TASKS_ERROR"
  | config _ => "CONFIG_ERROR"

/-- The exit status of a run that fails. -/
def exitStatus : Failure → Nat
  | query _ => 1
  | tasks _ => 4
  | config _ => 5

/-- What a run that fails says. -/
def report (json : Bool) (failure : Failure) : String :=
  if json then
    (Json.object [("error", .object [("code", .string failure.code),
      ("message", .string failure.message)])]).pretty ++ "\n"
  else "Error: " ++ failure.message ++ "\n"

end Failure

end TaskQuery

/-
# The environment of a run

The variables that a run depends on, and the directories that follow from them.
-/

import TaskQuery.Command.Path

namespace TaskQuery

/-- The variables of a run. Of the one that turns colours off only its presence counts,
except in the log, which has colours as long as the variable is empty. -/
structure Environment where
  settingsFile : Option String := none
  tasksFile : Option String := none
  settingsHome : Option String := none
  home : Option String := none
  /-- The home directory by the system's list of users. -/
  accountHome : Option String := none
  /-- Whether the variable that turns colours off is there. -/
  noColor : Bool := false
  /-- Whether the variable that turns colours off holds a text. -/
  noLogColors : Bool := false
  /-- Which records of the log are wanted, in the words of its library. -/
  logDirectives : Option String := none
  deriving DecidableEq, Repr

namespace Environment

/-- The home directory. -/
def homeDirectory (environment : Environment) : Option String :=
  match environment.home with
  | some home => if home.isEmpty then environment.accountHome else some home
  | none => environment.accountHome

/-- The directory of the settings, unless a file is named. -/
def settingsDirectory (environment : Environment) : Option String :=
  match environment.settingsHome with
  | some directory => some (Path.join directory "tq")
  | none => environment.homeDirectory.map fun home => Path.join (Path.join home ".config") "tq"

/-- The path of the settings file, if it can be known. -/
def settingsPath (environment : Environment) : Option String :=
  match environment.settingsFile with
  | some path => some path
  | none => environment.settingsDirectory.map fun directory => Path.join directory "config.toml"

end Environment

end TaskQuery

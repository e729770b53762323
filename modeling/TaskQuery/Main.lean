/-
# The program

The run of `TaskQuery.run` on the files of a machine: variables are looked up, files
are read and written, and what the run gives is printed together with its log.
-/

import Std.Time.Format
import TaskQuery.Command.Run

namespace TaskQuery

/-- What went wrong with a file. -/
def IoFault.ofError : IO.Error → IoFault
  | .noFileOrDirectory .. => .notFound
  | .alreadyExists .. => .alreadyExists
  | .inappropriateType .. => .isDirectory
  | fault => .other (toString fault)

/-- Does something with a file, and keeps what goes wrong. -/
def IoFault.catching (action : IO α) : IO (Except IoFault α) := do
  try return .ok (← action) catch fault => return .error (.ofError fault)

/-- The date of the day, or the first of the calendar if the clock is outside it. -/
def localToday : IO Date := do
  let now ← Std.Time.PlainDate.now
  return (Date.ofCivil? now.year.toInt now.month.toNat now.day.toNat).getD .first

/-- The machine that the program runs on. -/
def machine : Host IO where
  isThere path := do
    try discard (IO.FS.realPath path); return true catch _ => return false
  read path := IoFault.catching (IO.FS.readFile path)
  makeParents path := IoFault.catching do
    if let some directory := Path.parent? path then IO.FS.createDirAll directory
  write path content := IoFault.catching (IO.FS.writeFile path content)
  today := localToday
  log _ := pure ()

/-- The variables of the run. -/
def readEnvironment : IO Environment := do
  let noColor ← IO.getEnv "NO_COLOR"
  return {
    settingsFile := ← IO.getEnv "TQ_CONFIG"
    tasksFile := ← IO.getEnv "TQ_TASKS"
    settingsHome := ← IO.getEnv "XDG_CONFIG_HOME"
    home := ← IO.getEnv "HOME"
    noColor := noColor.isSome
    noLogColors := noColor.any (!·.isEmpty)
    logDirectives := ← IO.getEnv "RUST_LOG" }

end TaskQuery

open TaskQuery in
/-- Runs the program. -/
def main (words : List String) : IO UInt32 := do
  let (outcome, output) ← runWithLog .usual machine (← readEnvironment) words
  (← IO.getStdout).putStr output.stdout
  (← IO.getStderr).putStr output.stderr
  return outcome.exitStatus.toUInt32

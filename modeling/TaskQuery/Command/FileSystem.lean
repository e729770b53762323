/-
# Files

What a run may do with files, and a file system of which every state is a value. The
operations of a run are handed to it, so the same run works on such a value and on
the files of a machine.

A place in a file system is the list of names that lead to it from the root, which
is a directory. A path is followed from name to name, and everything but its end has
to be a directory. A name has at most 255 bytes, and a path at most 4095.
-/

import TaskQuery.Calendar.Date
import TaskQuery.Command.Log
import TaskQuery.Command.Path
import TaskQuery.Text.Bytes

namespace TaskQuery

/-- Why a file could not be used. -/
inductive IoFault
  | notFound
  | alreadyExists
  | notDirectory
  | isDirectory
  | nameTooLong
  | nulInName
  | other (message : String)
  deriving DecidableEq, Repr

/-- The wording of a fault, with the number by which the system knows it. -/
def IoFault.message : IoFault → String
  | notFound => "No such file or directory (os error 2)"
  | alreadyExists => "File exists (os error 17)"
  | notDirectory => "Not a directory (os error 20)"
  | isDirectory => "Is a directory (os error 21)"
  | nameTooLong => "File name too long (os error 36)"
  | nulInName => "file name contained an unexpected NUL byte"
  | other message => message

/-- What a run asks of the machine that it runs on. -/
structure Host (m : Type → Type) where
  /-- Whether there is something at a path. -/
  isThere : String → m Bool
  /-- The content of the file at a path. -/
  read : String → m (Except IoFault String)
  /-- Makes the directories on the way to a path, where they are missing. -/
  makeParents : String → m (Except IoFault Unit)
  /-- Writes a file, in place of one that is there. -/
  write : String → String → m (Except IoFault Unit)
  /-- The date of the day. -/
  today : m Date
  /-- Hears records of the log, in this order. -/
  log : List LogRecord → m Unit

/-- The same machine with somebody who keeps what is logged. -/
def Host.listening {m : Type → Type} [Monad m] (host : Host m) :
    Host (StateT (List LogRecord) m) where
  isThere path := liftM (host.isThere path)
  read path := liftM (host.read path)
  makeParents path := liftM (host.makeParents path)
  write path content := liftM (host.write path content)
  today := liftM host.today
  log records := modify (· ++ records)

/-- A place, by the names that lead to it from the root. -/
abbrev Place : Type :=
  List String

/-- What is at a place. -/
inductive Entry
  | file (content : String)
  | directory
  deriving DecidableEq, Repr

/-- A state of all files, as seen from a directory. -/
structure FileSystem where
  entry : Place → Option Entry
  workingDirectory : Place

namespace FileSystem

/-- Puts a file or a directory at a place. -/
def put (files : FileSystem) (place : Place) (entry : Entry) : FileSystem :=
  { files with entry := fun other => if other = place then some entry else files.entry other }

/-- The content of the file at a place, if there is one. -/
def content? (files : FileSystem) (place : Place) : Option String :=
  match files.entry place with
  | some (.file content) => some content
  | _ => none

/-- The place that a name leads to. -/
def next (place : Place) (name : String) : Place :=
  if name = ".." then place.dropLast else place ++ [name]

/-- How many bytes a name has at most. -/
def nameLimit : Nat := 255

/-- How many bytes a path has at most. -/
def pathLimit : Nat := 4095

/-- Whether a text has more bytes than a limit. -/
def exceeds (text : String) (limit : Nat) : Bool :=
  limit < Text.byteLength text.toList

/-- What is wrong with a path before it is followed. -/
def checkPath (path : String) : Except IoFault Unit :=
  if path.isEmpty then .error .notFound
  else if path.toList.contains '\x00' then .error .nulInName
  else if exceeds path pathLimit then .error .nameTooLong
  else .ok ()

/-- What a name stands for in a directory. -/
def lookUp (files : FileSystem) (place : Place) (name : String) :
    Except IoFault (Option Entry) :=
  if exceeds name nameLimit then .error .nameTooLong else .ok (files.entry (next place name))

/-- The directory that names lead to. -/
def follow (files : FileSystem) : Place → List String → Except IoFault Place
  | place, [] => .ok place
  | place, name :: names => do
      match ← files.lookUp place name with
      | some .directory => files.follow (next place name) names
      | some (.file _) => throw .notDirectory
      | none => throw .notFound

/-- The place where the names of a path start. -/
def startOf (files : FileSystem) (path : String) : Place :=
  if Path.isAbsolute path then [] else files.workingDirectory

/-- The directory that a path leads through, and the last name of the path, unless the
path leads to that directory. -/
def locate (files : FileSystem) (path : String) : Except IoFault (Place × Option String) := do
  checkPath path
  let (names, last) := Path.split path
  return (← files.follow (files.startOf path) names, last)

/-- The content of the file at a path. -/
def read (files : FileSystem) (path : String) : Except IoFault String := do
  match ← files.locate path with
  | (_, none) => throw .isDirectory
  | (place, some name) =>
      match ← files.lookUp place name with
      | some (.file content) =>
          if Path.endsInSlash path then throw .notDirectory else return content
      | some .directory => throw .isDirectory
      | none => throw .notFound

/-- Whether there is something at a path. -/
def isThere (files : FileSystem) (path : String) : Bool :=
  match files.read path with
  | .ok _ => true
  | .error fault => fault == .isDirectory

/-- The place where a file is written, if it can be. What has a slash at its end is taken
for a directory whatever is there. -/
def placeToWrite (files : FileSystem) (path : String) : Except IoFault Place := do
  match ← files.locate path with
  | (_, none) => throw .isDirectory
  | (place, some name) =>
      if Path.endsInSlash path then throw .isDirectory
      else
        match ← files.lookUp place name with
        | some .directory => throw .isDirectory
        | _ => return next place name

/-- Writes a file. -/
def write (files : FileSystem) (path content : String) : Except IoFault Unit × FileSystem :=
  match files.placeToWrite path with
  | .ok place => (.ok (), files.put place (.file content))
  | .error fault => (.error fault, files)

/-- Makes the directories that names lead through, where they are missing. -/
def makeDirectories (files : FileSystem) :
    Place → List String → Except IoFault Unit × FileSystem
  | _, [] => (.ok (), files)
  | place, name :: names =>
      match files.lookUp place name with
      | .ok (some .directory) => files.makeDirectories (next place name) names
      | .ok (some (.file _)) =>
          (.error (if names.isEmpty then .alreadyExists else .notDirectory), files)
      | .ok none => (files.put (next place name) .directory).makeDirectories (next place name) names
      | .error fault => (.error fault, files)

/-- Makes the directories on the way to a path. -/
def makeParents (files : FileSystem) (path : String) : Except IoFault Unit × FileSystem :=
  let directory := Path.above path
  if directory.toList.contains '\x00' then (.error .nulInName, files)
  else if exceeds directory pathLimit then (.error .nameTooLong, files)
  else files.makeDirectories (files.startOf path) (Path.names path).dropLast

/-- A machine whose files are a value, on a given day. Nobody listens to its log. -/
def host (today : Date) : Host (StateM FileSystem) where
  isThere path := fun files => (files.isThere path, files)
  read path := fun files => (files.read path, files)
  makeParents path := fun files => files.makeParents path
  write path content := fun files => files.write path content
  today := fun files => (today, files)
  log _ := fun files => ((), files)

end FileSystem

end TaskQuery

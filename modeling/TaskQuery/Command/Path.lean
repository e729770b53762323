/-
# File paths

A path is a text of names with slashes between them. Empty names and single points
lead nowhere, and two points lead one level up.
-/

namespace TaskQuery.Path

/-- Whether a path starts at the root. -/
def isAbsolute (path : String) : Bool :=
  path.toList.head? == some '/'

/-- Whether a part of a path leads nowhere. -/
def isIdle (part : String) : Bool :=
  part.isEmpty || part == "."

/-- The parts of a path between its slashes. -/
def parts (path : String) : List String :=
  (path.toList.splitOn '/').map String.ofList

/-- The names that a path leads through. -/
def names (path : String) : List String :=
  (parts path).filter fun part => !isIdle part

/-- Whether a path has a slash at its end. -/
def endsInSlash (path : String) : Bool :=
  path.toList.getLast? == some '/'

/-- The names that a path leads through, and the last one apart unless it is points,
which lead to a directory. -/
def split (path : String) : List String × Option String :=
  let kept := (parts path).reverse.dropWhile String.isEmpty
  match kept with
  | [] => ([], none)
  | last :: before =>
      if last = "." ∨ last = ".." then (names path, none)
      else (before.reverse.filter fun part => !isIdle part, some last)

/-- The path of the directory that a path lies in, as it is written. -/
def above (path : String) : String :=
  let kept := (parts path).reverse.dropWhile isIdle
  "/".intercalate ((kept.drop 1).dropWhile isIdle).reverse

/-- A path seen from another one. An absolute path stays as it is. -/
def join (base path : String) : String :=
  if isAbsolute path then path
  else if base.isEmpty || base.toList.getLast? == some '/' then base ++ path
  else base ++ "/" ++ path

/-- The directory of a path, unless it is the one where the path starts. -/
def parent? (path : String) : Option String :=
  let above := (names path).dropLast
  if above.isEmpty then none
  else some ((if isAbsolute path then "/" else "") ++ "/".intercalate above)

/-- A path in which a tilde as first name stands for a home directory. -/
def expandHome (home : Option String) (path : String) : String :=
  match home, parts path with
  | some home, "~" :: rest =>
      let trimmed := ((rest.dropWhile isIdle).reverse.dropWhile isIdle).reverse
      join home ("/".intercalate trimmed)
  | _, _ => path

end TaskQuery.Path

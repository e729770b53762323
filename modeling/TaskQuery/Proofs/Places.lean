/-
# Places that paths lead to

A path is followed name by name, and the names alone say where it leads. What the state of
the files adds is whether the way can be gone. So every operation on a path that succeeds is
about the same place, and the operations differ in what they ask of the way: reading and
writing need directories all along, and making directories fills the gaps.

Making directories fills gaps only. It never touches a file, and where the way could be gone
before, it changes nothing. That is why a path that is written after its directories were
made can lead to another file than the one that was looked for before: points in it may lead
back out of a directory that was missing.

In a tree, where nothing stands in a missing directory, this cannot happen to a path without
such points.
-/

import Mathlib.Data.List.Induction
import Mathlib.Data.List.TakeWhile
import TaskQuery.Command.FileSystem

namespace TaskQuery

/-- Steps in a row succeed if each of them does. -/
theorem except_bind_eq_ok_iff {fault first second : Type} {step : Except fault first}
    {next : first → Except fault second} {result : second} :
    (step >>= next) = .ok result ↔ ∃ value, step = .ok value ∧ next value = .ok result := by
  cases step <;> simp [bind, Except.bind]

/-! ## The names of a path -/

namespace Path

/-- A path that ends in a name leads through the names before it and then by that name. -/
theorem names_of_split {path name : String} {before : List String}
    (splits : split path = (before, some name)) : names path = before ++ [name] ∧ name ≠ ".." := by
  rw [split] at splits
  have blanks : ∀ part ∈ (parts path).reverse.takeWhile String.isEmpty, part.isEmpty = true :=
    fun part member => List.mem_takeWhile_imp member
  have whole := List.takeWhile_append_dropWhile (p := String.isEmpty) (l := (parts path).reverse)
  cases kept : (parts path).reverse.dropWhile String.isEmpty with
  | nil => simp [kept] at splits
  | cons last earlier =>
      rw [kept] at splits whole
      have lastIsNone : last.isEmpty = false := by
        have first := List.head?_dropWhile_not String.isEmpty (parts path).reverse
        simpa [kept] using first
      by_cases points : last = "." ∨ last = ".."
      · simp [points] at splits
      · simp only [points, if_false, Prod.mk.injEq, Option.some.injEq] at splits
        obtain ⟨rfl, rfl⟩ := splits
        obtain ⟨notOne, notTwo⟩ := not_or.mp points
        refine ⟨?_, notTwo⟩
        have straight : parts path = earlier.reverse ++ [last] ++
            ((parts path).reverse.takeWhile String.isEmpty).reverse := by
          have turned := congrArg List.reverse whole
          simpa using turned.symm
        have noneLeft : ((parts path).reverse.takeWhile String.isEmpty).reverse.filter
            (fun part => !isIdle part) = [] := by
          rw [List.filter_eq_nil_iff]
          intro part member
          simp [isIdle, blanks part (List.mem_reverse.mp member)]
        rw [names, straight, List.filter_append, List.filter_append, noneLeft, List.append_nil]
        simp [isIdle, lastIsNone, notOne]

/-- The names that have to be directories come first among the names of a path. -/
theorem exists_names_eq_append (path : String) : ∃ rest, names path = (split path).1 ++ rest := by
  rcases splits : split path with ⟨before, name | name⟩
  · rw [split] at splits
    split at splits
    · obtain ⟨rfl, -⟩ := Prod.mk.inj splits
      exact ⟨names path, rfl⟩
    · split at splits
      · obtain ⟨rfl, -⟩ := Prod.mk.inj splits
        exact ⟨[], (List.append_nil _).symm⟩
      · cases splits
  · exact ⟨[name], (names_of_split splits).1⟩

end Path

namespace FileSystem

variable {files : FileSystem} {place directory : Place} {path name : String}
  {before : List String}

/-! ## What is put at a place -/

@[simp]
theorem workingDirectory_put (files : FileSystem) (place : Place) (entry : Entry) :
    (files.put place entry).workingDirectory = files.workingDirectory := rfl

@[simp]
theorem entry_put_self (files : FileSystem) (place : Place) (entry : Entry) :
    (files.put place entry).entry place = some entry :=
  if_pos rfl

theorem entry_put_of_ne {place other : Place} (files : FileSystem) (entry : Entry)
    (differ : other ≠ place) : (files.put place entry).entry other = files.entry other :=
  if_neg differ

@[simp]
theorem content?_put_self (files : FileSystem) (place : Place) (content : String) :
    (files.put place (.file content)).content? place = some content := by
  rw [content?, entry_put_self]

theorem content?_put_of_ne {place other : Place} (files : FileSystem) (entry : Entry)
    (differ : other ≠ place) : (files.put place entry).content? other = files.content? other := by
  rw [content?, entry_put_of_ne files entry differ, content?]

theorem content?_eq_some_iff {content : String} :
    files.content? place = some content ↔ files.entry place = some (.file content) := by
  rw [content?]
  split <;> simp_all

/-! ## Following names -/

/-- The place that a path leads to, by its names alone. -/
def placeOf (files : FileSystem) (path : String) : Place :=
  (Path.names path).foldl next (files.startOf path)

theorem placeOf_of_split (splits : Path.split path = (before, some name)) :
    files.placeOf path = next (before.foldl next (files.startOf path)) name := by
  rw [placeOf, (Path.names_of_split splits).1, List.foldl_append]
  rfl

/-- A directory on the way of a path is missing. -/
def LacksDirectory (files : FileSystem) (path : String) : Prop :=
  files.follow (files.startOf path) (Path.split path).1 = .error .notFound

/-- Names that do not lead up lead further down. -/
theorem foldl_next_of_forall_ne {names : List String} (noneUp : ∀ name ∈ names, name ≠ "..") :
    names.foldl next place = place ++ names := by
  induction names generalizing place with
  | nil => exact (List.append_nil place).symm
  | cons name names ih =>
      obtain ⟨notThis, notThose⟩ := List.forall_mem_cons.mp noneUp
      rw [List.foldl_cons, next, if_neg notThis, ih notThose, ← List.append_cons]

theorem follow_cons_eq_ok_iff {names : List String} {target : Place} :
    files.follow place (name :: names) = .ok target ↔
      files.lookUp place name = .ok (some .directory) ∧
        files.follow (next place name) names = .ok target := by
  rw [follow, except_bind_eq_ok_iff]
  constructor
  · rintro ⟨found, isFound, rest⟩
    match found with
    | some .directory => exact ⟨isFound, rest⟩
    | some (.file _) => cases rest
    | none => cases rest
  · rintro ⟨isFound, rest⟩
    exact ⟨_, isFound, rest⟩

theorem lookUp_eq_ok_iff {found : Option Entry} :
    files.lookUp place name = .ok found ↔
      exceeds name nameLimit = false ∧ files.entry (next place name) = found := by
  rw [lookUp]
  split <;> simp_all

/-- Names that can be followed lead where they lead by themselves. -/
theorem eq_foldl_of_follow {names : List String} {target : Place}
    (follows : files.follow place names = .ok target) : target = names.foldl next place := by
  induction names generalizing place with
  | nil => exact (Except.ok.inj follows).symm
  | cons name names ih => exact ih (follow_cons_eq_ok_iff.mp follows).2

/-- Names that can be followed lead from a directory to a directory. -/
theorem entry_of_follow {names : List String} {target : Place}
    (start : files.entry place = some .directory)
    (follows : files.follow place names = .ok target) : files.entry target = some .directory := by
  induction names generalizing place with
  | nil => exact Except.ok.inj follows ▸ start
  | cons name names ih =>
      obtain ⟨found, rest⟩ := follow_cons_eq_ok_iff.mp follows
      exact ih (lookUp_eq_ok_iff.mp found).2 rest

/-- Names lead through directories, so what is put in place of anything else is not on
their way. -/
theorem follow_put {names : List String} {target other : Place} (entry : Entry)
    (follows : files.follow place names = .ok target)
    (aside : files.entry other ≠ some .directory) :
    (files.put other entry).follow place names = .ok target := by
  induction names generalizing place with
  | nil => exact follows
  | cons name names ih =>
      obtain ⟨found, rest⟩ := follow_cons_eq_ok_iff.mp follows
      obtain ⟨short, isDirectory⟩ := lookUp_eq_ok_iff.mp found
      have differ : next place name ≠ other := by
        rintro rfl
        exact aside isDirectory
      refine follow_cons_eq_ok_iff.mpr ⟨lookUp_eq_ok_iff.mpr ⟨short, ?_⟩, ih rest⟩
      rw [entry_put_of_ne files entry differ, isDirectory]

/-! ## Reading and writing at the end of the way -/

theorem locate_eq_ok_some_iff :
    files.locate path = .ok (directory, some name) ↔
      checkPath path = .ok () ∧ ∃ before, Path.split path = (before, some name) ∧
        files.follow (files.startOf path) before = .ok directory := by
  rw [locate, except_bind_eq_ok_iff]
  constructor
  · rintro ⟨⟨⟩, checked, rest⟩
    obtain ⟨target, follows, same⟩ := except_bind_eq_ok_iff.mp rest
    obtain ⟨rfl, ends⟩ := Prod.mk.inj (Except.ok.inj same)
    exact ⟨checked, _, Prod.ext rfl ends, follows⟩
  · rintro ⟨checked, before, splits, follows⟩
    refine ⟨(), checked, ?_⟩
    rw [splits]
    exact except_bind_eq_ok_iff.mpr ⟨directory, follows, rfl⟩

theorem read_eq_ok_iff {content : String} :
    files.read path = .ok content ↔
      ∃ directory name, files.locate path = .ok (directory, some name) ∧
        Path.endsInSlash path = false ∧
        files.lookUp directory name = .ok (some (.file content)) := by
  rw [read, except_bind_eq_ok_iff]
  constructor
  · rintro ⟨⟨directory, last⟩, located, rest⟩
    match last with
    | none => cases rest
    | some name =>
        obtain ⟨found, isFound, rest⟩ := except_bind_eq_ok_iff.mp rest
        match found with
        | none => cases rest
        | some .directory => cases rest
        | some (.file _) =>
            dsimp only at rest
            split at rest
            · cases rest
            · rename_i noSlash
              obtain rfl := Except.ok.inj rest
              exact ⟨directory, name, located, by simpa using noSlash, isFound⟩
  · rintro ⟨directory, name, located, noSlash, isFound⟩
    refine ⟨_, located, except_bind_eq_ok_iff.mpr ⟨_, isFound, ?_⟩⟩
    rw [noSlash]
    rfl

theorem placeToWrite_eq_ok_iff :
    files.placeToWrite path = .ok place ↔
      ∃ directory name, files.locate path = .ok (directory, some name) ∧
        Path.endsInSlash path = false ∧ place = next directory name ∧
        exceeds name nameLimit = false ∧ files.entry place ≠ some .directory := by
  rw [placeToWrite, except_bind_eq_ok_iff]
  constructor
  · rintro ⟨⟨directory, last⟩, located, rest⟩
    match last with
    | none => cases rest
    | some name =>
        dsimp only at rest
        split at rest
        · cases rest
        · rename_i noSlash
          obtain ⟨found, isFound, rest⟩ := except_bind_eq_ok_iff.mp rest
          obtain ⟨short, isEntry⟩ := lookUp_eq_ok_iff.mp isFound
          split at rest
          · cases rest
          · rename_i noDirectory
            obtain rfl := Except.ok.inj rest
            exact ⟨directory, name, located, by simpa using noSlash, rfl, short,
              fun isDirectory => noDirectory (isEntry.symm.trans isDirectory)⟩
  · rintro ⟨directory, name, located, noSlash, rfl, short, noDirectory⟩
    refine ⟨_, located, ?_⟩
    dsimp only
    rw [if_neg (by simp [noSlash])]
    refine except_bind_eq_ok_iff.mpr ⟨_, lookUp_eq_ok_iff.mpr ⟨short, rfl⟩, ?_⟩
    split
    · rename_i isDirectory
      exact absurd isDirectory noDirectory
    · rfl

/-- A file is written where its path leads to. -/
theorem eq_placeOf_of_placeToWrite (writable : files.placeToWrite path = .ok place) :
    place = files.placeOf path := by
  obtain ⟨directory, name, located, -, rfl, -⟩ := placeToWrite_eq_ok_iff.mp writable
  obtain ⟨-, before, splits, follows⟩ := locate_eq_ok_some_iff.mp located
  rw [placeOf_of_split splits, ← eq_foldl_of_follow follows]

/-- What was written is read. -/
theorem read_put_of_placeToWrite (writable : files.placeToWrite path = .ok place)
    (content : String) : (files.put place (.file content)).read path = .ok content := by
  obtain ⟨directory, name, located, noSlash, rfl, short, noDirectory⟩ :=
    placeToWrite_eq_ok_iff.mp writable
  obtain ⟨checked, before, splits, follows⟩ := locate_eq_ok_some_iff.mp located
  have stillFollows := follow_put (.file content) follows noDirectory
  have stillLocated := locate_eq_ok_some_iff.mpr ⟨checked, before, splits, stillFollows⟩
  exact read_eq_ok_iff.mpr ⟨directory, name, stillLocated, noSlash,
    lookUp_eq_ok_iff.mpr ⟨short, entry_put_self ..⟩⟩

/-- There is something at a path whose file can be read. -/
theorem isThere_of_read {content : String} (reads : files.read path = .ok content) :
    files.isThere path = true := by
  rw [isThere, reads]

/-- A file that could be written over is there, if its way could be gone. -/
theorem isThere_of_placeToWrite (writable : files.placeToWrite path = .ok place)
    (isFile : files.content? place ≠ none) : files.isThere path = true := by
  obtain ⟨content, holds⟩ := Option.ne_none_iff_exists'.mp isFile
  obtain ⟨directory, name, located, noSlash, rfl, short, -⟩ := placeToWrite_eq_ok_iff.mp writable
  exact isThere_of_read (read_eq_ok_iff.mpr ⟨directory, name, located, noSlash,
    lookUp_eq_ok_iff.mpr ⟨short, content?_eq_some_iff.mp holds⟩⟩)

/-! ## Making directories -/

@[simp]
theorem workingDirectory_makeDirectories (files : FileSystem) (place : Place)
    (names : List String) :
    (files.makeDirectories place names).2.workingDirectory = files.workingDirectory := by
  fun_induction makeDirectories files place names with
  | case1 => rfl
  | case2 _ _ _ _ _ ih => exact ih
  | case3 => rfl
  | case4 files place name names _ ih => exact ih
  | case5 => rfl

/-- Directories are made only where nothing was. -/
theorem entry_makeDirectories (files : FileSystem) (place : Place) (names : List String)
    (other : Place) :
    (files.makeDirectories place names).2.entry other = files.entry other ∨
      files.entry other = none ∧
        (files.makeDirectories place names).2.entry other = some .directory := by
  fun_induction makeDirectories files place names with
  | case1 => exact Or.inl rfl
  | case2 _ _ _ _ _ ih => exact ih
  | case3 => exact Or.inl rfl
  | case4 files place name names nothing ih =>
      have free := (lookUp_eq_ok_iff.mp nothing).2
      by_cases same : other = next place name
      · subst same
        rw [entry_put_self] at ih
        have made := ih.resolve_right (fun none => by simp at none)
        exact Or.inr ⟨free, made⟩
      · rwa [entry_put_of_ne _ _ same] at ih
  | case5 => exact Or.inl rfl

/-- Where names can be followed, no directory is missing. -/
theorem makeDirectories_of_follow {names : List String} {target : Place}
    (follows : files.follow place names = .ok target) :
    files.makeDirectories place names = (.ok (), files) := by
  induction names generalizing place with
  | nil => rfl
  | cons name names ih =>
      obtain ⟨isFound, rest⟩ := follow_cons_eq_ok_iff.mp follows
      rw [makeDirectories, isFound]
      exact ih rest

/-- If directories can be made along names, then either the names can be followed as it is,
or a directory is missing and nothing worse. -/
theorem follow_of_makeDirectories {names : List String}
    (made : (files.makeDirectories place names).1 = .ok ()) :
    (∃ target, files.follow place names = .ok target) ∨
      files.follow place names = .error .notFound := by
  induction names generalizing place with
  | nil => exact Or.inl ⟨place, rfl⟩
  | cons name names ih =>
      rw [makeDirectories] at made
      rw [follow]
      split at made
      · rename_i isFound
        rw [isFound]
        exact ih made
      · cases made
      · rename_i nothing
        rw [nothing]
        exact Or.inr rfl
      · cases made

theorem content?_makeDirectories (files : FileSystem) (place : Place) (names : List String) :
    (files.makeDirectories place names).2.content? = files.content? := by
  funext other
  rw [content?, content?]
  rcases entry_makeDirectories files place names other with same | ⟨free, made⟩
  · rw [same]
  · rw [free, made]

/-- What making the directories of a path comes to: nothing at all, or making them along the
names in front of the last one. -/
theorem makeParents_cases (files : FileSystem) (path : String) :
    (∃ fault, files.makeParents path = (.error fault, files)) ∨
      files.makeParents path =
        files.makeDirectories (files.startOf path) (Path.names path).dropLast := by
  rw [makeParents]
  split
  · exact Or.inl ⟨_, rfl⟩
  · split
    · exact Or.inl ⟨_, rfl⟩
    · exact Or.inr rfl

@[simp]
theorem workingDirectory_makeParents (files : FileSystem) (path : String) :
    (files.makeParents path).2.workingDirectory = files.workingDirectory := by
  rcases makeParents_cases files path with ⟨fault, same⟩ | same
  · rw [same]
  · rw [same, workingDirectory_makeDirectories]

theorem content?_makeParents (files : FileSystem) (path : String) :
    (files.makeParents path).2.content? = files.content? := by
  rcases makeParents_cases files path with ⟨fault, same⟩ | same
  · rw [same]
  · rw [same, content?_makeDirectories]

theorem placeOf_congr {others : FileSystem} (path : String)
    (same : others.workingDirectory = files.workingDirectory) :
    others.placeOf path = files.placeOf path := by
  rw [placeOf, placeOf, startOf, startOf, same]

/-- If a file can be written after the directories of its path were made, and it was not
seen there before, then one of them was missing. -/
theorem lacksDirectory_of_makeParents (made : (files.makeParents path).1 = .ok ())
    (writable : (files.makeParents path).2.placeToWrite path = .ok place)
    (isFile : files.content? place ≠ none) (unseen : files.isThere path = false) :
    files.LacksDirectory path := by
  obtain ⟨directory, name, located, -⟩ := placeToWrite_eq_ok_iff.mp writable
  obtain ⟨-, before, splits, -⟩ := locate_eq_ok_some_iff.mp located
  have front : (Path.names path).dropLast = before := by
    rw [(Path.names_of_split splits).1, List.dropLast_concat]
  have isMaking : files.makeParents path = files.makeDirectories (files.startOf path) before := by
    rcases makeParents_cases files path with ⟨fault, same⟩ | same
    · rw [same] at made
      cases made
    · rw [same, front]
  rw [isMaking] at made
  rcases follow_of_makeDirectories made with ⟨target, follows⟩ | missing
  · -- nothing was missing, so the file was there to be seen
    rw [isMaking, makeDirectories_of_follow follows] at writable
    rw [isThere_of_placeToWrite writable isFile] at unseen
    cases unseen
  · rwa [LacksDirectory, splits]

/-! ## Trees -/

/-- Everything stands in a directory, up to the root. -/
structure IsTree (files : FileSystem) : Prop where
  root : files.entry [] = some .directory
  above : ∀ place name, files.entry (place ++ [name]) ≠ none →
    files.entry place = some .directory
  working : files.entry files.workingDirectory = some .directory

namespace IsTree

/-- A tree grows by what is put into one of its directories, in place of nothing or of a
file. -/
theorem put (tree : files.IsTree) (entry : Entry) (inside : files.entry place = some .directory)
    (noDirectory : files.entry (place ++ [name]) ≠ some .directory) :
    (files.put (place ++ [name]) entry).IsTree := by
  have kept {other : Place} (isDirectory : files.entry other = some .directory) :
      (files.put (place ++ [name]) entry).entry other = some .directory := by
    rw [entry_put_of_ne _ _ (by rintro rfl; exact noDirectory isDirectory), isDirectory]
  refine ⟨kept tree.root, fun above last present => ?_, kept tree.working⟩
  by_cases same : above ++ [last] = place ++ [name]
  · obtain ⟨rfl, -⟩ := List.append_inj' same rfl
    exact kept inside
  · rw [entry_put_of_ne _ _ same] at present
    exact kept (tree.above above last present)

/-- One level up from a directory there is a directory. -/
theorem dropLast (tree : files.IsTree) (isDirectory : files.entry place = some .directory) :
    files.entry place.dropLast = some .directory := by
  rcases List.eq_nil_or_concat place with rfl | ⟨above, last, rfl⟩
  · exact isDirectory
  · rw [List.concat_eq_append] at isDirectory ⊢
    rw [List.dropLast_concat]
    exact tree.above above last (by rw [isDirectory]; exact Option.some_ne_none _)

theorem startOf (tree : files.IsTree) (path : String) :
    files.entry (files.startOf path) = some .directory := by
  rw [FileSystem.startOf]
  split
  · exact tree.root
  · exact tree.working

theorem makeDirectories (tree : files.IsTree) (inside : files.entry place = some .directory)
    (names : List String) : (files.makeDirectories place names).2.IsTree := by
  fun_induction FileSystem.makeDirectories files place names with
  | case1 => exact tree
  | case2 _ _ _ _ isFound ih => exact ih tree (lookUp_eq_ok_iff.mp isFound).2
  | case3 => exact tree
  | case4 files place name names nothing ih =>
      have free := (lookUp_eq_ok_iff.mp nothing).2
      refine ih ?_ (entry_put_self ..)
      rw [next] at free ⊢
      split at free
      · -- two points lead to a directory that is there
        rw [tree.dropLast inside] at free
        cases free
      · rename_i noPoints
        rw [if_neg noPoints]
        exact tree.put .directory inside (by rw [free]; simp)
  | case5 => exact tree

theorem makeParents (tree : files.IsTree) (path : String) :
    (files.makeParents path).2.IsTree := by
  rcases makeParents_cases files path with ⟨fault, same⟩ | same
  · rwa [same]
  · rw [same]
    exact tree.makeDirectories (tree.startOf path) _

theorem put_of_placeToWrite (tree : files.IsTree)
    (writable : files.placeToWrite path = .ok place) (content : String) :
    (files.put place (.file content)).IsTree := by
  obtain ⟨directory, name, located, -, rfl, -, noDirectory⟩ := placeToWrite_eq_ok_iff.mp writable
  obtain ⟨-, before, splits, follows⟩ := locate_eq_ok_some_iff.mp located
  have noPoints := (Path.names_of_split splits).2
  rw [next, if_neg noPoints] at noDirectory ⊢
  exact tree.put _ (entry_of_follow (tree.startOf path) follows) noDirectory

/-- Something is at every place on the way to something. -/
theorem front (tree : files.IsTree) {names : List String}
    (present : files.entry (place ++ names) ≠ none) : files.entry place ≠ none := by
  induction names using List.reverseRecOn with
  | nil => simpa using present
  | append_singleton names name ih =>
      rw [← List.append_assoc] at present
      exact ih (by rw [tree.above _ name present]; exact Option.some_ne_none _)

/-- On the way to something no directory is missing, unless the way leads up again. -/
theorem follow_ne_notFound (tree : files.IsTree) {names : List String}
    (noPoints : ".." ∉ names) (present : files.entry (place ++ names) ≠ none) :
    files.follow place names ≠ .error .notFound := by
  induction names generalizing place with
  | nil => exact fun failed => by cases failed
  | cons name names ih =>
      obtain ⟨notThis, notThose⟩ := not_or.mp (mt List.mem_cons.mpr noPoints)
      have leads : next place name = place ++ [name] := if_neg (Ne.symm notThis)
      rw [List.append_cons] at present
      have isHere : files.entry (next place name) ≠ none := leads ▸ tree.front present
      have later := ih notThose present
      rw [← leads] at later
      intro failed
      rw [FileSystem.follow, lookUp] at failed
      split at failed
      · cases failed
      · match found : files.entry (next place name) with
        | none => exact isHere found
        | some .directory =>
            rw [found] at failed
            exact later failed
        | some (.file _) =>
            rw [found] at failed
            cases failed

/-- A path whose names do not lead up again leads to a file by way of directories that are
there. -/
theorem not_lacksDirectory (tree : files.IsTree) (noPoints : ".." ∉ Path.names path)
    (isFile : files.content? (files.placeOf path) ≠ none) : ¬ files.LacksDirectory path := by
  obtain ⟨rest, isNames⟩ := Path.exists_names_eq_append path
  have leads : files.placeOf path = files.startOf path ++ Path.names path :=
    foldl_next_of_forall_ne fun _ member isUp => noPoints (isUp ▸ member)
  have present : files.entry (files.placeOf path) ≠ none := by
    intro nothing
    rw [content?, nothing] at isFile
    exact isFile rfl
  rw [leads, isNames, ← List.append_assoc] at present
  exact tree.follow_ne_notFound
    (fun member => noPoints (isNames ▸ List.mem_append_left rest member)) (tree.front present)

end IsTree

end FileSystem

end TaskQuery

/-
# Plain arguments

The arguments of a run hand over three texts: the path of a task file, an operand, and
the value of an option that still waits to be looked at. Each of them is a word or a part of
one, so what is read from plain words is plain.
-/

import TaskQuery.Command.Arguments
import TaskQuery.Proofs.PlainScans
import TaskQuery.Proofs.PlainText

namespace TaskQuery

/-! ## Levels -/

/-- What waits to be looked at is plain. -/
def Waiting.IsPlain : Waiting → Prop
  | value _ text | operand text => TaskQuery.IsPlain text
  | _ => True

/-- The texts that were given on a level are plain. -/
structure Level.IsPlain (level : Level) : Prop where
  file : PlainIfGiven level.file
  operand : PlainIfGiven level.operand
  waiting : level.waiting.IsPlain

namespace Level.IsPlain

variable {level : Level} {text : String} (command : CommandName)

theorem empty : ({} : Level).IsPlain :=
  ⟨plainIfGiven_none, plainIfGiven_none, trivial⟩

theorem giveOnce {current : Option String} {value : Except Usage String}
    (isValue : Gives TaskQuery.IsPlain value) :
    Gives PlainIfGiven (Level.giveOnce current value) := by
  exact .ite (.error trivial) (isValue.map fun text => plainIfGiven_some)

theorem give (plain : level.IsPlain) (parameter : Parameter) (isText : TaskQuery.IsPlain text) :
    Gives Level.IsPlain (level.give parameter text) := by
  cases parameter with
  | file =>
      have isValue : Gives TaskQuery.IsPlain
          (if text.isEmpty then .error .unsuitableValue else .ok text : Except Usage String) :=
        .ite (.error trivial) (.ok isText)
      exact (giveOnce isValue).bind fun file isFile => .ok ⟨isFile, plain.operand, plain.waiting⟩
  | limit =>
      exact (gives_true _).next fun limit =>
        .ok ⟨plain.file, plain.operand, plain.waiting⟩
  | today =>
      exact (gives_true _).next fun today =>
        .ok ⟨plain.file, plain.operand, plain.waiting⟩

theorem settle (plain : level.IsPlain) : Gives Level.IsPlain (level.settle command) := by
  have settled : Level.IsPlain { level with waiting := .nothing } :=
    ⟨plain.file, plain.operand, trivial⟩
  have isWaiting := plain.waiting
  rw [Level.settle]
  split
  · exact .ok settled
  · exact .error trivial
  · rename_i waits
    rw [waits] at isWaiting
    exact settled.give _ isWaiting
  · rename_i waits
    rw [waits] at isWaiting
    exact .ite (.ok ⟨plain.file, plainIfGiven_some isWaiting, trivial⟩) (.error trivial)

theorem raise (plain : level.IsPlain) (flag : Flag) :
    Gives Level.IsPlain (level.raise command flag) := by
  refine (plain.settle command).bind fun settled isSettled => ?_
  split
  · exact .error trivial
  · exact .error trivial
  · exact .ite (.error trivial) (.ok ⟨isSettled.file, isSettled.operand, isSettled.waiting⟩)

theorem giveOption (plain : level.IsPlain) (option : CommandOption) {attached : Option String}
    (isAttached : PlainIfGiven attached) :
    Gives Level.IsPlain (level.giveOption command option attached) := by
  rw [Level.giveOption.eq_def]
  split
  · exact plain.raise command _
  · exact .error trivial
  · exact (plain.settle command).bind fun settled isSettled =>
      isSettled.give _ (isAttached _ rfl)
  · exact (plain.settle command).bind fun settled isSettled =>
      .ok ⟨isSettled.file, isSettled.operand, trivial⟩

theorem giveLong (plain : level.IsPlain) {word : List Char} (isWord : '\x1b' ∉ word) :
    Gives Level.IsPlain (level.giveLong command word) := by
  rw [Level.giveLong]
  split
  · refine plain.giveOption command _ ?_
    split
    · exact plainIfGiven_none
    · rename_i value split
      refine plainIfGiven_some (.ofList fun escape => isWord ?_)
      apply (List.dropWhile_sublist (· != '=')).mem
      rw [split]
      exact List.mem_cons_of_mem _ escape
  · exact .error trivial

theorem giveLetters (plain : level.IsPlain) {letters : List Char} (areLetters : '\x1b' ∉ letters) :
    Gives Level.IsPlain (level.giveLetters command letters) := by
  induction letters generalizing level with
  | nil => exact .ok plain
  | cons letter letters ih =>
      have others : '\x1b' ∉ letters := fun escape =>
        areLetters (List.mem_cons_of_mem _ escape)
      rw [Level.giveLetters.eq_def]
      dsimp only
      split
      · exact .error trivial
      · exact (plain.raise command _).bind fun raised isRaised => ih isRaised others
      · refine plain.giveOption command _ ?_
        split
        · exact plainIfGiven_none
        · exact plainIfGiven_some (.ofList fun escape => others (List.mem_cons_of_mem _ escape))
        · exact plainIfGiven_some (.ofList others)

theorem giveOperand (plain : level.IsPlain) (trailing : Bool) {word : String}
    (isWord : TaskQuery.IsPlain word) :
    Gives Level.IsPlain (level.giveOperand command trailing word) := by
  refine .ite ?_ (.ite (.error trivial) (.ite (.error trivial) (.error trivial)))
  exact (plain.settle command).bind fun settled isSettled =>
    .ok ⟨isSettled.file, isSettled.operand, isWord⟩

theorem giveWord (plain : level.IsPlain) {word : String} (isWord : TaskQuery.IsPlain word)
    {given : Except Usage Level} (takes : level.giveWord? command word = some given) :
    Gives Level.IsPlain given := by
  have behind {front : List Char} {rest : List Char} (split : word.toList = front ++ rest) :
      '\x1b' ∉ rest := fun escape => isWord (split ▸ List.mem_append_right front escape)
  rw [Level.giveWord?] at takes
  split at takes
  · rename_i name split
    obtain rfl := Option.some.inj takes
    exact plain.giveLong command (behind (show word.toList = ['-', '-'] ++ name from split))
  · rename_i letter letters _ split
    obtain rfl := Option.some.inj takes
    exact plain.giveLetters command
      (behind (show word.toList = ['-'] ++ letter :: letters from split))
  · split at takes
    · obtain rfl := Option.some.inj takes
      exact .ok ⟨plain.file, plain.operand, isWord⟩
    · cases takes

/-- What a level leaves is the words behind a command, which are plain as well. -/
theorem readWords (plain : level.IsPlain) (trailing : Bool) {words : List String}
    (areWords : ∀ word ∈ words, TaskQuery.IsPlain word) :
    Gives (fun read : Level × Option (CommandName × List String) => read.1.IsPlain ∧
      ∀ next ∈ read.2, ∀ word ∈ next.2, TaskQuery.IsPlain word)
      (level.readWords command trailing words) := by
  induction words generalizing level trailing with
  | nil =>
      rw [Level.readWords]
      exact .ok ⟨plain, by rintro _ ⟨⟩⟩
  | cons word words ih =>
      obtain ⟨isWord, others⟩ := List.forall_mem_cons.mp areWords
      cases trailing with
      | true =>
          rw [Level.readWords]
          exact (plain.giveOperand command true isWord).bind fun given isGiven =>
            ih isGiven true others
      | false =>
          rw [Level.readWords]
          split
          · refine .ok ⟨plain, ?_⟩
            rintro _ ⟨⟩
            exact others
          refine .ite (ih plain true others) ?_
          split
          · rename_i given takes
            exact (plain.giveWord command isWord takes).bind fun read isRead =>
              ih isRead false others
          · exact (plain.giveOperand command false isWord).bind fun given isGiven =>
              ih isGiven false others

theorem finish (plain : level.IsPlain) (tasksFile : Option String) :
    Gives Level.IsPlain (level.finish command tasksFile) := by
  refine (plain.settle command).bind fun settled isSettled => ?_
  exact .ite (.error trivial) (.ite (.error trivial) (.ite (.error trivial) (.ok isSettled)))

end Level.IsPlain

/-! ## All arguments -/

/-- The text of a request is plain. -/
def Request.IsPlain : Request → Prop
  | query request => TaskQuery.IsPlain request.text
  | explain request => TaskQuery.IsPlain request.text
  | _ => True

/-- The texts that arguments hand over are plain. -/
structure Arguments.IsPlain (arguments : Arguments) : Prop where
  file : PlainIfGiven arguments.file
  request : arguments.request.IsPlain

namespace Arguments

theorem levels_givePlain (tasksFile : Option String) (limit : Nat) (command : CommandName)
    {words : List String} (areWords : ∀ word ∈ words, TaskQuery.IsPlain word) :
    Gives (fun levels => ∀ level ∈ levels, level.2.IsPlain)
      (levels tasksFile limit command words) := by
  induction limit generalizing command words with
  | zero => exact .ok (List.forall_mem_nil _)
  | succ limit ih =>
      refine (Level.IsPlain.empty.readWords command false areWords).bind fun read isRead => ?_
      obtain ⟨level, next⟩ := read
      obtain ⟨isLevel, behind⟩ := isRead
      have finishes {inner : List (CommandName × Level)}
          (areInner : ∀ level ∈ inner, level.2.IsPlain) :
          Gives (fun levels => ∀ level ∈ levels, level.2.IsPlain)
            (do return inner ++ [(command, ← level.finish command tasksFile)]) :=
        (isLevel.finish command tasksFile).bind fun level isFinished =>
          .ok (List.forall_mem_append.mpr ⟨areInner, List.forall_mem_singleton.mpr isFinished⟩)
      dsimp only
      split
      · exact finishes (List.forall_mem_nil _)
      · exact .error trivial
      · exact (ih _ (behind _ rfl)).bind fun inner areInner => finishes areInner

theorem requestOf_plain (command : CommandName) {level : Level} (plain : level.IsPlain) :
    (requestOf command level).IsPlain := by
  have isText : TaskQuery.IsPlain (level.operand.getD "") := by
    cases operand : level.operand with
    | none => exact .literal rfl
    | some text => exact plain.operand text operand
  cases command <;> first | exact isText | exact trivial

theorem ofLevels_plain {tasksFile : Option String} (isFile : PlainIfGiven tasksFile)
    {levels : List (CommandName × Level)} (plain : ∀ level ∈ levels, level.2.IsPlain) :
    (ofLevels tasksFile levels).IsPlain where
  file := by
    intro path isPath
    rcases Option.or_eq_some_iff.mp isPath with given | ⟨-, given⟩
    · obtain ⟨level, member, found⟩ := List.exists_of_findSome?_eq_some given
      exact (plain level member).file path found
    · exact isFile path given
  request := by
    cases levels with
    | nil => exact trivial
    | cons level levels => exact requestOf_plain level.1 (plain level List.mem_cons_self)

/-- Arguments that are read from plain words hand over plain texts. -/
theorem isPlain_of_read {tasksFile : Option String} (isFile : PlainIfGiven tasksFile)
    {words : List String} (areWords : ∀ word ∈ words, TaskQuery.IsPlain word)
    {arguments : Arguments} (reads : read tasksFile words = .ok arguments) :
    arguments.IsPlain := by
  have given : Gives IsPlain (read tasksFile words) :=
    (levels_givePlain tasksFile levelLimit .program areWords).bind fun levels areLevels =>
      .ok (ofLevels_plain isFile areLevels)
  exact given.gives reads

end Arguments

end TaskQuery

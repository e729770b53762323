/-
# Scanners

A scanner reads from the front of a text and gives back a value and the text that
is left, or fails. What is left is never longer than what was given; the type says
so, and every scanner put together from these keeps it. That is what lets
`Scan.loop` run a step as often as there are characters and still end.
-/

namespace TaskQuery

/-- What a scanner read from `cs`, with the characters that are left. -/
structure Scanned (α : Type) (cs : List Char) where
  value : α
  rest : List Char
  length_le : rest.length ≤ cs.length

/-- A reader of the front of a text that fails with an `ε`. -/
def Scan (ε α : Type) : Type :=
  (cs : List Char) → Except ε (Scanned α cs)

namespace Scan

variable {ε α β σ : Type}

/-- Reads nothing. -/
protected def pure (value : α) : Scan ε α :=
  fun cs => .ok ⟨value, cs, Nat.le_refl _⟩

/-- Reads with a scanner and then with the one chosen by its value. -/
protected def bind (first : Scan ε α) (second : α → Scan ε β) : Scan ε β :=
  fun cs =>
    match first cs with
    | .error fault => .error fault
    | .ok read =>
        match second read.value read.rest with
        | .error fault => .error fault
        | .ok next => .ok ⟨next.value, next.rest, Nat.le_trans next.length_le read.length_le⟩

instance : Monad (Scan ε) where
  pure := Scan.pure
  bind := Scan.bind

/-- Fails whatever the text. -/
def fail (fault : ε) : Scan ε α :=
  fun _ => .error fault

/-- The outcome of a decision that reads nothing. -/
def decided (outcome : Except ε α) : Scan ε α :=
  fun cs => outcome.map fun value => ⟨value, cs, Nat.le_refl _⟩

/-- The characters that are left. -/
def ahead : Scan ε (List Char) :=
  fun cs => .ok ⟨cs, cs, Nat.le_refl _⟩

/-- The next character, which stays in place. -/
def peek : Scan ε (Option Char) :=
  fun cs => .ok ⟨cs.head?, cs, Nat.le_refl _⟩

/-- Takes the next character. -/
def take : Scan ε (Option Char)
  | [] => .ok ⟨none, [], Nat.le_refl _⟩
  | c :: cs => .ok ⟨some c, cs, Nat.le_succ _⟩

/-- Takes the next character, or fails at the end of the text. -/
def takeOr (fault : ε) : Scan ε Char
  | [] => .error fault
  | c :: cs => .ok ⟨c, cs, Nat.le_succ _⟩

/-- Takes characters as long as they have a property. -/
def takeWhile (p : Char → Bool) : Scan ε (List Char) :=
  fun cs => .ok ⟨cs.takeWhile p, cs.dropWhile p, (List.dropWhile_sublist p).length_le⟩

/-- Takes characters as long as they have a property, and no more than a number of
them. -/
def takeWhileUpTo (count : Nat) (p : Char → Bool) : Scan ε (List Char) :=
  fun cs =>
    let taken := (cs.take count).takeWhile p
    .ok ⟨taken, cs.drop taken.length, by rw [List.length_drop]; exact Nat.sub_le _ _⟩

/-- Takes a word off the front of the text, if it stands there. -/
def accept (word : List Char) : Scan ε Bool :=
  fun cs =>
    if word.isPrefixOf cs then
      .ok ⟨true, cs.drop word.length, by rw [List.length_drop]; exact Nat.sub_le _ _⟩
    else .ok ⟨false, cs, Nat.le_refl _⟩

/-- Reads with a scanner, or reads nothing when it gives no value. -/
def attempt (scanner : Scan ε (Option α)) : Scan ε (Option α) :=
  fun cs =>
    match scanner cs with
    | .ok ⟨some value, rest, length_le⟩ => .ok ⟨some value, rest, length_le⟩
    | .ok _ => .ok ⟨none, cs, Nat.le_refl _⟩
    | .error fault => .error fault

/-- Whether a loop goes on, and with what. -/
inductive Progress (σ α : Type)
  | more (state : σ)
  | done (value : α)

/-- Takes a character and runs a step on it, again and again, until a step is done
or the text ends. -/
def loop (step : σ → Char → Scan ε (Progress σ α)) (atEnd : σ → Except ε α) (state : σ) :
    Scan ε α
  | [] => (atEnd state).map fun value => ⟨value, [], Nat.le_refl _⟩
  | c :: cs =>
      match step state c cs with
      | .error fault => .error fault
      | .ok ⟨.done value, rest, length_le⟩ =>
          .ok ⟨value, rest, Nat.le_trans length_le (Nat.le_succ _)⟩
      | .ok ⟨.more state, rest, length_le⟩ =>
          match loop step atEnd state rest with
          | .error fault => .error fault
          | .ok next =>
              .ok ⟨next.value, next.rest,
                Nat.le_trans next.length_le (Nat.le_trans length_le (Nat.le_succ _))⟩
termination_by cs => cs.length
decreasing_by exact Nat.lt_succ_of_le length_le

/-- Runs a step again and again until it is done. A step that goes on has to take a
character; if it takes none, the scanner fails. -/
def iterate (step : σ → Scan ε (Progress σ α)) (stalled : ε) (state : σ) : Scan ε α :=
  fun cs =>
    match step state cs with
    | .error fault => .error fault
    | .ok ⟨.done value, rest, length_le⟩ => .ok ⟨value, rest, length_le⟩
    | .ok ⟨.more state, rest, length_le⟩ =>
        if rest.length < cs.length then
          match iterate step stalled state rest with
          | .error fault => .error fault
          | .ok next => .ok ⟨next.value, next.rest, Nat.le_trans next.length_le length_le⟩
        else .error stalled
termination_by cs => cs.length

/-- Runs a scanner on a text and gives its value, whatever is left. -/
def run (scanner : Scan ε α) (text : List Char) : Except ε α :=
  (scanner text).map Scanned.value

end Scan

end TaskQuery

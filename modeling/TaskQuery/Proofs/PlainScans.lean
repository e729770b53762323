/-
# Scanners and what they show

A decision ends well or it fails, and both can be said to be harmless: what it gives is good,
and what it fails with shows nothing that it should not. Steps in a row are harmless if each of
them is, where a step may rely on what the steps before it gave.

A scanner runs on a text that it reads from some place on, and it leaves the text from a later
place on. That is all it has to know to fail with characters of the text only. To know what an
escape spells it has to see the characters right before its place as well, so these are a part
of what is said about it.
-/

import Mathlib.Data.List.TakeWhile
import TaskQuery.Text.Scan

namespace TaskQuery

/-- A decision gives something good, or it fails in a harmless way. -/
def EndsWell {ε α : Type} (harmless : ε → Prop) (good : α → Prop) : Except ε α → Prop
  | .ok value => good value
  | .error fault => harmless fault

/-- A decision fails in a harmless way, if it fails. -/
abbrev FailsOnly {ε α : Type} (harmless : ε → Prop) (outcome : Except ε α) : Prop :=
  EndsWell harmless (fun _ => True) outcome

/-- What a decision gives is good, if it gives anything. -/
abbrev Gives {ε α : Type} (good : α → Prop) (outcome : Except ε α) : Prop :=
  EndsWell (fun _ => True) good outcome

namespace EndsWell

variable {ε α β : Type} {harmless : ε → Prop} {good : α → Prop} {fine : β → Prop}

theorem gives {outcome : Except ε α} (ends : EndsWell harmless good outcome) {value : α}
    (isValue : outcome = .ok value) : good value := by
  subst isValue
  exact ends

theorem fails {outcome : Except ε α} (ends : EndsWell harmless good outcome) {fault : ε}
    (isFault : outcome = .error fault) : harmless fault := by
  subst isFault
  exact ends

theorem ok {value : α} (isGood : good value) : EndsWell harmless good (.ok value) :=
  isGood

theorem error {fault : ε} (isHarmless : harmless fault) :
    EndsWell harmless good (.error fault : Except ε α) :=
  isHarmless

theorem pure {value : α} (isGood : good value) :
    EndsWell harmless good (Pure.pure value : Except ε α) :=
  isGood

theorem throw {fault : ε} (isHarmless : harmless fault) :
    EndsWell harmless good (MonadExcept.throw fault : Except ε α) :=
  isHarmless

theorem bind {first : Except ε α} {second : α → Except ε β}
    (isFirst : EndsWell harmless good first)
    (isSecond : ∀ value, good value → EndsWell harmless fine (second value)) :
    EndsWell harmless fine (first >>= second) := by
  cases first with
  | error fault => exact isFirst
  | ok value => exact isSecond value isFirst

/-- The second step does not rely on what the first one gave. -/
theorem next {first : Except ε α} {second : α → Except ε β}
    (isFirst : EndsWell harmless good first)
    (isSecond : ∀ value, EndsWell harmless fine (second value)) :
    EndsWell harmless fine (first >>= second) :=
  isFirst.bind fun value _ => isSecond value

theorem ite {condition : Prop} [Decidable condition] {first second : Except ε α}
    (isFirst : EndsWell harmless good first) (isSecond : EndsWell harmless good second) :
    EndsWell harmless good (if condition then first else second) := by
  split
  · exact isFirst
  · exact isSecond

theorem map {outcome : Except ε α} (ends : EndsWell harmless good outcome) {f : α → β}
    (keeps : ∀ value, good value → fine (f value)) :
    EndsWell harmless fine (outcome.map f) := by
  cases outcome with
  | error fault => exact ends
  | ok value => exact keeps value ends

theorem mono {mild : ε → Prop} {fine : α → Prop} {outcome : Except ε α}
    (ends : EndsWell harmless good outcome) (faults : ∀ fault, harmless fault → mild fault)
    (values : ∀ value, good value → fine value) : EndsWell mild fine outcome := by
  cases outcome with
  | error fault => exact faults fault ends
  | ok value => exact values value ends

end EndsWell

/-- Nothing is said about what a decision gives or fails with. -/
theorem gives_true {ε α : Type} (outcome : Except ε α) : Gives (fun _ => True) outcome := by
  cases outcome <;> trivial

namespace Scan

variable {ε α β σ : Type} {harmless : ε → Prop} {good : α → Prop} {fine : β → Prop}
  {text before : List Char}

/-- What was read is good and the rest is an end of a text, or the failure is harmless. -/
abbrev Leaves (text : List Char) (harmless : ε → Prop) (good : α → Prop) {cs : List Char}
    (outcome : Except ε (Scanned α cs)) : Prop :=
  EndsWell harmless (fun read => good read.value ∧ read.rest <:+ text) outcome

/-- Wherever it starts in a text behind some characters, a scanner reads something good and
leaves an end of the text, or it fails in a harmless way. -/
def Reads (text before : List Char) (harmless : ε → Prop) (good : α → Prop)
    (scanner : Scan ε α) : Prop :=
  ∀ cs, before ++ cs <:+ text → Leaves text harmless good (scanner cs)

theorem suffix_of_append {cs : List Char} (place : before ++ cs <:+ text) : cs <:+ text :=
  (List.suffix_append before cs).trans place

theorem Reads.ends_run {scanner : Scan ε α} (reads : Reads text [] harmless good scanner) :
    EndsWell harmless good (scanner.run text) :=
  (reads text List.suffix_rfl).map fun _ left => left.1

namespace Reads

/-! ## Single scanners -/

theorem pure {value : α} (isGood : good value) :
    Reads text before harmless good (Pure.pure value : Scan ε α) :=
  fun _ place => ⟨isGood, suffix_of_append place⟩

theorem fail {fault : ε} (isHarmless : harmless fault) :
    Reads text before harmless good (fail fault : Scan ε α) :=
  fun _ _ => isHarmless

theorem decided {outcome : Except ε α} (ends : EndsWell harmless good outcome) :
    Reads text before harmless good (decided outcome) :=
  fun _ place => ends.map fun _ isGood => ⟨isGood, suffix_of_append place⟩

theorem ahead : Reads text before harmless (· <:+ text) (ahead : Scan ε (List Char)) :=
  fun _ place => ⟨suffix_of_append place, suffix_of_append place⟩

theorem peek : Reads text before harmless (fun _ => True) (peek : Scan ε (Option Char)) :=
  fun _ place => ⟨trivial, suffix_of_append place⟩

theorem take : Reads text before harmless (fun _ => True) (take : Scan ε (Option Char)) := by
  intro cs place
  cases cs with
  | nil => exact ⟨trivial, suffix_of_append place⟩
  | cons c cs => exact ⟨trivial, (List.suffix_cons c cs).trans (suffix_of_append place)⟩

theorem takeWhile (p : Char → Bool) :
    Reads text before harmless (fun taken => ∀ c ∈ taken, p c = true)
      (takeWhile p : Scan ε (List Char)) :=
  fun _ place => ⟨fun _ => List.mem_takeWhile_imp,
    (List.dropWhile_suffix p).trans (suffix_of_append place)⟩

/-- Characters that are taken stand right behind those in front of the scanner. -/
theorem takeWhileUpTo (count : Nat) (p : Char → Bool) :
    Reads text before harmless (fun taken => before ++ taken <:+: text ∧ ∀ c ∈ taken, p c = true)
      (takeWhileUpTo count p : Scan ε (List Char)) := by
  intro cs place
  have rest := (List.drop_suffix ((cs.take count).takeWhile p).length cs).trans
    (suffix_of_append place)
  refine ⟨⟨?_, fun _ => List.mem_takeWhile_imp⟩, rest⟩
  have taken := (List.takeWhile_prefix p).trans (List.take_prefix count cs)
  exact (List.prefix_append_right_inj before).mpr taken |>.isInfix.trans place.isInfix

theorem accept (word : List Char) :
    Reads text before harmless (fun _ => True) (accept word : Scan ε Bool) := by
  intro cs place
  rw [Scan.accept]
  cases word.isPrefixOf cs with
  | true => exact ⟨trivial, (List.drop_suffix _ _).trans (suffix_of_append place)⟩
  | false => exact ⟨trivial, suffix_of_append place⟩

/-! ## Scanners in a row -/

theorem mono {better : α → Prop} {scanner : Scan ε α}
    (reads : Reads text before harmless better scanner)
    (implies : ∀ value, better value → good value) : Reads text before harmless good scanner :=
  fun cs place => (reads cs place).mono (fun _ => id) fun read left =>
    ⟨implies read.value left.1, left.2⟩

/-- A scanner that may start anywhere may start behind any characters. -/
theorem anywhere {scanner : Scan ε α} (reads : Reads text [] harmless good scanner) :
    Reads text before harmless good scanner :=
  fun cs place => reads cs (suffix_of_append place)

theorem bind {first : Scan ε α} {second : α → Scan ε β}
    (isFirst : Reads text before harmless good first)
    (isSecond : ∀ value, good value → Reads text [] harmless fine (second value)) :
    Reads text before harmless fine (first >>= second) := by
  intro cs place
  have left := isFirst cs place
  show Leaves text harmless fine (Scan.bind first second cs)
  rw [Scan.bind]
  cases reads : first cs with
  | error fault => exact left.fails reads
  | ok read =>
      have ⟨isGood, suffix⟩ := left.gives reads
      have next := isSecond read.value isGood read.rest suffix
      dsimp only
      cases readsNext : second read.value read.rest with
      | error fault => exact next.fails readsNext
      | ok other => exact next.gives readsNext

/-- The second scanner does not rely on what the first one read. -/
theorem next {first : Scan ε α} {second : α → Scan ε β}
    (isFirst : Reads text before harmless good first)
    (isSecond : ∀ value, Reads text [] harmless fine (second value)) :
    Reads text before harmless fine (first >>= second) :=
  isFirst.bind fun value _ => isSecond value

/-- What follows a look at the next character starts at the same place. -/
theorem bind_peek {second : Option Char → Scan ε β}
    (isSecond : ∀ next : Option Char, (∀ c ∈ next, c ∈ text) →
      Reads text before harmless fine (second next)) :
    Reads text before harmless fine (Scan.peek >>= second) := by
  intro cs place
  have inside : ∀ c ∈ cs.head?, c ∈ text := fun c isHead =>
    (suffix_of_append place).subset (List.mem_of_mem_head? isHead)
  have next := isSecond cs.head? inside cs place
  show Leaves text harmless fine (Scan.bind Scan.peek second cs)
  rw [Scan.bind, Scan.peek]
  dsimp only
  cases reads : second cs.head? cs with
  | error fault => exact next.fails reads
  | ok read => exact next.gives reads

/-- What follows a character that was taken starts behind it. -/
theorem bind_takeOr {fault : ε} {second : Char → Scan ε β} (isHarmless : harmless fault)
    (isSecond : ∀ c ∈ text, Reads text (before ++ [c]) harmless fine (second c)) :
    Reads text before harmless fine (Scan.takeOr fault >>= second) := by
  intro cs place
  show Leaves text harmless fine (Scan.bind (Scan.takeOr fault) second cs)
  rw [Scan.bind]
  cases cs with
  | nil => exact isHarmless
  | cons c cs =>
      have inside : c ∈ text := (suffix_of_append place).subset List.mem_cons_self
      have next := isSecond c inside cs (by rwa [List.append_assoc])
      dsimp only [Scan.takeOr]
      cases reads : second c cs with
      | error fault => exact next.fails reads
      | ok read => exact next.gives reads

theorem pure_bind {value : α} {second : α → Scan ε β}
    (isSecond : Reads text before harmless fine (second value)) :
    Reads text before harmless fine (Pure.pure value >>= second) := by
  intro cs place
  have next := isSecond cs place
  show Leaves text harmless fine (Scan.bind (Scan.pure value) second cs)
  rw [Scan.bind, Scan.pure]
  dsimp only
  cases reads : second value cs with
  | error fault => exact next.fails reads
  | ok read => exact next.gives reads

theorem fail_bind {fault : ε} (isHarmless : harmless fault) (second : α → Scan ε β) :
    Reads text before harmless fine (Scan.fail fault >>= second) :=
  fun _ _ => isHarmless

theorem ite {condition : Prop} [Decidable condition] {first second : Scan ε α}
    (isFirst : condition → Reads text before harmless good first)
    (isSecond : ¬ condition → Reads text before harmless good second) :
    Reads text before harmless good (if condition then first else second) := by
  split
  · exact isFirst ‹_›
  · exact isSecond ‹_›

theorem map {scanner : Scan ε α} (reads : Reads text before harmless good scanner) {f : α → β}
    (keeps : ∀ value, good value → fine (f value)) :
    Reads text before harmless fine (f <$> scanner) :=
  reads.bind fun value isGood => pure (keeps value isGood)

theorem discard {scanner : Scan ε α} (reads : Reads text before harmless good scanner) :
    Reads text before harmless (fun _ => True) (discard scanner) :=
  reads.map fun _ _ => trivial

theorem anyM {step : β → Scan ε Bool}
    (reads : ∀ item, Reads text [] harmless (fun _ => True) (step item)) (items : List β) :
    Reads text before harmless (fun _ => True) (items.anyM step) := by
  refine anywhere ?_
  induction items with
  | nil => exact pure trivial
  | cons item items ih =>
      rw [List.anyM]
      refine (reads item).next fun holds => ?_
      cases holds with
      | true => exact pure trivial
      | false => exact ih

theorem attempt {good : Option α → Prop} {scanner : Scan ε (Option α)} (isNone : good none)
    (reads : Reads text before harmless good scanner) :
    Reads text before harmless good (attempt scanner) := by
  intro cs place
  have left := reads cs place
  rw [Scan.attempt]
  match read : scanner cs, left with
  | .error fault, left => exact left
  | .ok ⟨some value, rest, length_le⟩, left => exact left
  | .ok ⟨none, rest, length_le⟩, left => exact ⟨isNone, suffix_of_append place⟩

/-! ## Loops -/

/-- What a step goes on with or gives is good. -/
def Meets (kept : σ → Prop) (good : α → Prop) : Progress σ α → Prop
  | .more state => kept state
  | .done value => good value

/-- A loop gives something good if each of its steps keeps what it relies on. -/
theorem loop {step : σ → Char → Scan ε (Progress σ α)} {atEnd : σ → Except ε α}
    (kept : σ → Prop)
    (steps : ∀ state, kept state → ∀ c ∈ text,
      Reads text [c] harmless (Meets kept good) (step state c))
    (ends : ∀ state, kept state → EndsWell harmless good (atEnd state)) {state : σ}
    (start : kept state) : Reads text before harmless good (loop step atEnd state) := by
  have stepReads {state : σ} (isKept : kept state) {c : Char} {cs : List Char}
      (place : c :: cs <:+ text) : Leaves text harmless (Meets kept good) (step state c cs) :=
    steps state isKept c (place.subset List.mem_cons_self) cs place
  intro cs place
  replace place := suffix_of_append place
  induction state, cs using Scan.loop.induct step atEnd with
  | case1 state =>
      rw [Scan.loop]
      exact (ends state start).map fun _ isGood => ⟨isGood, place⟩
  | case2 state c cs fault fails =>
      rw [Scan.loop, fails]
      exact (stepReads start place).fails fails
  | case3 state c cs value rest _ isDone =>
      rw [Scan.loop, isDone]
      exact (stepReads start place).gives isDone
  | case4 state c cs next rest _ goesOn fault fails ih =>
      have ⟨isKept, suffix⟩ := (stepReads start place).gives goesOn
      rw [Scan.loop, goesOn]
      dsimp only
      rw [fails]
      exact (ih isKept suffix).fails fails
  | case5 state c cs next rest _ goesOn read reads ih =>
      have ⟨isKept, suffix⟩ := (stepReads start place).gives goesOn
      rw [Scan.loop, goesOn]
      dsimp only
      rw [reads]
      exact (ih isKept suffix).gives reads

theorem meets_true (progress : Progress σ α) : Meets (fun _ => True) (fun _ => True) progress := by
  cases progress <;> trivial

/-- What the steps of a loop give does not matter if only its failures do. -/
theorem loop_true {step : σ → Char → Scan ε (Progress σ α)} {atEnd : σ → Except ε α}
    (steps : ∀ state, ∀ c ∈ text, Reads text [c] harmless (fun _ => True) (step state c))
    (ends : ∀ state, FailsOnly harmless (atEnd state)) (state : σ) :
    Reads text before harmless (fun _ => True) (Scan.loop step atEnd state) :=
  loop (fun _ => True)
    (fun state _ c inside => (steps state c inside).mono fun progress _ => meets_true progress)
    (fun state _ => ends state) trivial

/-- A step that is run again and again gives something good if one run of it keeps what it
relies on. -/
theorem iterate {step : σ → Scan ε (Progress σ α)} {stalled : ε} (kept : σ → Prop)
    (steps : ∀ state, kept state → Reads text [] harmless (Meets kept good) (step state))
    (isHarmless : harmless stalled) {state : σ} (start : kept state) :
    Reads text before harmless good (iterate step stalled state) := by
  intro cs place
  replace place := suffix_of_append place
  induction state, cs using Scan.iterate.induct step stalled with
  | case1 state cs fault fails =>
      rw [Scan.iterate, fails]
      exact (steps state start cs place).fails fails
  | case2 state cs value rest _ isDone =>
      rw [Scan.iterate, isDone]
      exact (steps state start cs place).gives isDone
  | case3 state cs next rest _ goesOn shorter fault fails ih =>
      have ⟨isKept, suffix⟩ := (steps state start cs place).gives goesOn
      rw [Scan.iterate, goesOn]
      dsimp only
      rw [if_pos shorter, fails]
      exact (ih isKept suffix).fails fails
  | case4 state cs next rest _ goesOn shorter read reads ih =>
      have ⟨isKept, suffix⟩ := (steps state start cs place).gives goesOn
      rw [Scan.iterate, goesOn]
      dsimp only
      rw [if_pos shorter, reads]
      exact (ih isKept suffix).gives reads
  | case5 state cs next rest _ goesOn stays =>
      rw [Scan.iterate, goesOn]
      dsimp only
      rw [if_neg stays]
      exact isHarmless

theorem iterate_true {step : σ → Scan ε (Progress σ α)} {stalled : ε}
    (steps : ∀ state, Reads text [] harmless (fun _ => True) (step state))
    (isHarmless : harmless stalled) (state : σ) :
    Reads text before harmless (fun _ => True) (Scan.iterate step stalled state) :=
  iterate (fun _ => True)
    (fun state _ => (steps state).mono fun progress _ => meets_true progress) isHarmless trivial

end Reads

end Scan

end TaskQuery

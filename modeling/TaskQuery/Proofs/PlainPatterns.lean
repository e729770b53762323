/-
# Plain refusals of patterns

Of the causes for refusing a pattern three show a character: a flag that does not exist,
behind the pattern or inside it, and a letter that no escape has. Each is a character of the
pattern, so the cause for refusing a plain pattern is told in plain text. What the library
that reads patterns says of its own is assumed to be plain then.
-/

import TaskQuery.Pattern.Basic
import TaskQuery.Proofs.PlainScans
import TaskQuery.Proofs.PlainText

namespace TaskQuery.Pattern

/-- A cause shows no character that is not in a text. -/
def Fault.IsAbout (text : List Char) : Fault → Prop
  | unsupportedFlag c | flagUnknown c | escapeUnknown c => c ∈ text
  | _ => True

theorem Fault.IsAbout.isPlain_message {text : List Char} {fault : Fault}
    (about : fault.IsAbout text) (plain : '\x1b' ∉ text) : IsPlain fault.message := by
  have shown {c : Char} (inside : c ∈ text) : IsPlain c.toString :=
    .singleton (ne_of_mem_of_not_mem inside plain)
  cases fault with
  | unsupportedFlag c => exact .append (.append (.literal rfl) (shown about)) (.literal rfl)
  | flagUnknown c => exact .append (.append (.literal rfl) (shown about)) (.literal rfl)
  | escapeUnknown c => exact .append (.append (.literal rfl) (shown about)) (.literal rfl)
  | _ => exact .literal rfl

/-- A decision about a pattern fails with a cause about it, if it fails. -/
abbrev FailsInside {α : Type} (text : List Char) (outcome : Except Fault α) : Prop :=
  FailsOnly (Fault.IsAbout text) outcome

namespace FailsInside

variable {text : List Char}

/-! ## Sets of characters -/

theorem foldAndNegate (flags : Flags) (negated : Bool) (set : CharSet) :
    FailsInside text (foldAndNegate flags negated set) :=
  .ite (.ok trivial) (.error trivial)

theorem letterClass (flags : Flags) (letter : Char) : FailsInside text (letterClass flags letter) :=
  foldAndNegate _ _ _

theorem finishOperation (flags : Flags) (items : ClassItems) (stack : List ClassFrame) :
    FailsInside text (finishOperation flags items stack) := by
  rw [Pattern.finishOperation.eq_def]
  split
  · exact (foldAndNegate _ _ _).next fun _ => (foldAndNegate _ _ _).next fun _ => .ok trivial
  · exact .ok trivial

theorem rangeBound (flags : Flags) (primitive : Primitive) :
    FailsInside text (rangeBound flags primitive) := by
  rw [Pattern.rangeBound.eq_def]
  split
  · exact .ite (.ok trivial) (.error trivial)
  · exact .error trivial

theorem primitiveSet (flags : Flags) (primitive : Primitive) :
    FailsInside text (primitiveSet flags primitive) := by
  rw [Pattern.primitiveSet.eq_def]
  split
  · exact .ite (.ok trivial) (.error trivial)
  · exact .ok trivial
  · exact .error trivial

theorem closeBracket (flags : Flags) (stack : List ClassFrame) (items : ClassItems) :
    FailsInside text (closeBracket flags stack items) := by
  refine (finishOperation flags items stack).next fun read => ?_
  dsimp only
  split
  · exact (foldAndNegate _ _ _).next fun set => .ite (.ok trivial) (.ok trivial)
  · exact .error trivial

theorem literalSet (flags : Flags) (c : Char) (asByte : Bool) :
    FailsInside text (literalSet flags c asByte) :=
  .ite (.error trivial) (.ite (.ok trivial) (.ite (.ok trivial) (.ite (.ok trivial) (.ok trivial))))

theorem dotSet (flags : Flags) : FailsInside text (dotSet flags) :=
  .ite (.error trivial) (.ite (.ok trivial) (.ite (.ok trivial) (.ok trivial)))

theorem primitiveExpr (flags : Flags) (primitive : Primitive) :
    FailsInside text (primitiveExpr flags primitive) := by
  cases primitive with
  | literal c asByte => exact (literalSet flags c asByte).map fun _ _ => trivial
  | dot => exact (dotSet flags).map fun _ _ => trivial
  | assertion look => exact .ok trivial
  | set set => exact .ok trivial

theorem popRepeatable (state : ReaderState) : FailsInside text state.popRepeatable := by
  rw [ReaderState.popRepeatable]
  split
  · exact .ite (.ok trivial) (.error trivial)
  · exact .error trivial

theorem closeGroup (state : ReaderState) : FailsInside text state.closeGroup := by
  rw [ReaderState.closeGroup]
  split
  · exact .error trivial
  · exact .ok trivial

theorem readEnd (state : ReaderState) : FailsInside text (readEnd state) :=
  .ite (.ok trivial) (.error trivial)

end FailsInside

/-- A scanner of a pattern fails with a cause about it, if it fails. -/
abbrev Reads {α : Type} (text before : List Char) (scanner : PatternScan α) : Prop :=
  Scan.Reads text before (Fault.IsAbout text) (fun _ => True) scanner

namespace Reads

variable {text before : List Char} {flags : Flags}

/-! ## Characters that do not count -/

theorem dropIgnored_suffix (comment : Bool) (cs : List Char) : dropIgnored comment cs <:+ cs := by
  fun_induction dropIgnored comment cs with
  | case1 => exact List.suffix_rfl
  | case5 => exact List.suffix_rfl
  | _ =>
      rename_i ih
      exact ih.trans (List.suffix_cons _ _)

theorem skipIgnored : Reads text before (skipIgnored flags) := by
  refine Scan.Reads.ite (fun _ => ?_) (fun _ => .pure trivial)
  intro cs place
  exact ⟨trivial, (dropIgnored_suffix false cs).trans (Scan.suffix_of_append place)⟩

theorem gatherFrom_suffix (accept : Char → Bool) (ignore comment : Bool) (cs : List Char) :
    (gatherFrom accept ignore comment cs).2 <:+ cs := by
  fun_induction gatherFrom accept ignore comment cs with
  | case1 => exact List.suffix_rfl
  | case6 => exact List.suffix_rfl
  | _ =>
      rename_i ih
      exact ih.trans (List.suffix_cons _ _)

theorem gather (accept : Char → Bool) : Reads text before (gather flags accept) :=
  fun cs place => ⟨trivial, (gatherFrom_suffix accept _ _ cs).trans (Scan.suffix_of_append place)⟩

theorem takeAndSkip : Reads text before (takeAndSkip flags) :=
  Scan.Reads.take.next fun _ => skipIgnored

/-! ## Escapes -/

theorem takeDigits (count : Nat) : Reads text before (takeDigits flags count) := by
  induction count generalizing before with
  | zero => exact .pure trivial
  | succ count ih =>
      refine .bind_takeOr trivial fun digit _ => skipIgnored.next fun _ => ih.next fun _ => ?_
      exact .pure trivial

theorem hexEscape (letter : Char) : Reads text before (hexEscape flags letter) := by
  refine skipIgnored.next fun _ => (Scan.Reads.accept _).next fun braced => ?_
  extract_lets after
  have afterReads (digits : List Char) : Reads text [] (after digits) := by
    dsimp only [after]
    split
    · exact .pure trivial
    · exact .fail trivial
  refine .ite (fun _ => ?_) fun _ => ?_
  · refine (gather _).next fun digits => .bind_takeOr trivial fun _ _ => ?_
    exact skipIgnored.next fun _ => .pure_bind (afterReads _)
  · exact (takeDigits _).next afterReads

theorem propertyEscape (letter : Char) : Reads text before (propertyEscape flags letter) := by
  refine skipIgnored.next fun _ => (Scan.Reads.accept _).next fun braced => ?_
  extract_lets after
  have afterReads (name : PropertyName × Bool) : Reads text [] (after name) := by
    refine .ite (fun _ => .fail trivial) fun _ => ?_
    split
    · exact (Scan.Reads.decided (FailsInside.foldAndNegate _ _ _)).next fun _ => .pure trivial
    · exact .fail trivial
  refine .ite (fun _ => ?_) fun _ => ?_
  · refine (gather _).next fun name => .bind_takeOr trivial fun _ _ => ?_
    exact .pure_bind (Scan.Reads.anywhere (afterReads _))
  · refine .bind_takeOr trivial fun c _ => .ite (fun _ => ?_) fun _ => ?_
    · exact .fail_bind trivial _
    · exact skipIgnored.next fun _ => .pure_bind (afterReads (_, _))

theorem namedEdge : Reads text before (namedEdge flags) := by
  refine (Scan.Reads.accept _).next fun braced => .ite (fun _ => .pure trivial) fun _ => ?_
  refine skipIgnored.next fun _ => Scan.Reads.peek.next fun next => ?_
  split
  · exact .fail trivial
  · refine .ite (fun _ => .pure trivial) fun _ => (gather _).next fun name => ?_
    refine (Scan.Reads.accept _).next fun closed => .ite (fun _ => .fail trivial) ?_
    intro _
    split
    · exact .pure trivial
    · exact .fail trivial

/-- An escape that does not exist is refused with its letter, which the pattern has. -/
theorem escape : Reads text before (escape flags) := by
  refine .bind_takeOr trivial fun letter inside => ?_
  extract_lets edge
  refine .ite (fun _ => .fail trivial) fun _ => ?_
  refine .ite (fun _ => hexEscape letter) fun _ => ?_
  refine .ite (fun _ => propertyEscape letter) fun _ => ?_
  refine .ite (fun _ => ?_) fun _ => ?_
  · exact (Scan.Reads.decided (FailsInside.letterClass _ _)).next fun _ => .pure trivial
  refine .ite (fun _ => .pure trivial) fun _ => ?_
  split
  · exact .pure trivial
  refine .ite (fun _ => .pure trivial) fun _ => .ite (fun _ => .pure trivial) fun _ => ?_
  refine .ite (fun _ => (Scan.Reads.attempt trivial namedEdge).next fun _ => .pure trivial)
    fun _ => ?_
  refine .ite (fun _ => .pure trivial) fun _ => .ite (fun _ => .pure trivial) fun _ => ?_
  exact .ite (fun _ => .pure trivial) fun _ => .fail inside

theorem asciiClass : Reads text before asciiClass := by
  refine (Scan.Reads.accept _).next fun named => .ite (fun _ => .pure trivial) fun _ => ?_
  refine (Scan.Reads.accept _).next fun negated => (Scan.Reads.takeWhile _).next ?_
  intro name
  exact (Scan.Reads.accept _).next fun closed =>
    .ite (fun _ => .pure trivial) fun _ => .pure trivial

theorem openClass : Reads text before (openClass flags) := by
  refine skipIgnored.next fun _ => (Scan.Reads.accept _).next fun negated => ?_
  extract_lets after
  have afterReads (skipped : Unit) : Reads text [] (after skipped) := by
    refine (gather _).next fun hyphens => ?_
    extract_lets items
    refine Scan.Reads.peek.next fun next => .ite (fun _ => .fail trivial) fun _ => ?_
    refine Scan.Reads.peek.next fun next => .ite (fun _ => ?_) fun _ => .pure trivial
    exact takeAndSkip.next fun _ => .pure trivial
  exact .ite (fun _ => skipIgnored.next afterReads) fun _ => afterReads ()

theorem classPrimitive (first : Char) : Reads text before (classPrimitive flags first) :=
  .ite (fun _ => escape) fun _ => .pure trivial

theorem classItem (first : Char) : Reads text before (classItem flags first) := by
  refine (classPrimitive first).next fun primitive => skipIgnored.next fun _ => ?_
  refine Scan.Reads.ahead.next fun ahead => ?_
  split
  · exact .fail trivial
  · refine .ite (fun _ => .decided (FailsInside.primitiveSet _ _)) fun _ => ?_
    refine takeAndSkip.next fun _ => ?_
    refine .bind_takeOr trivial fun c _ => (classPrimitive c).next fun second => ?_
    refine .next (.decided (FailsInside.rangeBound _ _)) fun low => ?_
    refine .next (.decided (FailsInside.rangeBound _ _)) fun high => ?_
    exact .ite (fun _ => .pure trivial) fun _ => .fail trivial

theorem classStep (state : List ClassFrame × ClassItems) (c : Char) :
    Reads text before (classStep flags state c) := by
  refine Scan.Reads.peek.next fun next => ?_
  refine .ite (fun _ => .pure trivial) fun _ => .ite (fun _ => ?_) fun _ => ?_
  · exact (Scan.Reads.takeWhile _).next fun _ => .pure trivial
  refine .ite (fun _ => (Scan.Reads.attempt trivial asciiClass).next fun named => ?_) fun _ => ?_
  · split
    · exact (Scan.Reads.decided (FailsInside.foldAndNegate _ _ _)).next fun _ => .pure trivial
    · exact openClass.next fun _ => .pure trivial
  refine .ite (fun _ => .decided (FailsInside.closeBracket _ _ _)) fun _ => ?_
  refine .ite (fun _ => ?_) fun _ => ?_
  · split
    · refine Scan.Reads.take.next fun _ => ?_
      exact (Scan.Reads.decided (FailsInside.finishOperation _ _ _)).next fun _ => .pure trivial
    · exact (classItem c).next fun _ => .pure trivial
  · exact (classItem c).next fun _ => .pure trivial

theorem bracketedClass : Reads text before (bracketedClass flags) := by
  refine openClass.next fun opened => .loop_true (fun state c _ => classStep state c) ?_ _
  exact fun _ => .error trivial

/-! ## Groups and repetitions -/

theorem repeatLast (state : ReaderState) (least : Nat) (most : Option Nat) :
    Reads text before (repeatLast state least most) := by
  refine .next (.decided (FailsInside.popRepeatable _)) fun popped => ?_
  exact (Scan.Reads.accept _).next fun _ => .pure trivial

theorem countNumber : Reads text before (countNumber flags) := by
  refine (Scan.Reads.takeWhile _).next fun _ => (gather _).next fun digits => ?_
  refine (Scan.Reads.takeWhile _).next fun _ => .ite (fun _ => .pure trivial) fun _ => ?_
  exact .ite (fun _ => .pure trivial) fun _ => .fail trivial

theorem required (number : Option Nat) : Reads text before (required number) := by
  cases number with
  | none => exact .fail trivial
  | some number => exact .pure trivial

theorem countedRepetition (state : ReaderState) : Reads text before (countedRepetition state) := by
  refine .next (.decided (FailsInside.popRepeatable _)) fun popped => skipIgnored.next fun _ => ?_
  refine Scan.Reads.peek.next fun next => .ite (fun _ => .fail trivial) fun _ => ?_
  refine countNumber.next fun first => (Scan.Reads.accept _).next fun comma => ?_
  extract_lets after
  have afterReads (bounds : Nat × Option Nat) : Reads text [] (after bounds) := by
    refine (Scan.Reads.accept _).next fun closed => .ite (fun _ => .fail trivial) ?_
    refine fun _ => skipIgnored.next fun _ => (Scan.Reads.accept _).next fun turned => ?_
    exact .ite (fun _ => .pure trivial) fun _ => .fail trivial
  refine .ite (fun _ => ?_) fun _ => ?_
  · refine skipIgnored.next fun _ => Scan.Reads.peek.next fun next => ?_
    split
    · exact .fail_bind trivial _
    · exact (required first).next fun _ => .pure_bind (afterReads (_, _))
    · refine (required first).next fun least => countNumber.next fun second => ?_
      exact (required second).next fun most => .pure_bind (afterReads (_, _))
  · refine Scan.Reads.peek.next fun next => .ite (fun _ => ?_) fun _ => ?_
    · exact .fail_bind trivial _
    · exact (required first).next fun count => .pure_bind (afterReads (_, _))

/-- A flag that does not exist is refused with its letter, which the pattern has. -/
theorem flagStep (reader : FlagReader) {c : Char} (inside : c ∈ text) :
    Reads text before (flagStep reader c) := by
  refine .ite (fun _ => ?_) fun _ => .ite (fun _ => ?_) fun _ => ?_
  · exact .ite (fun _ => .fail trivial) fun _ => .pure trivial
  · exact .ite (fun _ => .fail trivial) fun _ => .pure trivial
  refine .ite (fun _ => .fail inside) fun _ => .ite (fun _ => .fail trivial) fun _ => ?_
  exact .pure trivial

theorem flagGroup (state : ReaderState) : Reads text before (flagGroup state) := by
  refine .next (.loop_true (fun reader c inside => flagStep reader inside) ?_ _) fun read => ?_
  · exact fun _ => .error trivial
  · refine .ite (fun _ => .pure trivial) fun _ => .ite (fun _ => ?_) fun _ => .pure trivial
    exact .fail trivial

theorem groupName : Reads text before groupName := by
  refine (Scan.Reads.takeWhile _).next fun name => Scan.Reads.take.next fun last => ?_
  refine .ite (fun _ => .fail trivial) fun _ => ?_
  split
  · exact .fail trivial
  · exact .ite (fun _ => .pure trivial) fun _ => .fail trivial

theorem groupOpening (state : ReaderState) : Reads text before (groupOpening state) := by
  refine skipIgnored.next fun _ => (Scan.Reads.anyM .accept _).next fun looksAround => ?_
  refine .ite (fun _ => .fail trivial) fun _ => ?_
  refine (Scan.Reads.anyM .accept _).next fun named => .ite (fun _ => ?_) fun _ => ?_
  · exact groupName.next fun name => .ite (fun _ => .fail trivial) fun _ => .pure trivial
  refine (Scan.Reads.accept _).next fun flagged => .ite (fun _ => ?_) fun _ => .pure trivial
  refine Scan.Reads.peek.next fun next => .ite (fun _ => .fail trivial) fun _ => ?_
  exact flagGroup state

/-! ## Patterns -/

theorem outerPrimitive (first : Char) : Reads text before (outerPrimitive flags first) := by
  refine .ite (fun _ => escape) fun _ => .ite (fun _ => .pure trivial) fun _ => ?_
  exact .ite (fun _ => .pure trivial) fun _ => .ite (fun _ => .pure trivial) fun _ => .pure trivial

theorem readStep (state : ReaderState) (c : Char) : Reads text before (readStep state c) := by
  refine .ite (fun _ => .pure trivial) fun _ => .ite (fun _ => ?_) fun _ => ?_
  · exact (Scan.Reads.takeWhile _).next fun _ => .pure trivial
  refine .ite (fun _ => (groupOpening state).next fun _ => .pure trivial) fun _ => ?_
  refine .ite (fun _ => ?_) fun _ => .ite (fun _ => .pure trivial) fun _ => ?_
  · exact (Scan.Reads.decided (FailsInside.closeGroup state)).next fun _ => .pure trivial
  refine .ite (fun _ => bracketedClass.next fun _ => .pure trivial) fun _ => ?_
  refine .ite (fun _ => (repeatLast _ _ _).next fun _ => .pure trivial) fun _ => ?_
  refine .ite (fun _ => (repeatLast _ _ _).next fun _ => .pure trivial) fun _ => ?_
  refine .ite (fun _ => (repeatLast _ _ _).next fun _ => .pure trivial) fun _ => ?_
  refine .ite (fun _ => (countedRepetition state).next fun _ => .pure trivial) fun _ => ?_
  refine (outerPrimitive c).next fun primitive => ?_
  exact (Scan.Reads.decided (FailsInside.primitiveExpr _ _)).next fun _ => .pure trivial

end Reads

theorem readExpr_failsInside (flags : Flags) (text : List Char) :
    FailsInside text (readExpr flags text) := by
  have isLoop : Reads text [] (Scan.loop readStep readEnd { flags := flags }) :=
    .loop_true (fun state c _ => Reads.readStep state c) FailsInside.readEnd _
  exact isLoop.ends_run.next fun part => .ite (.pure trivial) (.throw trivial)

theorem readFlags_failsInside (flags : Flags) {letters text : List Char}
    (inside : letters ⊆ text) : FailsInside text (readFlags flags letters) := by
  induction letters generalizing flags with
  | nil => exact .ok trivial
  | cons letter letters ih =>
      obtain ⟨isFirst, others⟩ := List.cons_subset.mp inside
      exact .ite (ih _ others) (.error isFirst)

theorem splitFlags_subset (text : List Char) :
    (splitFlags text).1 ⊆ text ∧ (splitFlags text).2 ⊆ text := by
  rw [splitFlags.eq_def]
  split
  · rename_i rest
    have front : rest ⊆ '/' :: rest := List.subset_cons_self _ _
    split
    · exact ⟨List.Subset.refl _, List.nil_subset _⟩
    · rename_i before found
      have body : before.reverse ⊆ rest := fun c member => by
        have kept : c ∈ rest.reverse.dropWhile (· != '/') := by
          rw [found]
          exact List.mem_cons_of_mem _ (List.mem_reverse.mp member)
        exact List.mem_reverse.mp ((List.dropWhile_sublist _).mem kept)
      have letters : (rest.reverse.takeWhile (· != '/')).reverse ⊆ rest := fun c member =>
        List.mem_reverse.mp ((List.takeWhile_sublist _).mem (List.mem_reverse.mp member))
      exact ⟨List.Subset.trans body front, List.Subset.trans letters front⟩
  · exact ⟨List.Subset.refl _, List.nil_subset _⟩

theorem Fault.IsAbout.mono {text whole : List Char} {fault : Fault} (about : fault.IsAbout text)
    (inside : text ⊆ whole) : fault.IsAbout whole := by
  cases fault with
  | unsupportedFlag c => exact inside about
  | flagUnknown c => exact inside about
  | escapeUnknown c => exact inside about
  | _ => trivial

/-- A pattern is refused with a cause about it. -/
theorem compile_failsInside (value : String) : FailsInside value.toList (compile value) := by
  obtain ⟨body, letters⟩ := splitFlags_subset value.toList
  have readsExpr (flags : Flags) :
      FailsInside value.toList (readExpr flags (splitFlags value.toList).1) :=
    (readExpr_failsInside flags _).mono (fun _ about => about.mono body) fun _ => id
  exact (readFlags_failsInside {} letters).next fun flags => (readsExpr flags).next fun expr =>
    .ite (.pure trivial) (.throw trivial)

/-- The cause for refusing a plain pattern is told in plain text. -/
theorem isPlain_of_compile {value : String} (plain : IsPlain value) {fault : Fault}
    (refused : compile value = .error fault) : IsPlain fault.message :=
  ((compile_failsInside value).fails refused).isPlain_message plain

/-- What is said about refusing a plain pattern is plain. -/
def RefusesPlainly [Wording] : Prop :=
  ∀ pattern fault, compile pattern = .error fault → IsPlain pattern →
    IsPlain (Wording.refusal pattern fault)

/-- It is where the cause is all that is said. -/
theorem refusesPlainly_cause : RefusesPlainly :=
  fun _ _ refused plain => isPlain_of_compile plain refused

theorem RefusesPlainly.reason [Wording] (refuses : RefusesPlainly) {value : String}
    (plain : IsPlain value) {fault : Fault} (refused : compile value = .error fault) :
    IsPlain (fault.reason value) := by
  cases fault with
  | unsupportedFlag flag => exact isPlain_of_compile plain refused
  | _ => exact refuses value _ refused plain

end TaskQuery.Pattern

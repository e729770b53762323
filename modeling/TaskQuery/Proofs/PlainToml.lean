/-
# Reading plain TOML

A document that cannot be read is reported with what is wrong about it: with a character at
which reading stopped, or with a name that is defined twice. Both come from the document, and
so does every text of a document that can be read. Texts and names can have characters that
the document spells by their codes, but no other character that it does not have.
-/

import TaskQuery.Proofs.PlainScans
import TaskQuery.Proofs.SpelledCharacters
import TaskQuery.Toml.Reader

namespace TaskQuery.Toml

/-! ## Texts of a document -/

/-- Every text in a value has a property, the names in it included. -/
inductive AllTexts (p : String → Prop) : Toml → Prop
  | string {text : String} (holds : p text) : AllTexts p (.string text)
  | integer (value : Int) : AllTexts p (.integer value)
  | float : AllTexts p .float
  | bool (value : Bool) : AllTexts p (.bool value)
  | dateTime {text : String} (holds : p text) : AllTexts p (.dateTime text)
  | array {items : List Toml} (inside : ∀ item ∈ items, AllTexts p item) :
      AllTexts p (.array items)
  | table {origin : TableOrigin} {members : Members} (names : ∀ entry ∈ members, p entry.1)
      (values : ∀ entry ∈ members, AllTexts p entry.2) : AllTexts p (.table origin members)
  | tables {elements : List Members} (names : ∀ members ∈ elements, ∀ entry ∈ members, p entry.1)
      (values : ∀ members ∈ elements, ∀ entry ∈ members, AllTexts p entry.2) :
      AllTexts p (.tables elements)

/-- Every text in the members of a table has a property. -/
def Members.AllTexts (p : String → Prop) (members : Members) : Prop :=
  ∀ entry ∈ members, p entry.1 ∧ entry.2.AllTexts p

variable {p : String → Prop}

section

variable {origin : TableOrigin} {members : Members} {name : String} {value : Toml}

theorem allTexts_table_iff :
    (table origin members).AllTexts p ↔ Members.AllTexts p members := by
  constructor
  · rintro ⟨⟩
    rename_i names values
    exact fun entry member => ⟨names entry member, values entry member⟩
  · exact fun all => .table (fun entry member => (all entry member).1) fun entry member =>
      (all entry member).2

theorem allTexts_tables_iff {elements : List Members} :
    (tables elements).AllTexts p ↔ ∀ members ∈ elements, Members.AllTexts p members := by
  constructor
  · rintro ⟨⟩
    rename_i names values
    exact fun members element entry member =>
      ⟨names members element entry member, values members element entry member⟩
  · intro all
    exact .tables (fun members element entry member => (all members element entry member).1)
      fun members element entry member => (all members element entry member).2

theorem AllTexts.mono {q : String → Prop} (all : value.AllTexts p)
    (implies : ∀ text, p text → q text) : value.AllTexts q := by
  induction all with
  | string holds => exact .string (implies _ holds)
  | integer value => exact .integer value
  | float => exact .float
  | bool value => exact .bool value
  | dateTime holds => exact .dateTime (implies _ holds)
  | array _ ih => exact .array ih
  | table names _ ih => exact .table (fun entry member => implies _ (names entry member)) ih
  | tables names _ ih =>
      exact .tables (fun members element entry member =>
        implies _ (names members element entry member)) ih

namespace Members.AllTexts

theorem mono {q : String → Prop} (all : Members.AllTexts p members)
    (implies : ∀ text, p text → q text) : Members.AllTexts q members :=
  fun entry member => ⟨implies _ (all entry member).1, (all entry member).2.mono implies⟩

theorem nil : Members.AllTexts p [] := by
  intro entry member
  cases member

theorem append_one (all : Members.AllTexts p members) (isName : p name)
    (isValue : value.AllTexts p) : Members.AllTexts p (members ++ [(name, value)]) :=
  List.forall_mem_append.mpr ⟨all, List.forall_mem_singleton.mpr ⟨isName, isValue⟩⟩

theorem lookup (all : Members.AllTexts p members) (found : members.lookup name = some value) :
    value.AllTexts p := by
  obtain ⟨before, behind, rfl, -⟩ := List.lookup_eq_some_iff.mp found
  exact (all (name, value) (List.mem_append_right _ List.mem_cons_self)).2

theorem setMember (all : Members.AllTexts p members) (isName : p name)
    (isValue : value.AllTexts p) : Members.AllTexts p (setMember name value members) := by
  induction members with
  | nil => exact List.forall_mem_singleton.mpr ⟨isName, isValue⟩
  | cons entry rest ih =>
      obtain ⟨isEntry, isRest⟩ := List.forall_mem_cons.mp all
      rw [Toml.setMember]
      split
      · exact List.forall_mem_cons.mpr ⟨⟨isName, isValue⟩, isRest⟩
      · exact List.forall_mem_cons.mpr ⟨isEntry, ih isRest⟩

end Members.AllTexts

end

/-! ## What a document is read as -/

/-- A fault shows nothing but characters and names of a document. -/
def Fault.IsAbout (document : List Char) : Fault → Prop
  | .unexpected c => c ∈ document
  | .duplicateKey name | .notTable name => SpelledText document name
  | _ => True

/-- A fault about a plain document is worded in plain text if the names that it tells are
plain. -/
theorem Fault.IsAbout.isPlain_message {document : List Char} {fault : Fault}
    (about : fault.IsAbout document) (plain : '\x1b' ∉ document)
    (names : ∀ name, fault = .duplicateKey name ∨ fault = .notTable name → IsPlain name) :
    IsPlain fault.message := by
  cases fault with
  | unexpected c =>
      have other : c ≠ '\x1b' := ne_of_mem_of_not_mem about plain
      exact .append (.append (.literal rfl) (.singleton other)) (.literal rfl)
  | duplicateKey name =>
      exact .append (.append (.literal rfl) (names name (Or.inl rfl))) (.literal rfl)
  | notTable name =>
      exact .append (.append (.literal rfl) (names name (Or.inr rfl))) (.literal rfl)
  | _ => exact .literal rfl

/-- A reader gives something good, or fails with a fault about the document. -/
abbrev Reads {α : Type} (document before : List Char) (good : α → Prop) (reader : Reader α) :
    Prop :=
  Scan.Reads document before (Fault.IsAbout document) good reader

/-- The names of a key come from a document. -/
def Key.IsSpelled (document : List Char) (key : Key) : Prop :=
  ∀ name ∈ key.names, SpelledText document name

namespace Reads

open Scan.Reads (accept peek takeWhile takeWhileUpTo)

variable {α : Type} {document before : List Char}

theorem unexpectedNext (good : α → Prop) :
    Reads document before good (unexpectedNext : Reader α) := by
  refine .bind_peek fun next inside => ?_
  cases next with
  | none => exact .fail trivial
  | some c => exact .fail (inside c rfl)

theorem expect (signs : List Char) : Reads document before (fun _ => True) (expect signs) :=
  (accept signs).next fun _ => .ite (fun _ => .pure trivial) fun _ => unexpectedNext _

theorem blanks : Reads document before (fun _ => True) blanks :=
  (takeWhile isLineBlank).discard

theorem newline? : Reads document before (fun _ => True) newline? :=
  (accept _).next fun _ => .ite (fun _ => .pure trivial) fun _ => accept _

theorem skipComment : Reads document before (fun _ => True) skipComment :=
  (accept _).next fun _ => .ite (fun _ => (takeWhile isPlain).discard) fun _ => .pure trivial

theorem lineEnd : Reads document before (fun _ => True) lineEnd := by
  refine blanks.next fun _ => skipComment.next fun _ => peek.next fun next => ?_
  exact newline?.next fun _ => .ite (fun _ => unexpectedNext _) fun _ => .pure trivial

theorem skipLines (comments : Bool) :
    Reads document before (fun _ => True) (skipLines comments) := by
  refine .iterate_true (fun _ => blanks.next fun _ => ?_) (by trivial) _
  extract_lets after
  have afterReads (skipped : Unit) : Reads document [] (fun _ => True) (after skipped) :=
    newline?.next fun _ => .ite (fun _ => .pure trivial) fun _ => .pure trivial
  exact .ite (fun _ => skipComment.next afterReads) fun _ => afterReads ()

/-! ### Texts and keys -/

theorem onlySpelled_of_isPlain {c : Char} (plain : isPlain c = true) :
    OnlySpelled document [c] := by
  refine .of_ne ?_
  rintro rfl
  exact absurd plain (by decide)

theorem codeEscape {mark : Char} {width : Nat} (isMark : (mark, width) ∈ [('u', 4), ('U', 8)]) :
    Reads document ['\\', mark] (fun c => OnlySpelled document [c]) (codeEscape width) := by
  refine (takeWhileUpTo _ _).bind fun digits taken => ?_
  split
  · rename_i c isChar
    refine .ite (fun isWidth => .pure fun escape => ?_) fun _ => .fail trivial
    obtain rfl := List.mem_singleton.mp escape
    exact spellsEscape_of_digits isMark isWidth taken.2 (natOfDigitsIn_of_charOfHex? isChar) taken.1
  · exact .fail trivial

/-- An escape gives the character that codes start with only where its digits spell it. -/
theorem escape : Reads document ['\\'] (fun c => OnlySpelled document [c]) escape := by
  refine .bind_takeOr trivial fun c _ => ?_
  split
  case h_8 => exact codeEscape (by decide)
  case h_9 => exact codeEscape (by decide)
  case h_10 => exact .fail trivial
  all_goals exact .pure (.of_ne (by decide))

theorem lineText (quote : Char) :
    Reads document before (OnlySpelled document) (lineText quote) := by
  refine .loop (OnlySpelled document) (fun taken isTaken c inside => ?_) (fun _ _ => .error trivial)
    (.of_not_mem List.not_mem_nil)
  refine .ite (fun _ => .pure isTaken.reverse) fun _ => .ite (fun escaped => ?_) fun _ => ?_
  · obtain ⟨rfl, -⟩ := escaped
    exact escape.bind fun c isChar => .pure (isChar.cons isTaken)
  · exact .ite (fun plain => .pure ((onlySpelled_of_isPlain plain).cons isTaken)) fun _ =>
      .fail inside

theorem blockEscape : Reads document ['\\'] (OnlySpelled document) blockEscape := by
  refine .bind_peek fun next _ => ?_
  split
  · refine .ite (fun _ => ?_) fun _ => escape.bind fun c isChar => .pure isChar
    have nothing : OnlySpelled document [] := .of_not_mem List.not_mem_nil
    refine blanks.next fun _ => newline?.next fun ended => .ite (fun _ => ?_) fun _ => ?_
    · exact (skipLines false).next fun _ => .pure nothing
    · exact (unexpectedNext fun _ => True).next fun _ => .pure nothing
  · exact .fail trivial

theorem blockText {quote : Char} (other : quote ≠ '\x1b') :
    Reads document before (OnlySpelled document) (blockText quote) := by
  have quotes (count : Nat) : OnlySpelled document (List.replicate count quote) :=
    .of_not_mem (not_mem_replicate other count)
  have lineFeed : OnlySpelled document ['\n'] := .of_ne (by decide)
  refine .loop (OnlySpelled document) (fun taken isTaken c inside => ?_) (fun _ _ => .error trivial)
    (.of_not_mem List.not_mem_nil)
  refine .ite (fun isQuote => (takeWhile _).next fun more => ?_) fun _ => ?_
  · refine .ite (fun _ => .pure ((quotes _).append isTaken)) fun _ => .ite (fun _ => ?_) fun _ => ?_
    · exact .pure ((quotes _).append isTaken).reverse
    · exact .fail (isQuote ▸ inside)
  refine .ite (fun escaped => ?_) fun _ => ?_
  · obtain ⟨rfl, -⟩ := escaped
    exact blockEscape.bind fun added isAdded => .pure (isAdded.append isTaken)
  refine .ite (fun _ => .pure (lineFeed.cons isTaken)) fun _ => ?_
  refine .ite (fun _ => (expect _).next fun _ => .pure (lineFeed.cons isTaken)) fun _ => ?_
  exact .ite (fun plain => .pure ((onlySpelled_of_isPlain plain).cons isTaken))
    fun _ => .fail inside

theorem text {quote : Char} (other : quote ≠ '\x1b') :
    Reads document before (SpelledText document) (text quote) := by
  refine (accept _).next fun block => .ite (fun _ => ?_) fun _ => ?_
  · exact newline?.discard.next fun _ => (blockText other).bind fun _ spelled =>
      .pure (.ofList spelled)
  · exact (expect _).next fun _ => (lineText quote).bind fun _ spelled => .pure (.ofList spelled)

theorem keyName : Reads document before (SpelledText document) keyName := by
  refine (accept _).next fun _ => .ite (fun _ => ?_) fun _ => ?_
  · exact (lineText _).bind fun _ spelled => .pure (.ofList spelled)
  refine (accept _).next fun _ => .ite (fun _ => ?_) fun _ => ?_
  · exact (lineText _).bind fun _ spelled => .pure (.ofList spelled)
  refine (takeWhile _).bind fun name isBare => ?_
  split
  · exact unexpectedNext _
  · exact .pure (.ofList (.of_not_mem fun escape => absurd (isBare _ escape) (by decide)))

theorem key : Reads document before (Key.IsSpelled document) key := by
  refine .iterate (fun path => ∀ name ∈ path, SpelledText document name)
    (fun path isPath => ?_) trivial (List.forall_mem_nil _)
  refine blanks.next fun _ => keyName.bind fun name isName => blanks.next fun _ => ?_
  have isLonger : ∀ other ∈ path ++ [name], SpelledText document other :=
    List.forall_mem_append.mpr ⟨isPath, List.forall_mem_singleton.mpr isName⟩
  refine (accept _).next fun _ => .ite (fun _ => .pure isLonger) fun _ => ?_
  exact .ite (fun _ => .fail trivial) fun _ => .pure isLonger

/-! ### Dates and numbers -/

theorem digits? (count : Nat) : Reads document before (fun _ => True) (digits? count) :=
  .attempt trivial ((takeWhileUpTo _ _).next fun _ => .pure trivial)

theorem twoDigits (least greatest : Nat) :
    Reads document before (fun _ => True) (twoDigits least greatest) := by
  refine (digits? 2).next fun value => ?_
  split
  · exact .ite (fun _ => .pure trivial) fun _ => .fail trivial
  · exact unexpectedNext _

theorem isPlain_twoPlaces (value : Nat) : IsPlain (twoPlaces value) :=
  isPlain_zeroPadded 2 value

theorem date? : Reads document before PlainIfGiven date? := by
  refine .attempt plainIfGiven_none ((digits? 4).next fun year => ?_)
  split
  · exact .pure plainIfGiven_none
  · refine (accept _).next fun _ => .ite (fun _ => ?_) fun _ => .pure plainIfGiven_none
    refine (twoDigits _ _).next fun month => (expect _).next fun _ => ?_
    refine (twoDigits _ _).next fun day => .pure (plainIfGiven_some ?_)
    exact .append (.append (.append (.append (isPlain_zeroPadded _ _) (.literal rfl))
      (isPlain_twoPlaces _)) (.literal rfl)) (isPlain_twoPlaces _)

theorem fraction : Reads document before IsPlain fraction := by
  refine (accept _).next fun _ => .ite (fun _ => ?_) fun _ => .pure (.literal rfl)
  refine (takeWhile _).bind fun digits areDigits => .ite (fun _ => unexpectedNext _) fun _ => ?_
  refine .pure ?_
  split
  · exact .literal rfl
  · refine .append (.literal rfl) (.ofList fun escape => ?_)
    have kept : '\x1b' ∈ digits := by
      have dropped := (List.dropWhile_sublist (· == '0')).mem (List.mem_reverse.mp escape)
      exact List.mem_of_mem_take (List.mem_reverse.mp dropped)
    exact absurd (areDigits _ kept) (by decide)

theorem time? : Reads document before PlainIfGiven time? := by
  refine .attempt plainIfGiven_none ((digits? 2).next fun hour => ?_)
  split
  · exact .pure plainIfGiven_none
  · refine (accept _).next fun _ => .ite (fun _ => ?_) fun _ => .pure plainIfGiven_none
    refine (twoDigits _ _).next fun minute => (expect _).next fun _ => ?_
    refine (twoDigits _ _).next fun second => fraction.bind fun _ isFraction => ?_
    refine .pure (plainIfGiven_some (.append ?_ isFraction))
    exact .append (.append (.append (.append (isPlain_twoPlaces _) (.literal rfl))
      (isPlain_twoPlaces _)) (.literal rfl)) (isPlain_twoPlaces _)

theorem offset : Reads document before IsPlain offset := by
  refine (accept _).next fun _ => ?_
  extract_lets after
  have afterReads (universal : Bool) : Reads document [] IsPlain (after universal) := by
    refine .ite (fun _ => .pure (.literal rfl)) fun _ => (accept _).next fun behind => ?_
    extract_lets next
    have nextReads (signed : Bool) : Reads document [] IsPlain (next signed) := by
      refine .ite (fun _ => (twoDigits _ _).next fun hours => (expect _).next fun _ => ?_) ?_
      · refine (twoDigits _ _).next fun minutes => .pure ?_
        refine .append (.append (.append ?_ (isPlain_twoPlaces _)) (.literal rfl))
          (isPlain_twoPlaces _)
        split <;> exact .literal rfl
      · exact fun _ => .pure (.literal rfl)
    exact .ite (fun _ => .pure_bind (nextReads _)) fun _ => (accept _).next nextReads
  exact .ite (fun _ => .pure_bind (afterReads _)) fun _ => (accept _).next afterReads

theorem dateEnd? : Reads document before (fun _ => True) dateEnd? := by
  refine (accept _).next fun _ => .ite (fun _ => .pure trivial) fun _ => ?_
  exact (accept _).next fun _ => .ite (fun _ => .pure trivial) fun _ => accept _

/-- A date that stands in a document is given back in a form of its own, which is plain. -/
theorem dateTime? :
    Reads document before (fun found => ∀ value ∈ found, value.AllTexts (SpelledText document))
      dateTime? := by
  have given {text : String} (plain : IsPlain text) :
      ∀ value ∈ some (Toml.dateTime text), value.AllTexts (SpelledText document) := by
    rintro _ ⟨⟩
    exact .dateTime (.of_isPlain plain)
  refine date?.bind fun date isDate => ?_
  split
  · rename_i date
    have plain : IsPlain date := isDate date rfl
    refine .bind (.attempt plainIfGiven_none ?_) fun timed isTime => ?_
    · exact dateEnd?.next fun _ => .ite (fun _ => time?) fun _ => .pure plainIfGiven_none
    · split
      · rename_i time
        refine offset.bind fun _ isOffset => .pure (given ?_)
        exact .append (.append (plain.append (.literal rfl)) (isTime time rfl)) isOffset
      · exact .pure (given plain)
  · refine time?.map fun time isTime => ?_
    cases time with
    | none => rintro _ ⟨⟩
    | some time => exact given (isTime time rfl)

theorem digitRun (isDigit : Char → Bool) :
    Reads document before (fun _ => True) (digitRun isDigit) :=
  (takeWhile _).next fun _ => .ite (fun _ => .pure trivial) fun _ => .fail trivial

theorem integerOf (value : Int) : Reads document before (AllTexts p) (integerOf value) :=
  .ite (fun _ => .pure (.integer value)) fun _ => .fail trivial

theorem exponent? : Reads document before (fun _ => True) exponent? := by
  refine (accept _).next fun _ => ?_
  extract_lets after
  have afterReads (marked : Bool) : Reads document [] (fun _ => True) (after marked) := by
    refine .ite (fun _ => (accept _).next fun negative => ?_) fun _ => .pure trivial
    extract_lets next
    have nextReads (skipped : Unit) : Reads document [] (fun _ => True) (next skipped) :=
      (digitRun _).next fun _ => .pure trivial
    exact .ite (fun _ => nextReads ()) fun _ => (accept _).discard.next nextReads
  exact .ite (fun _ => .pure_bind (afterReads _)) fun _ => (accept _).next afterReads

theorem decimalNumber (negative : Bool) :
    Reads document before (AllTexts p) (decimalNumber negative) := by
  refine (digitRun _).next fun whole => ?_
  extract_lets size finish next after
  have nextReads (fraction : List Char) : Reads document [] (AllTexts p) (next fraction) := by
    refine exponent?.next fun exponent => .ite (fun _ => integerOf _) fun _ => ?_
    exact .ite (fun _ => .fail_bind trivial _) fun _ => .pure .float
  have afterReads (checked : Unit) : Reads document [] (AllTexts p) (after checked) := by
    refine (accept _).next fun _ => .ite (fun _ => (digitRun _).next nextReads) fun _ => ?_
    exact .pure_bind (nextReads _)
  exact .ite (fun _ => .fail_bind trivial _) fun _ => afterReads ()

theorem basedInteger (base : Nat) : Reads document before (AllTexts p) (basedInteger base) :=
  (digitRun _).next fun _ => integerOf _

theorem number : Reads document before (AllTexts p) number := by
  refine (accept _).next fun _ => .ite (fun _ => basedInteger _) fun _ => ?_
  refine (accept _).next fun _ => .ite (fun _ => basedInteger _) fun _ => ?_
  refine (accept _).next fun _ => .ite (fun _ => basedInteger _) fun _ => ?_
  refine (accept _).next fun negative => ?_
  extract_lets after
  have afterReads (skipped : Unit) : Reads document [] (AllTexts p) (after skipped) := by
    refine (accept _).next fun _ => .ite (fun _ => .pure .float) fun _ => ?_
    exact (accept _).next fun _ => .ite (fun _ => .pure .float) fun _ => decimalNumber negative
  exact .ite (fun _ => afterReads ()) fun _ => (accept _).discard.next afterReads

/-! ### Tables -/

/-- The texts of a table that is being read come from a document. -/
def IsSpelled (document : List Char) (here : OpenTable) : Prop :=
  Members.AllTexts (SpelledText document) here.members

theorem isSpelled_empty (origin : TableOrigin) : IsSpelled document ⟨origin, []⟩ :=
  Members.AllTexts.nil

theorem alterTable (made : TableOrigin) {change : OpenTable → Except Fault OpenTable}
    (changes : ∀ here, IsSpelled document here →
      EndsWell (Fault.IsAbout document) (IsSpelled document) (change here))
    {path : List String} (isPath : ∀ name ∈ path, SpelledText document name) {here : OpenTable}
    (isHere : IsSpelled document here) :
    EndsWell (Fault.IsAbout document) (IsSpelled document) (alterTable made change path here) := by
  induction path generalizing here with
  | nil => exact changes here isHere
  | cons name path ih =>
      obtain ⟨isName, others⟩ := List.forall_mem_cons.mp isPath
      rw [Toml.alterTable]
      split
      · exact (ih others (isSpelled_empty made)).bind fun inner isInner =>
          .pure (isHere.append_one isName (allTexts_table_iff.mpr isInner))
      · rename_i found
        refine .ite (.error isName) (.ite (.error isName) ?_)
        exact (ih others (allTexts_table_iff.mp (isHere.lookup found))).bind fun inner isInner =>
          .pure (isHere.setMember isName (allTexts_table_iff.mpr isInner))
      · rename_i elements found
        have areElements := allTexts_tables_iff.mp (isHere.lookup found)
        split
        · exact .error isName
        · rename_i last before split
          have isElement {members : Members} (member : members ∈ last :: before) :
              Members.AllTexts (SpelledText document) members :=
            areElements members (List.mem_reverse.mp (split ▸ member))
          refine (ih others (isElement List.mem_cons_self)).bind fun inner isInner => .pure ?_
          refine isHere.setMember isName (allTexts_tables_iff.mpr ?_)
          refine List.forall_mem_append.mpr ⟨fun members member => ?_,
            List.forall_mem_singleton.mpr isInner⟩
          exact isElement (List.mem_cons_of_mem _ (List.mem_reverse.mp member))
      · exact .error isName

section

variable {key : Key} {here : OpenTable}

theorem names_of_isSpelled (isKey : key.IsSpelled document) :
    (∀ name ∈ key.path, SpelledText document name) ∧ SpelledText document key.name := by
  obtain ⟨path, name⟩ := List.forall_mem_append.mp isKey
  exact ⟨path, name key.name List.mem_cons_self⟩

theorem insertValue {value : Toml} (isKey : key.IsSpelled document)
    (isValue : value.AllTexts (SpelledText document)) (isHere : IsSpelled document here) :
    EndsWell (Fault.IsAbout document) (IsSpelled document) (insertValue key value here) := by
  obtain ⟨path, name⟩ := names_of_isSpelled isKey
  refine alterTable _ (fun here isHere => ?_) path isHere
  exact .ite (.error name) (.ite (.error name) (.ok (isHere.append_one name isValue)))

theorem openTable (isKey : key.IsSpelled document) (isHere : IsSpelled document here) :
    EndsWell (Fault.IsAbout document) (IsSpelled document) (openTable key here) := by
  obtain ⟨path, name⟩ := names_of_isSpelled isKey
  refine alterTable _ (fun here isHere => ?_) path isHere
  split
  · exact .ok (isHere.append_one name (allTexts_table_iff.mpr .nil))
  · rename_i found
    have inside := allTexts_table_iff.mp (isHere.lookup found)
    exact .ok (isHere.setMember name (allTexts_table_iff.mpr inside))
  · exact .error name

theorem openElement (isKey : key.IsSpelled document) (isHere : IsSpelled document here) :
    EndsWell (Fault.IsAbout document) (IsSpelled document) (openElement key here) := by
  obtain ⟨path, name⟩ := names_of_isSpelled isKey
  refine alterTable _ (fun here isHere => ?_) path isHere
  split
  · exact .ok (isHere.append_one name
      (allTexts_tables_iff.mpr (List.forall_mem_singleton.mpr .nil)))
  · rename_i found
    have inside := allTexts_tables_iff.mp (isHere.lookup found)
    exact .ok (isHere.setMember name (allTexts_tables_iff.mpr
      (List.forall_mem_append.mpr ⟨inside, List.forall_mem_singleton.mpr .nil⟩)))
  · exact .error name

end

/-! ### Values -/

theorem arrayRest {value : Reader Toml}
    (isValue : Reads document [] (AllTexts (SpelledText document)) value) :
    Reads document before (AllTexts (SpelledText document)) (arrayRest value) := by
  refine .iterate (fun items : List Toml => ∀ item ∈ items, item.AllTexts (SpelledText document))
    (fun items areItems => ?_) (by trivial) (List.forall_mem_nil _)
  refine (skipLines true).next fun _ => (accept _).next fun _ => .ite (fun _ => ?_) fun _ => ?_
  · exact .pure (.array areItems)
  refine isValue.bind fun item isItem => (skipLines true).next fun _ => (accept _).next fun _ => ?_
  have longer : ∀ other ∈ items ++ [item], other.AllTexts (SpelledText document) :=
    List.forall_mem_append.mpr ⟨areItems, List.forall_mem_singleton.mpr isItem⟩
  exact .ite (fun _ => .pure longer) fun _ => (expect _).next fun _ => .pure (.array longer)

theorem keyValue {value : Reader Toml}
    (isValue : Reads document [] (AllTexts (SpelledText document)) value) :
    Reads document before
      (fun member => member.1.IsSpelled document ∧ member.2.AllTexts (SpelledText document))
      (keyValue value) :=
  key.bind fun _ isKey => (expect _).next fun _ => blanks.next fun _ =>
    isValue.bind fun _ isGood => .pure ⟨isKey, isGood⟩

theorem tableRest {value : Reader Toml}
    (isValue : Reads document [] (AllTexts (SpelledText document)) value) :
    Reads document before (AllTexts (SpelledText document)) (tableRest value) := by
  refine blanks.next fun _ => (accept _).next fun _ => .ite (fun _ => .pure ?_) fun _ => ?_
  · exact allTexts_table_iff.mpr .nil
  refine .iterate (IsSpelled document)
    (fun table isTable => (keyValue isValue).bind fun member isMember => blanks.next fun _ => ?_)
    (by trivial) (isSpelled_empty _)
  refine .bind (.decided (insertValue isMember.1 isMember.2 isTable)) fun table isLonger => ?_
  refine (accept _).next fun _ => .ite (fun _ => .pure isLonger) fun _ => ?_
  exact (expect _).next fun _ => .pure (allTexts_table_iff.mpr isLonger)

theorem valueWith {array table : Reader Toml}
    (isArray : Reads document [] (AllTexts (SpelledText document)) array)
    (isTable : Reads document [] (AllTexts (SpelledText document)) table) :
    Reads document before (AllTexts (SpelledText document)) (valueWith array table) := by
  refine peek.next fun next => ?_
  split
  · exact (text (by decide)).bind fun _ isText => .pure (.string isText)
  · exact (text (by decide)).bind fun _ isText => .pure (.string isText)
  · exact Scan.Reads.take.discard.next fun _ => isArray
  · exact Scan.Reads.take.discard.next fun _ => isTable
  · exact (expect _).next fun _ => .pure (.bool true)
  · exact (expect _).next fun _ => .pure (.bool false)
  · refine dateTime?.bind fun date isDate => ?_
    split
    · exact .pure (isDate _ rfl)
    · exact number

theorem value (levels : Nat) :
    Reads document [] (AllTexts (SpelledText document)) (value levels) := by
  induction levels with
  | zero => exact valueWith (.fail trivial) (.fail trivial)
  | succ levels ih => exact valueWith (arrayRest ih) (tableRest ih)

/-! ### Lines -/

/-- The texts of a document that is being read come from it. -/
structure IsReading (document : List Char) (reading : Reading) : Prop where
  table : IsSpelled document reading.document
  header : ∀ name ∈ reading.header, SpelledText document name

variable {reading : Reading}

theorem insert (isReading : IsReading document reading) {key : Key} {value : Toml}
    (isKey : key.IsSpelled document) (isValue : value.AllTexts (SpelledText document)) :
    EndsWell (Fault.IsAbout document) (IsReading document) (reading.insert key value) :=
  (alterTable _ (fun _ isHere => insertValue isKey isValue isHere) isReading.header
    isReading.table).bind fun _ isLonger => .pure ⟨isLonger, isReading.header⟩

theorem enter (isReading : IsReading document reading) {key : Key}
    (isKey : key.IsSpelled document) (several : Bool) :
    EndsWell (Fault.IsAbout document) (IsReading document) (reading.enter key several) := by
  refine .ite ?_ ?_
  · exact (openElement isKey isReading.table).bind fun _ isLonger => .pure ⟨isLonger, isKey⟩
  · exact (openTable isKey isReading.table).bind fun _ isLonger => .pure ⟨isLonger, isKey⟩

theorem headerRest (isReading : IsReading document reading) :
    Reads document before (IsReading document) (headerRest reading) := by
  refine (accept _).next fun several => key.bind fun name isKey => (expect _).next fun _ => ?_
  exact lineEnd.next fun _ => .decided (enter isReading isKey several)

theorem line (isReading : IsReading document reading) :
    Reads document before (IsReading document) (line reading) := by
  refine (accept _).next fun _ => .ite (fun _ => headerRest isReading) fun _ => ?_
  refine (keyValue (value _)).bind fun member isMember => lineEnd.next fun _ => ?_
  exact .decided (insert isReading isMember.1 isMember.2)

theorem lines : Reads document before (Members.AllTexts (SpelledText document)) lines := by
  refine .iterate (IsReading document)
    (fun reading isReading => (skipLines true).next fun _ => peek.next fun next => ?_)
    (by trivial) ⟨isSpelled_empty _, List.forall_mem_nil _⟩
  refine .ite (fun _ => .pure isReading.table) fun _ => ?_
  exact (line isReading).bind fun _ isLater => .pure isLater

end Reads

/-- The texts of a document that can be read come from it, and so does what is told of one that
cannot be read. -/
theorem ends_read (document : String) :
    EndsWell (Fault.IsAbout document.toList) (Members.AllTexts (SpelledText document.toList))
      (read document) := by
  have reads : Reads document.toList [] (Members.AllTexts (SpelledText document.toList))
      (do discard (Scan.accept ['\ufeff']); lines) :=
    (Scan.Reads.accept _).discard.next fun _ => Reads.lines
  exact reads.ends_run

end TaskQuery.Toml

/-
# Plain lines of the log

A record tells of paths, characters, patterns and fields, so it is plain if what a run was
given is. Whether its line is plain is up to the library. Of that only this is taken for
granted: where codes are wanted there are some in every line, and where they are not a line
has none but those of the record.

So one line decides about all of them. Among other text a log whose records are plain leaves
the text as plain as it is where codes are not wanted, and only where it is empty if they are.
-/

import TaskQuery.Proofs.PlainReports
import TaskQuery.Proofs.RunLog

namespace TaskQuery

/-! ## Lines -/

/-- What is said of the library of a log: its lines have codes exactly where they are wanted. -/
structure LogLibrary.IsDocumented (library : LogLibrary) : Prop where
  codes : ∀ level message fields, ¬ IsPlain (library.line true level message fields)
  plain : ∀ level message fields, IsPlain message →
    (∀ field ∈ fields, IsPlain field.1 ∧ IsPlain field.2) →
      IsPlain (library.line false level message fields)

namespace LogLibrary

theorem not_isPlain_setOff (code text : String) : ¬ IsPlain (setOff true code text) := by
  rw [setOff, if_pos rfl]
  exact fun plain => not_isPlain_control code plain.of_append.of_append

theorem isDocumented_usual : usual.IsDocumented where
  codes level message fields plain :=
    not_isPlain_setOff (levelCode level) (Text.padLeft 5 level.name)
      plain.of_append.of_append.of_append.of_append
  plain level message fields isMessage areFields := by
    have isName : IsPlain level.name := by cases level <;> exact .literal rfl
    refine .append (.append (.append (.append (isName.padLeft 5) (.literal rfl)) isMessage)
      (.join_map fun field member => ?_)) (.literal rfl)
    obtain ⟨isField, isText⟩ := areFields field member
    exact .append (.append (.append (.literal rfl) isField) (.literal rfl)) isText

end LogLibrary

/-- The texts of a record are plain. -/
def LogRecord.IsPlain [Pattern.Wording] (record : LogRecord) : Prop :=
  ∀ field ∈ record.fields, TaskQuery.IsPlain field.1 ∧ TaskQuery.IsPlain field.2

/-- The line of a plain record has codes exactly where they are wanted. -/
theorem LogLibrary.IsDocumented.isPlain_recordLine_iff [Pattern.Wording] {library : LogLibrary}
    (documented : library.IsDocumented) {record : LogRecord} (plain : record.IsPlain)
    (codes : Bool) : IsPlain (library.recordLine codes record) ↔ codes = false := by
  have isMessage : IsPlain record.message := by cases record <;> exact .literal rfl
  cases codes with
  | true => exact iff_of_false (documented.codes _ _ _) Bool.noConfusion
  | false => exact iff_of_true (documented.plain _ _ _ isMessage plain) rfl

/-- Without a line in it a log leaves what is written as it is. -/
theorem Output.withLog_nil (output : Output) (line : LogRecord → String) :
    output.withLog line [] = output := by
  rw [withLog]
  simp

/-- The lines of a log stand on both sides of what is said besides, and each of them counts. -/
theorem Output.isPlain_withLog_iff {output : Output} {line : LogRecord → String}
    {log : List LogRecord} {codes : Bool}
    (decides : ∀ record ∈ log, IsPlain (line record) ↔ codes = false) :
    IsPlain (output.withLog line log).stderr ↔
      IsPlain output.stderr ∧ (codes = false ∨ log = []) := by
  have lines : (∀ record ∈ log, IsPlain (line record)) ↔ codes = false ∨ log = [] := by
    cases log with
    | nil => exact iff_of_true (List.forall_mem_nil _) (Or.inr rfl)
    | cons record others =>
        rw [or_iff_left (List.cons_ne_nil record others)]
        exact ⟨fun all => (decides record List.mem_cons_self).mp (all record List.mem_cons_self),
          fun noCodes other member => (decides other member).mpr noCodes⟩
  rw [← lines, withLog, IsPlain.append_iff, IsPlain.append_iff, IsPlain.join_iff, IsPlain.join_iff,
    List.forall_mem_map, List.forall_mem_map]
  constructor
  · rintro ⟨⟨early, isText⟩, late⟩
    refine ⟨isText, fun record member => ?_⟩
    cases ofResult : record.isOfResult with
    | false => exact early record (List.mem_filter.mpr ⟨member, by rw [ofResult]; rfl⟩)
    | true => exact late record (List.mem_filter.mpr ⟨member, ofResult⟩)
  · rintro ⟨isText, all⟩
    exact ⟨⟨fun record member => all record (List.mem_of_mem_filter member), isText⟩,
      fun record member => all record (List.mem_of_mem_filter member)⟩

/-! ## Records -/

section

variable [Pattern.Wording]

theorem isPlain_of_mem_readingRecords {input : String} (plain : IsPlain input)
    {record : LogRecord} (member : record ∈ readingRecords input) : record.IsPlain := by
  obtain ⟨stray, skipped, rfl⟩ := exists_of_mem_readingRecords member
  have isStray := (isPlain_tokenize plain).strays stray skipped
  exact List.forall_mem_cons.mpr ⟨⟨.literal rfl, .singleton isStray⟩,
    List.forall_mem_singleton.mpr ⟨.literal rfl, isPlain_nat _⟩⟩

theorem isPlain_of_mem_resultRecords (refuses : Pattern.RefusesPlainly) {prepared : PreparedQuery}
    (plain : prepared.query.IsPlain) {setting : Setting} {tasks : List Task} {record : LogRecord}
    (member : record ∈ prepared.resultRecords setting tasks) : record.IsPlain := by
  rcases PreparedQuery.of_mem_resultRecords member with
    ⟨pattern, fault, rfl, isPattern, refused⟩ | ⟨_, _, _, rfl⟩ | ⟨field, given, buckets, rfl⟩
  · have reason := refuses.reason (plain.pattern isPattern) (Pattern.fault?_eq_some_iff.mp refused)
    exact List.forall_mem_cons.mpr ⟨⟨.literal rfl, isPlain_quote pattern⟩,
      List.forall_mem_singleton.mpr ⟨.literal rfl, reason⟩⟩
  · exact List.forall_mem_cons.mpr ⟨⟨.literal rfl, isPlain_nat _⟩,
      List.forall_mem_cons.mpr ⟨⟨.literal rfl, isPlain_nat _⟩,
        List.forall_mem_singleton.mpr ⟨.literal rfl, isPlain_nat _⟩⟩⟩
  · exact List.forall_mem_cons.mpr ⟨⟨.literal rfl, plain.group field given⟩,
      List.forall_mem_singleton.mpr ⟨.literal rfl, isPlain_nat _⟩⟩

end

end TaskQuery

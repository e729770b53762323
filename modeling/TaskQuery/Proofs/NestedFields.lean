/-
# Nested fields

A field that the record does not have is looked up in the properties of a task. Its name is a
path, with one segment between dots for each level of objects. The rules that say what such a
name stands for are laid down here as relations, one for each step on the way: the segments of
the name, the value at the end of the path, and what of a value counts for a field. They agree
with the functions that follow the path, for names of any length and values of any depth.
-/

import TaskQuery.Query.Vocabulary

namespace TaskQuery

/-! ## Segments -/

/-- The segments are what stands between the dots of a name. There is one more of them than
there are dots, and any of them may be empty. -/
structure IsPath (name : String) (segments : List String) : Prop where
  nonempty : segments ≠ []
  whole : ".".intercalate segments = name
  dotless : ∀ segment ∈ segments, '.' ∉ segment.toList

theorem not_mem_of_mem_splitOn {cs part : List Char} {separator : Char}
    (member : part ∈ cs.splitOn separator) : separator ∉ part := by
  induction cs generalizing part with
  | nil =>
      rw [List.splitOn_nil, List.mem_singleton] at member
      rw [member]
      exact List.not_mem_nil
  | cons c cs ih =>
      rw [List.splitOn_cons_eq_if_modifyHead] at member
      split at member
      · rcases List.mem_cons.mp member with rfl | later
        · exact List.not_mem_nil
        · exact ih later
      · rename_i other
        cases parts : cs.splitOn separator with
        | nil => exact absurd parts (List.splitOn_ne_nil separator cs)
        | cons first others =>
            rw [parts] at member ih
            rcases List.mem_cons.mp member with rfl | later
            · have noSeparator : separator ≠ c := fun same => other (beq_iff_eq.mpr same.symm)
              exact List.not_mem_cons_of_ne_of_not_mem noSeparator (ih List.mem_cons_self)
            · exact ih (List.mem_cons_of_mem _ later)

/-- A name has its segments in one way only. -/
theorem isPath_iff {name : String} {segments : List String} :
    IsPath name segments ↔ pathSegments name = segments := by
  constructor
  · rintro ⟨nonempty, rfl, dotless⟩
    have apart : ∀ part ∈ segments.map String.toList, '.' ∉ part :=
      List.forall_mem_map.mpr dotless
    have characters : (".".intercalate segments).toList =
        ['.'].intercalate (segments.map String.toList) :=
      String.toList_intercalate
    rw [pathSegments, characters, List.splitOn_intercalate '.' apart (by simpa using nonempty)]
    simp
  · rintro rfl
    have texts : (pathSegments name).map String.toList = name.toList.splitOn '.' := by
      simp [pathSegments, Function.comp_def]
    refine ⟨by simp [pathSegments, List.splitOn_ne_nil], ?_, fun segment member => ?_⟩
    · apply String.toList_inj.mp
      rw [String.toList_intercalate, texts]
      exact List.intercalate_splitOn '.'
    · have isPart : segment.toList ∈ name.toList.splitOn '.' :=
        texts ▸ List.mem_map_of_mem member
      exact not_mem_of_mem_splitOn isPart

/-! ## Values -/

/-- The text of a value that is a text, a truth value or a number. -/
inductive ScalarText : Json → String → Prop
  | string (text : String) : ScalarText (.string text) text
  | isTrue : ScalarText (.bool true) "true"
  | isFalse : ScalarText (.bool false) "false"
  | number (number : JsonNumber) : ScalarText (.number number) number.text

/-- The texts of those values in a list that have one, in their order. -/
inductive ScalarTexts : List Json → List String → Prop
  | nil : ScalarTexts [] []
  | scalar {item : Json} {items : List Json} {text : String} {texts : List String}
      (isText : ScalarText item text) (others : ScalarTexts items texts) :
      ScalarTexts (item :: items) (text :: texts)
  | other {item : Json} {items : List Json} {texts : List String}
      (noText : ∀ text, ¬ ScalarText item text) (others : ScalarTexts items texts) :
      ScalarTexts (item :: items) texts

/-- What a property of some value is for a field. -/
inductive StandsFor : Json → FieldValue → Prop
  | text {value : Json} {text : String} (isText : ScalarText value text) :
      StandsFor value (.text text)
  | list {items : List Json} {texts : List String} (areTexts : ScalarTexts items texts) :
      StandsFor (.array items) (.list texts)
  | null : StandsFor .null .missing
  | object (members : List (String × Json)) : StandsFor (.object members) .missing

theorem scalarText_iff {value : Json} {text : String} :
    ScalarText value text ↔ FieldValue.scalarText? value = some text := by
  constructor
  · rintro (_ | _ | _ | _) <;> rfl
  · intro isText
    rcases value with _ | (_ | _) | _ | _ | _ | _ <;> cases isText <;> constructor

theorem scalarTexts_iff {items : List Json} {texts : List String} :
    ScalarTexts items texts ↔ items.filterMap FieldValue.scalarText? = texts := by
  constructor
  · intro areTexts
    induction areTexts with
    | nil => rfl
    | scalar isText _ ih => rw [List.filterMap_cons_some (scalarText_iff.mp isText), ih]
    | other noText _ ih =>
        have none := Option.eq_none_iff_forall_ne_some.mpr fun text isText =>
          noText text (scalarText_iff.mpr isText)
        rw [List.filterMap_cons_none none, ih]
  · rintro rfl
    induction items with
    | nil => exact .nil
    | cons item items ih =>
        cases isText : FieldValue.scalarText? item with
        | none =>
            rw [List.filterMap_cons_none isText]
            refine .other (fun text other => ?_) ih
            rw [scalarText_iff.mp other] at isText
            cases isText
        | some text =>
            rw [List.filterMap_cons_some isText]
            exact .scalar (scalarText_iff.mpr isText) ih

theorem standsFor_iff {value : Json} {held : FieldValue} :
    StandsFor value held ↔ FieldValue.ofJson value = held := by
  constructor
  · rintro (isText | areTexts | _ | _)
    · cases isText <;> rfl
    · exact congrArg FieldValue.list (scalarTexts_iff.mp areTexts)
    · rfl
    · rfl
  · rintro rfl
    rcases value with _ | (_ | _) | number | text | items | members
    · exact .null
    · exact .text .isFalse
    · exact .text .isTrue
    · exact .text (.number number)
    · exact .text (.string text)
    · exact .list (scalarTexts_iff.mpr rfl)
    · exact .object members

/-! ## Paths -/

namespace Json

/-- A path leads from one value to another through the members of objects. -/
inductive LeadsTo : Json → List String → Json → Prop
  | here (value : Json) : LeadsTo value [] value
  | inside {members : List (String × Json)} {name : String} {inner result : Json}
      {path : List String} (member : members.lookup name = some inner)
      (leads : LeadsTo inner path result) : LeadsTo (object members) (name :: path) result

/-- A path comes to a segment that is absent, or to a value that is no object before its
last segment. -/
inductive LeadsNowhere : Json → List String → Prop
  | absent {members : List (String × Json)} {name : String}
      (isAbsent : members.lookup name = none) (path : List String) :
      LeadsNowhere (object members) (name :: path)
  | noObject {value : Json} (isNoObject : ∀ members, value ≠ object members) (name : String)
      (path : List String) : LeadsNowhere value (name :: path)
  | inside {members : List (String × Json)} {name : String} {inner : Json} {path : List String}
      (member : members.lookup name = some inner) (leads : LeadsNowhere inner path) :
      LeadsNowhere (object members) (name :: path)

variable {value result : Json} {path : List String}

theorem follow?_object_cons (members : List (String × Json)) (name : String)
    (path : List String) :
    (object members).follow? (name :: path) =
      (members.lookup name).bind fun inner => inner.follow? path :=
  rfl

theorem follow?_cons_of_no_object (isNoObject : ∀ members, value ≠ object members)
    (name : String) (path : List String) : value.follow? (name :: path) = none := by
  cases value with
  | object members => exact absurd rfl (isNoObject members)
  | _ => rfl

theorem leadsTo_iff : value.LeadsTo path result ↔ value.follow? path = some result := by
  constructor
  · intro leads
    induction leads with
    | here value => rfl
    | inside member _ ih => rw [follow?_object_cons, member, Option.bind_some, ih]
  · intro followed
    induction path generalizing value with
    | nil =>
        obtain rfl := Option.some.inj followed
        exact .here value
    | cons name path ih =>
        cases value with
        | object members =>
            rw [follow?_object_cons] at followed
            obtain ⟨inner, member, followed⟩ := Option.bind_eq_some_iff.mp followed
            exact .inside member (ih followed)
        | _ => cases followed

theorem leadsNowhere_iff : value.LeadsNowhere path ↔ value.follow? path = none := by
  constructor
  · intro leads
    induction leads with
    | absent isAbsent path => rw [follow?_object_cons, isAbsent, Option.bind_none]
    | noObject isNoObject name path => exact follow?_cons_of_no_object isNoObject name path
    | inside member _ ih => rw [follow?_object_cons, member, Option.bind_some, ih]
  · intro followed
    induction path generalizing value with
    | nil => cases followed
    | cons name path ih =>
        cases value with
        | object members =>
            rw [follow?_object_cons] at followed
            cases member : members.lookup name with
            | none => exact .absent member path
            | some inner =>
                rw [member] at followed
                exact .inside member (ih followed)
        | _ => exact .noObject (fun members same => by cases same) name path

end Json

/-! ## Fields -/

namespace Task

/-- What a field of a task is, by its canonical name. A field of the record hides the
properties of its name and everything inside them. -/
inductive FieldIs (task : Task) (name : String) : FieldValue → Prop
  | record {value : FieldValue} (isField : name ∈ recordFields)
      (holds : task.recordField? name = some value) : FieldIs task name value
  | insideRecord {first : String} {others : List String} (noField : name ∉ recordFields)
      (path : IsPath name (first :: others)) (inRecord : first ∈ recordFields) :
      FieldIs task name .missing
  | nowhere {first : String} {others : List String} (noField : name ∉ recordFields)
      (path : IsPath name (first :: others)) (outside : first ∉ recordFields)
      (leads : (Json.object task.properties).LeadsNowhere (first :: others)) :
      FieldIs task name .missing
  | property {first : String} {others : List String} {result : Json} {value : FieldValue}
      (noField : name ∉ recordFields) (path : IsPath name (first :: others))
      (outside : first ∉ recordFields)
      (leads : (Json.object task.properties).LeadsTo (first :: others) result)
      (stands : StandsFor result value) : FieldIs task name value

variable {task : Task} {name : String}

theorem isSome_recordField?_iff (task : Task) (name : String) :
    (task.recordField? name).isSome ↔ name ∈ recordFields := by
  rw [recordField?.eq_def]
  split <;> simp_all [recordFields]

theorem recordField?_with_properties (task : Task) (properties : List (String × Json))
    (name : String) : { task with properties }.recordField? name = task.recordField? name := by
  rw [recordField?.eq_def, recordField?.eq_def]

theorem fieldValue_of_not_mem {first : String} {others : List String}
    (noField : name ∉ recordFields) (path : IsPath name (first :: others)) :
    task.fieldValue name = task.property (first :: others) := by
  have noRecord : task.recordField? name = none := by
    rw [← Option.not_isSome_iff_eq_none, isSome_recordField?_iff]
    exact noField
  rw [fieldValue, noRecord, isPath_iff.mp path]

theorem FieldIs.fieldValue_eq {value : FieldValue} (fieldIs : task.FieldIs name value) :
    task.fieldValue name = value := by
  cases fieldIs with
  | record _ holds => rw [fieldValue, holds]
  | insideRecord noField path inRecord =>
      rw [fieldValue_of_not_mem noField path, Task.property, if_pos (by simpa using inRecord)]
  | nowhere noField path outside leads =>
      rw [fieldValue_of_not_mem noField path, Task.property, if_neg (by simpa using outside),
        Json.leadsNowhere_iff.mp leads]
      rfl
  | property noField path outside leads stands =>
      rw [fieldValue_of_not_mem noField path, Task.property, if_neg (by simpa using outside),
        Json.leadsTo_iff.mp leads]
      exact standsFor_iff.mp stands

/-- The rules say of every field what it is. -/
theorem fieldIs_fieldValue (task : Task) (name : String) :
    task.FieldIs name (task.fieldValue name) := by
  by_cases isField : name ∈ recordFields
  · have isPresent := (isSome_recordField?_iff task name).mpr isField
    obtain ⟨value, holds⟩ := Option.isSome_iff_exists.mp isPresent
    rw [fieldValue, holds]
    exact .record isField holds
  · have isPath : IsPath name (pathSegments name) := isPath_iff.mpr rfl
    cases segments : pathSegments name with
    | nil => exact absurd segments isPath.nonempty
    | cons first others =>
        rw [segments] at isPath
        by_cases inRecord : first ∈ recordFields
        · have missing : task.FieldIs name .missing := .insideRecord isField isPath inRecord
          rwa [missing.fieldValue_eq]
        · cases followed : (Json.object task.properties).follow? (first :: others) with
          | none =>
              have missing : task.FieldIs name .missing :=
                .nowhere isField isPath inRecord (Json.leadsNowhere_iff.mpr followed)
              rwa [missing.fieldValue_eq]
          | some result =>
              have found : task.FieldIs name (.ofJson result) :=
                .property isField isPath inRecord (Json.leadsTo_iff.mpr followed)
                  (standsFor_iff.mpr rfl)
              rwa [found.fieldValue_eq]

theorem fieldIs_iff {value : FieldValue} :
    task.FieldIs name value ↔ task.fieldValue name = value := by
  constructor
  · exact FieldIs.fieldValue_eq
  · rintro rfl
    exact fieldIs_fieldValue task name

end Task

/-- A field by any of its names is what the rules say of its canonical name. That of a record
field does not depend on the properties. -/
theorem resolve_eq_iff_fieldIs (vocabulary : Vocabulary) (task : Task) (name : String) :
    (∀ value, vocabulary.resolve task name = value ↔
      task.FieldIs (vocabulary.canonicalField name) value) ∧
      (vocabulary.canonicalField name ∈ recordFields → ∀ properties,
        vocabulary.resolve { task with properties } name = vocabulary.resolve task name) := by
  refine ⟨fun value => Task.fieldIs_iff.symm, fun isField properties => ?_⟩
  obtain ⟨value, holds⟩ :=
    Option.isSome_iff_exists.mp ((task.isSome_recordField?_iff _).mpr isField)
  rw [Vocabulary.resolve, Vocabulary.resolve, Task.fieldValue, Task.fieldValue,
    task.recordField?_with_properties, holds]

/-- An alias leads to a number two levels deep, and a property that is called like a field of
the record stays out of sight. -/
theorem resolve_eq_iff_fieldIs_estimate :
    let vocabulary := Vocabulary.default.withAlias "estimate" "meta.estimate"
    let task : Task := {
      id := "a", tags := ["x"],
      properties := [("meta", .object [("estimate", .number (.integer 3))]), ("tags", .null)] }
    vocabulary.resolve task "Estimate" = .text "3" ∧
      vocabulary.canonicalField "Tags" ∈ recordFields ∧
        ∀ properties, vocabulary.resolve { task with properties } "Tags" = .list ["x"] := by
  intro vocabulary task
  have isAlias : vocabulary.canonicalField "Estimate" = "meta.estimate" := by decide +kernel
  have canonical : vocabulary.canonicalField "Tags" = "tags" := by decide +kernel
  have isField : vocabulary.canonicalField "Tags" ∈ recordFields := by
    rw [canonical]
    decide
  have path : IsPath "meta.estimate" ["meta", "estimate"] := isPath_iff.mpr (by decide +kernel)
  have leads : (Json.object task.properties).LeadsTo ["meta", "estimate"] (.number (.integer 3)) :=
    .inside rfl (.inside rfl (.here _))
  have estimate : task.FieldIs "meta.estimate" (.text "3") :=
    .property (by decide) path (by decide) leads (.text (.number (.integer 3)))
  have tags : task.FieldIs "tags" (.list ["x"]) := .record (by decide) rfl
  refine ⟨((resolve_eq_iff_fieldIs vocabulary task "Estimate").1 _).mpr (isAlias ▸ estimate),
    isField, fun properties => ?_⟩
  obtain ⟨holds, same⟩ := resolve_eq_iff_fieldIs vocabulary task "Tags"
  exact (same isField properties).trans ((holds _).mpr (canonical ▸ tags))

end TaskQuery

/-
# Plain tasks and settings

What a run is told in files is a list of tasks and some settings. They are plain if the
documents are from which they are read, unless a document spells the character that codes start
with. And a document that is neither is reported in plain words, as far as the names in it go.
-/

import TaskQuery.Proofs.PlainJson
import TaskQuery.Proofs.PlainReports
import TaskQuery.Proofs.PlainToml
import TaskQuery.Proofs.Records

namespace TaskQuery

/-! ## Tasks -/

namespace Json

variable {p : String → Prop} {members : List (String × Json)} {value : Json}

namespace AllMembers

theorem lookup (all : AllMembers p members) {name : String}
    (found : members.lookup name = some value) : value.AllTexts p := by
  obtain ⟨before, behind, rfl, -⟩ := List.lookup_eq_some_iff.mp found
  exact (all (name, value) (List.mem_append_right _ List.mem_cons_self)).2

theorem insertMember {name : String} (isName : p name) (isValue : value.AllTexts p)
    (all : AllMembers p members) : AllMembers p (insertMember name value members) := by
  have added : p name ∧ value.AllTexts p := ⟨isName, isValue⟩
  induction members with
  | nil => exact List.forall_mem_singleton.mpr added
  | cons entry rest ih =>
      obtain ⟨isEntry, isRest⟩ := List.forall_mem_cons.mp all
      rw [Json.insertMember]
      split
      · exact List.forall_mem_cons.mpr ⟨added, all⟩
      split
      · exact List.forall_mem_cons.mpr ⟨added, isRest⟩
      · exact List.forall_mem_cons.mpr ⟨isEntry, ih isRest⟩

theorem sortMembers (all : AllMembers p members) : AllMembers p (sortMembers members) :=
  List.foldlRecOn members _ (List.forall_mem_nil _) fun _ sorted entry member =>
    insertMember (all entry member).1 (all entry member).2 sorted

end AllMembers

/-- The normal form of a value has no further texts. -/
theorem AllTexts.normal (all : value.AllTexts p) : value.normal.AllTexts p := by
  induction all with
  | null => exact .null
  | bool value => exact .bool value
  | number value => exact .number value
  | string holds => exact .string holds
  | array _ ih =>
      rw [Json.normal, normalItems_eq_map]
      exact .array (List.forall_mem_map.mpr ih)
  | object names _ ih =>
      rw [Json.normal, normalMembers_eq_map]
      refine allTexts_object_iff.mpr (AllMembers.sortMembers (List.forall_mem_map.mpr ?_))
      exact fun entry member => ⟨names entry member, ih entry member⟩

theorem AllTexts.follow? (all : value.AllTexts p) {path : List String} {inner : Json}
    (leads : value.follow? path = some inner) : inner.AllTexts p := by
  induction path generalizing value with
  | nil => exact Option.some.inj leads ▸ all
  | cons name path ih =>
      obtain ⟨next, found, rest⟩ := Option.bind_eq_some_iff.mp leads
      refine ih ?_ rest
      cases value with
      | object members => exact AllMembers.lookup (allTexts_object_iff.mp all) found
      | _ => cases found

end Json

open Json

namespace FieldValue

theorem isPlain_of_scalarText? {value : Json} (plain : value.AllTexts TaskQuery.IsPlain)
    {text : String} (isText : scalarText? value = some text) : TaskQuery.IsPlain text := by
  cases value with
  | string value =>
      cases isText
      exact allTexts_string_iff.mp plain
  | bool value =>
      cases isText
      cases value <;> exact .literal rfl
  | number value =>
      cases isText
      exact value.isPlain_text
  | null | array | object => cases isText

theorem isPlain_ofOption {text : Option String} (plain : PlainIfGiven text) :
    (ofOption text).IsPlain := by
  cases text with
  | none => trivial
  | some text => exact plain text rfl

theorem isPlain_ofJson {value : Json} (plain : value.AllTexts TaskQuery.IsPlain) :
    (ofJson value).IsPlain := by
  cases value with
  | array items =>
      intro text member
      obtain ⟨item, isItem, isText⟩ := List.mem_filterMap.mp member
      exact isPlain_of_scalarText? (allTexts_array_iff.mp plain item isItem) isText
  | _ => exact isPlain_ofOption fun text isText => isPlain_of_scalarText? plain isText

end FieldValue

namespace Task

variable {members : List (String × Json)} {task : Task} {given : Option Json}

/-- What stands under the name of a field is plain. -/
def PlainGiven (given : Option Json) : Prop :=
  ∀ value ∈ given, value.AllTexts TaskQuery.IsPlain

theorem isPlain_required (plain : PlainGiven given) {text : String}
    (reads : FieldPolicy.required.read given = some text) : TaskQuery.IsPlain text := by
  obtain ⟨value, isValue, isText⟩ := Option.bind_eq_some_iff.mp reads
  cases value with
  | string value =>
      cases isText
      exact allTexts_string_iff.mp (plain _ isValue)
  | _ => cases isText

theorem isPlain_text (plain : PlainGiven given) {text : String}
    (reads : FieldPolicy.text.read given = some text) : TaskQuery.IsPlain text := by
  cases given with
  | none =>
      cases reads
      exact .literal rfl
  | some value => exact isPlain_required plain reads

theorem isPlain_optional (plain : PlainGiven given) {text : Option String}
    (reads : FieldPolicy.optional.read given = some text) : PlainIfGiven text := by
  cases given with
  | none =>
      cases reads
      exact plainIfGiven_none
  | some value =>
      cases value with
      | null =>
          cases reads
          exact plainIfGiven_none
      | string value =>
          cases reads
          exact plainIfGiven_some (allTexts_string_iff.mp (plain _ rfl))
      | _ => cases reads

theorem isPlain_list (plain : PlainGiven given) {texts : List String}
    (reads : FieldPolicy.list.read given = some texts) :
    ∀ text ∈ texts, TaskQuery.IsPlain text := by
  cases given with
  | none =>
      cases reads
      exact List.forall_mem_nil _
  | some value =>
      obtain ⟨items, areItems, areTexts⟩ := Option.bind_eq_some_iff.mp reads
      cases value with
      | array items =>
          cases areItems
          rw [FieldPolicy.mapM_text?_eq_some_iff] at areTexts
          subst areTexts
          intro text member
          have inside := allTexts_array_iff.mp (plain _ rfl)
          exact allTexts_string_iff.mp (inside _ (List.mem_map_of_mem member))
      | _ => cases areItems

theorem isPlain_property (plain : AllMembers TaskQuery.IsPlain task.properties)
    (path : List String) : (task.property path).IsPlain := by
  cases path with
  | nil => trivial
  | cons first path =>
      rw [property]
      split
      · trivial
      · cases leads : (Json.object task.properties).follow? (first :: path) with
        | none => trivial
        | some inner =>
            exact FieldValue.isPlain_ofJson ((allTexts_object_iff.mpr plain).follow? leads)

/-- A task is plain if the members that it is read from are. -/
theorem isPlain_of_ofMembers? (plain : AllMembers TaskQuery.IsPlain members)
    (reads : ofMembers? members = some task) : task.IsPlain := by
  obtain ⟨-, fields, properties⟩ := ofMembers?_eq_some_iff.mp reads
  have given (name : String) : PlainGiven (members.lookup name) := fun value found =>
    plain.lookup found
  have areProperties : AllMembers TaskQuery.IsPlain task.properties := by
    rw [← properties, propertiesOf]
    have kept : AllMembers TaskQuery.IsPlain
        (members.filter fun member => !recordFields.contains member.1) :=
      fun entry member => plain entry (List.mem_filter.mp member).1
    exact allTexts_object_iff.mp (allTexts_object_iff.mpr kept).normal
  simp only [RecordField.table, List.forall_mem_cons] at fields
  obtain ⟨isId, isDescription, -, -, isDue, isScheduled, isStart, isCreated, isDone, areTags,
    isPath, isDependencyId, areTargets, isRecurrence, -⟩ := fields
  intro field
  rw [fieldValue]
  split
  · rename_i value isField
    rw [recordField?.eq_def] at isField
    split at isField <;> cases isField
    · exact isPlain_required (given _) isId
    · exact isPlain_text (given _) isDescription
    · exact task.status.isPlain_text
    · exact task.priority.isPlain_text
    · exact FieldValue.isPlain_ofOption (isPlain_optional (given _) isDue)
    · exact FieldValue.isPlain_ofOption (isPlain_optional (given _) isScheduled)
    · exact FieldValue.isPlain_ofOption (isPlain_optional (given _) isStart)
    · exact FieldValue.isPlain_ofOption (isPlain_optional (given _) isCreated)
    · exact FieldValue.isPlain_ofOption (isPlain_optional (given _) isDone)
    · exact isPlain_list (given _) areTags
    · exact isPlain_text (given _) isPath
    · exact FieldValue.isPlain_ofOption (isPlain_optional (given _) isDependencyId)
    · exact isPlain_list (given _) areTargets
    · exact FieldValue.isPlain_ofOption (isPlain_optional (given _) isRecurrence)
  · exact isPlain_property areProperties _

end Task

namespace TaskFile

/-- Where a plain document is no task file, the report is plain. -/
theorem isPlain_of_read {document : String} (plain : IsPlain document) {fault : Fault}
    (refused : read document = .error fault) : IsPlain fault.message := by
  have leaves := leaves_readFront document
  rw [read] at refused
  cases front : readFront document with
  | error other =>
      rw [front] at refused
      cases refused
      exact (leaves.fails front).isPlain_message plain
  | ok found =>
      rw [front] at refused
      dsimp only at refused
      split at refused
      · cases refused
        exact .literal rfl
      · split at refused
        · cases refused
        · cases refused
          exact .literal rfl

theorem isPlain_of_ofItems? {value : Json} (plain : value.AllTexts IsPlain) {tasks : List Task}
    (reads : ofItems? value = some tasks) : ∀ task ∈ tasks, task.IsPlain := by
  cases value with
  | array items =>
      refine forall_mem_of_mapM (fun item member task isTask => ?_) reads
      have isItem := allTexts_array_iff.mp plain item member
      cases item with
      | object members => exact Task.isPlain_of_ofMembers? (allTexts_object_iff.mp isItem) isTask
      | _ => cases isTask
  | _ => cases reads

theorem isPlain_of_ofJson? {value : Json} (plain : value.AllTexts IsPlain) {tasks : List Task}
    (reads : ofJson? value = some tasks) : ∀ task ∈ tasks, task.IsPlain := by
  rw [ofJson?.eq_def] at reads
  split at reads
  · rename_i members
    split at reads
    · rename_i name items alone
      have member : (name, items) ∈ members :=
        (List.mem_filter.mp (alone ▸ List.mem_cons_self)).1
      exact isPlain_of_ofItems? (allTexts_object_iff.mp plain _ member).2 reads
    · cases reads
  · exact isPlain_of_ofItems? plain reads

/-- The tasks of a document are plain, unless it spells the character that codes start with. -/
theorem isPlain_tasks_of_read {document : String} (unspelled : ¬ SpellsEscape document.toList)
    {tasks : List Task} (reads : read document = .ok tasks) : ∀ task ∈ tasks, task.IsPlain := by
  have leaves := leaves_readFront document
  rw [read] at reads
  cases front : readFront document with
  | error other =>
      rw [front] at reads
      cases reads
  | ok found =>
      have plain := (leaves.gives front).1.mono fun _ => SpelledText.isPlain unspelled
      rw [front] at reads
      dsimp only at reads
      split at reads
      · cases reads
      · rename_i tasks isTasks
        split at reads
        · cases reads
          exact isPlain_of_ofJson? plain isTasks
        · cases reads

end TaskFile

/-! ## Settings -/

namespace Settings

open Toml (Members)

variable {members : Members}

theorem isPlain_of_asText? {value : Toml} (plain : value.AllTexts TaskQuery.IsPlain)
    {text : String} (reads : asText? value = some text) : TaskQuery.IsPlain text := by
  cases value with
  | string value =>
      cases reads
      cases plain
      assumption
  | _ => cases reads

theorem isPlain_of_asTexts? {value : Toml} (plain : value.AllTexts TaskQuery.IsPlain)
    {texts : List String} (reads : asTexts? value = some texts) :
    ∀ text ∈ texts, TaskQuery.IsPlain text := by
  cases value with
  | array items =>
      cases plain
      rename_i inside
      exact forall_mem_of_mapM (fun item member _ => isPlain_of_asText? (inside item member)) reads
  | _ => cases reads

/-- Names and the texts under them are plain. -/
def PlainEntries (entries : List (String × String)) : Prop :=
  ∀ entry ∈ entries, TaskQuery.IsPlain entry.1 ∧ TaskQuery.IsPlain entry.2

theorem isPlain_of_asNamedTexts? {value : Toml} (plain : value.AllTexts TaskQuery.IsPlain)
    {entries : List (String × String)} (reads : asNamedTexts? value = some entries) :
    PlainEntries entries := by
  cases value with
  | table origin members =>
      obtain ⟨unsorted, mapped, same⟩ := Option.bind_eq_some_iff.mp reads
      obtain rfl := Option.some.inj same
      have inside := Toml.allTexts_table_iff.mp plain
      have each : PlainEntries unsorted := by
        refine forall_mem_of_mapM (fun entry member found isText => ?_) mapped
        obtain ⟨text, reads, rfl⟩ := Option.map_eq_some_iff.mp isText
        exact ⟨(inside entry member).1, isPlain_of_asText? (inside entry member).2 reads⟩
      exact fun entry member => each entry (List.mem_mergeSort.mp member)
  | dateTime text =>
      cases reads
      cases plain
      exact List.forall_mem_singleton.mpr ⟨.literal rfl, ‹_›⟩
  | _ => cases reads

/-- A member of plain settings is read as something plain, or its name is told. -/
theorem ends_readMember {α : Type} (good : α → Prop) {name : String} {read : Toml → Option α}
    {default : α} (isName : TaskQuery.IsPlain name) (isDefault : good default)
    (isRead : ∀ value result, value.AllTexts TaskQuery.IsPlain → read value = some result →
      good result) :
    EndsWell (fun fault => TaskQuery.IsPlain fault.message)
      (fun result => members.AllTexts TaskQuery.IsPlain → good result)
      (readMember members name read default) := by
  rw [readMember]
  split
  · exact .ok fun _ => isDefault
  · rename_i value found
    split
    · rename_i result isResult
      exact .ok fun plain => isRead value result (plain.lookup found) isResult
    · exact .error (.append (.append (.literal rfl) isName) (.literal rfl))

theorem ends_ofMembers (members : Members) :
    EndsWell (fun fault => TaskQuery.IsPlain fault.message)
      (fun settings => members.AllTexts TaskQuery.IsPlain → settings.IsPlain)
      (ofMembers members) := by
  have isPath (value : Toml) (path : Option String) (plain : value.AllTexts TaskQuery.IsPlain)
      (reads : (asText? value).map some = some path) : PlainIfGiven path := by
    obtain ⟨text, isText, rfl⟩ := Option.map_eq_some_iff.mp reads
    exact plainIfGiven_some (isPlain_of_asText? plain isText)
  refine (ends_readMember (fun _ => True) (.literal rfl) trivial
    fun _ _ _ _ => trivial).next fun version => ?_
  refine (ends_readMember PlainIfGiven (.literal rfl) plainIfGiven_none isPath).bind
    fun tasksFile isFile => ?_
  refine (ends_readMember (fun fields => ∀ name ∈ fields, TaskQuery.IsPlain name) (.literal rfl)
    (List.forall_mem_nil _) fun _ _ plain reads => isPlain_of_asTexts? plain reads).bind
      fun customFields areFields => ?_
  refine (ends_readMember (fun _ => True) (.literal rfl) trivial
    fun _ _ _ _ => trivial).next fun color => ?_
  refine (ends_readMember PlainEntries (.literal rfl) (List.forall_mem_nil _)
    fun _ _ plain reads => isPlain_of_asNamedTexts? plain reads).bind
      fun aliases areAliases => ?_
  refine (ends_readMember PlainEntries (.literal rfl) (List.forall_mem_nil _)
    fun _ _ plain reads => isPlain_of_asNamedTexts? plain reads).bind
      fun queries areQueries => ?_
  refine .ite (.throw ?_) (.pure fun plain =>
    ⟨isFile plain, areFields plain, areAliases plain, areQueries plain⟩)
  exact .append (.append (.append (.append (.literal rfl) (isPlain_nat _)) (.literal rfl))
    (isPlain_nat _)) (.literal rfl)

/-- Where a plain document holds no settings, the report is plain if the names in it are. -/
theorem isPlain_of_read {document : String} (plain : TaskQuery.IsPlain document)
    (names : ∀ name, Toml.read document = .error (.duplicateKey name) ∨
      Toml.read document = .error (.notTable name) → TaskQuery.IsPlain name)
    {fault : SettingsFault} (refused : read document = .error fault) :
    TaskQuery.IsPlain fault.message := by
  rw [read] at refused
  split at refused
  · exact (ends_ofMembers _).fails refused
  · rename_i other unread
    cases refused
    have about := (Toml.ends_read document).fails unread
    refine .append (.literal rfl) (about.isPlain_message plain fun name told => names name ?_)
    rwa [unread, Except.error.injEq, Except.error.injEq]

/-- The settings of a document are plain, unless it spells the character that codes start
with. -/
theorem isPlain_settings_of_read {document : String}
    (unspelled : ¬ SpellsEscape document.toList) {settings : Settings}
    (reads : read document = .ok settings) : settings.IsPlain := by
  rw [read] at reads
  split at reads
  · rename_i members isTable
    have plain := ((Toml.ends_read document).gives isTable).mono fun _ =>
      SpelledText.isPlain unspelled
    exact (ends_ofMembers members).gives reads plain
  · cases reads

end Settings

end TaskQuery

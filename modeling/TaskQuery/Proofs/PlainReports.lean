/-
# Plain reports

What a report shows comes from the query, the tasks and the settings, and it is set off only
where colours are wanted. So where these are plain and colours are not wanted, the report is
plain too: a table of tasks with its headings, an explanation, and a listing of the settings.
-/

import TaskQuery.Command.Run
import TaskQuery.Proofs.PlainQueries
import TaskQuery.Proofs.TableColumns

namespace TaskQuery

open Text

/-! ## Written queries -/

theorem isPlain_valueText {value : String} (plain : IsPlain value) :
    IsPlain (valueText value) := by
  rw [IsPlain, ← List.count_eq_zero] at plain ⊢
  rw [count_valueText (by decide) (by decide), plain]

theorem Operator.isPlain_text (operator : Operator) : IsPlain operator.text := by
  cases operator <;> exact .literal rfl

theorem SortDirection.isPlain_text (direction : SortDirection) : IsPlain direction.text := by
  cases direction <;> exact .literal rfl

theorem DependencyCheck.IsPlain.text {check : DependencyCheck} (plain : check.IsPlain) :
    TaskQuery.IsPlain check.text := by
  cases check with
  | dependsOn target => exact .append (.literal rfl) (isPlain_valueText plain)
  | blocks target => exact .append (.literal rfl) (isPlain_valueText plain)
  | _ => exact .literal rfl

theorem Filter.IsPlain.text {filter : Filter} (plain : filter.IsPlain) :
    TaskQuery.IsPlain filter.text := by
  induction filter with
  | comparison field operator value =>
      exact .append (.append (.append (.append plain.1 (.literal rfl)) operator.isPlain_text)
        (.literal rfl)) (isPlain_valueText plain.2)
  | and left right isLeft isRight =>
      exact .append (.append (.append (.append (.literal rfl) (isLeft plain.1)) (.literal rfl))
        (isRight plain.2)) (.literal rfl)
  | or left right isLeft isRight =>
      exact .append (.append (.append (.append (.literal rfl) (isLeft plain.1)) (.literal rfl))
        (isRight plain.2)) (.literal rfl)
  | not operand ih => exact .append (.literal rfl) (ih plain)
  | dependency check => exact DependencyCheck.IsPlain.text plain

theorem isPlain_sortText {keys : List SortKey} (plain : ∀ key ∈ keys, IsPlain key.field) :
    IsPlain (sortText keys) :=
  .intercalate (.literal rfl) (List.forall_mem_map.mpr fun key member =>
    .append (.append (plain key member) (.literal rfl)) key.direction.isPlain_text)

theorem Query.IsPlain.text {query : Query} (plain : query.IsPlain) :
    TaskQuery.IsPlain query.text := by
  have isFilter : ∀ text ∈ (query.filter.map Filter.text).toList, TaskQuery.IsPlain text := by
    cases filter : query.filter with
    | none => exact List.forall_mem_nil _
    | some found => exact List.forall_mem_singleton.mpr (plain.filter found filter).text
  have isGroup : ∀ text ∈ (query.group.map fun field => "group by " ++ field).toList,
      TaskQuery.IsPlain text := by
    cases group : query.group with
    | none => exact List.forall_mem_nil _
    | some field =>
        exact List.forall_mem_singleton.mpr (.append (.literal rfl) (plain.group field group))
  refine .intercalate (.literal rfl) ?_
  refine List.forall_mem_append.mpr ⟨List.forall_mem_append.mpr ⟨isFilter, ?_⟩, isGroup⟩
  split
  · exact List.forall_mem_nil _
  · exact List.forall_mem_singleton.mpr (.append (.literal rfl) (isPlain_sortText plain.sort))

/-! ## Tasks -/

/-- A value of a field is plain. -/
def FieldValue.IsPlain : FieldValue → Prop
  | missing => True
  | text value => TaskQuery.IsPlain value
  | list items => ∀ item ∈ items, TaskQuery.IsPlain item

/-- Every field of a task has a plain value, its properties and what is inside them
included. -/
def Task.IsPlain (task : Task) : Prop :=
  ∀ field, (task.fieldValue field).IsPlain

theorem isPlain_noneLabel : IsPlain noneLabel :=
  .literal rfl

theorem FieldValue.IsPlain.groupLabels {value : FieldValue} (plain : value.IsPlain) :
    ∀ label ∈ value.groupLabels, TaskQuery.IsPlain label := by
  have labels : ∀ label ∈ value.labels, TaskQuery.IsPlain label := by
    cases value with
    | missing => exact List.forall_mem_nil _
    | text value =>
        rw [FieldValue.labels]
        split
        · exact List.forall_mem_nil _
        · exact List.forall_mem_singleton.mpr plain
    | list items =>
        intro label member
        exact plain label (List.mem_filter.mp (List.mem_eraseDups.mp member)).1
  rw [FieldValue.groupLabels]
  split
  · exact List.forall_mem_singleton.mpr isPlain_noneLabel
  · exact labels

/-! ## Tables -/

theorem Status.isPlain_text (status : Status) : IsPlain status.text := by
  cases status <;> exact .literal rfl

theorem Priority.isPlain_text (priority : Priority) : IsPlain priority.text := by
  cases priority <;> exact .literal rfl

/-- The texts that a table shows of a plain task are plain. -/
theorem Task.IsPlain.shownTexts {task : Task} (plain : task.IsPlain) :
    ∀ text ∈ task.shownTexts, TaskQuery.IsPlain text := by
  have isDue : ∀ text ∈ task.due.toList, TaskQuery.IsPlain text := by
    intro text isText
    have value := plain "due"
    rw [show task.fieldValue "due" = .ofOption task.due from rfl,
      Option.mem_toList.mp isText] at value
    exact value
  rw [Task.shownTexts, List.forall_mem_cons, List.forall_mem_cons, List.forall_mem_append]
  exact ⟨plain "id", plain "description", isDue, plain "tags"⟩

theorem isPlain_lines {lines : List String} (plain : ∀ line ∈ lines, IsPlain line) :
    IsPlain (String.join (lines.map (· ++ "\n"))) :=
  .join_map fun line member => (plain line member).append (.literal rfl)

/-- A table of plain tasks is plain where colours are not wanted. -/
theorem isPlain_of_tasksTable {today : Date} {tasks : List Task} {table : String}
    (plain : ∀ task ∈ tasks, task.IsPlain) (shown : tasksTable? false today tasks = some table) :
    IsPlain table := by
  rw [tasksTable?] at shown
  split at shown
  · cases shown
    exact .literal rfl
  · obtain ⟨rows, made, same⟩ := Option.bind_eq_some_iff.mp shown
    obtain rfl := Option.some.inj same
    have plainRows := forall_mem_of_mapM (fun task member row =>
      TableRow.not_mem_text_of_ofTask (by decide) (plain task member).shownTexts) made
    exact isPlain_lines (List.forall_mem_cons.mpr
      ⟨by decide +kernel, List.forall_mem_map.mpr plainRows⟩)

/-- The label and the tasks of a group are plain. -/
structure TaskGroup.IsPlain (group : TaskGroup) : Prop where
  label : TaskQuery.IsPlain group.label
  tasks : ∀ task ∈ group.tasks, task.IsPlain

theorem isPlain_of_groupsTable {today : Date} {groups : List TaskGroup} {table : String}
    (plain : ∀ group ∈ groups, group.IsPlain)
    (shown : groupsTable? false today groups = some table) : IsPlain table := by
  rw [groupsTable?] at shown
  split at shown
  · cases shown
    exact .literal rfl
  · obtain ⟨tables, made, same⟩ := Option.bind_eq_some_iff.mp shown
    obtain rfl := Option.some.inj same
    refine .intercalate (.literal rfl) (forall_mem_of_mapM (fun group member text one => ?_) made)
    obtain ⟨below, tabled, same⟩ := Option.bind_eq_some_iff.mp one
    obtain rfl := Option.some.inj same
    have title : IsPlain (group.title false) :=
      .append (.styled _ (.append (.append (.append (plain group member).label (.literal rfl))
        (isPlain_nat _)) (.literal rfl))) (.literal rfl)
    exact title.append (isPlain_of_tasksTable (plain group member).tasks tabled)

/-! ## Results of queries -/

namespace TaskGroups

/-- Every group is plain. -/
def IsPlain (groups : TaskGroups) : Prop :=
  ∀ group ∈ groups.groups, group.IsPlain

variable {groups : TaskGroups} {label : String} {task : Task}

theorem IsPlain.addAt (plain : groups.IsPlain) (isTask : task.IsPlain) (position : Nat) :
    (groups.addAt position task).IsPlain := by
  intro group member
  obtain ⟨place, found⟩ := List.mem_iff_getElem?.mp member
  rw [TaskGroups.addAt, List.getElem?_modify] at found
  obtain ⟨old, isOld, rfl⟩ := Option.map_eq_some_iff.mp found
  have isPlain := plain old (List.mem_of_getElem? isOld)
  split
  · exact ⟨isPlain.label,
      List.forall_mem_append.mpr ⟨isPlain.tasks, List.forall_mem_singleton.mpr isTask⟩⟩
  · exact isPlain

theorem IsPlain.push (plain : groups.IsPlain) (isLabel : TaskQuery.IsPlain label)
    (isTask : task.IsPlain) : (groups.push label task).IsPlain := by
  rw [TaskGroups.push]
  split
  · exact plain.addAt isTask _
  · exact List.forall_mem_append.mpr
      ⟨plain, List.forall_mem_singleton.mpr ⟨isLabel, List.forall_mem_singleton.mpr isTask⟩⟩

theorem IsPlain.pushAll {labels : List String} (plain : groups.IsPlain)
    (areLabels : ∀ label ∈ labels, TaskQuery.IsPlain label) (isTask : task.IsPlain) :
    (groups.pushAll labels task).IsPlain :=
  List.foldlRecOn (motive := IsPlain) labels _ plain fun _ isPlain label member =>
    isPlain.push (areLabels label member) isTask

end TaskGroups

theorem isPlain_groupTasks (vocabulary : Vocabulary) (field : String) {tasks : List Task}
    (plain : ∀ task ∈ tasks, task.IsPlain) : (vocabulary.groupTasks field tasks).IsPlain :=
  List.foldlRecOn (motive := TaskGroups.IsPlain) tasks _ (List.forall_mem_nil _)
    fun _ isPlain task member =>
      isPlain.pushAll (plain task member (vocabulary.canonicalField field)).groupLabels
        (plain task member)

namespace Query

variable {query : Query} {setting : Setting} {tasks : List Task}

theorem isPlain_execute (plain : ∀ task ∈ tasks, task.IsPlain) :
    ∀ task ∈ query.execute setting tasks, task.IsPlain := by
  intro task member
  rw [execute, Vocabulary.sortTasks_eq_mergeSort, List.mem_mergeSort] at member
  exact plain task (List.mem_filter.mp member).1

theorem isPlain_executeGrouped (plain : ∀ task ∈ tasks, task.IsPlain) :
    (query.executeGrouped setting tasks).IsPlain := by
  have found : ∀ task ∈ query.execute setting tasks, task.IsPlain := isPlain_execute plain
  rw [executeGrouped, groupsOf]
  split
  · exact isPlain_groupTasks _ _ found
  · exact List.forall_mem_singleton.mpr ⟨.literal rfl, found⟩

end Query

namespace PreparedQuery

variable {prepared : PreparedQuery} {setting : Setting} {limit : Option Nat} {tasks : List Task}

theorem isPlain_limited (plain : ∀ task ∈ tasks, task.IsPlain) (limit : Option Nat) :
    ∀ task ∈ limited limit tasks, task.IsPlain := by
  intro task member
  cases limit with
  | none => exact plain task member
  | some count => exact plain task (List.mem_of_mem_take member)

/-- The result of a query over plain tasks is shown in plain text where colours are not
wanted. -/
theorem isPlain_of_table {table : String} (plain : ∀ task ∈ tasks, task.IsPlain)
    (shown : prepared.table? setting false limit tasks = some table) : IsPlain table := by
  rw [table?] at shown
  dsimp only at shown
  split at shown
  · refine isPlain_of_groupsTable (List.forall_mem_map.mpr fun group member => ?_) shown
    have found := Query.isPlain_executeGrouped plain group member
    exact ⟨found.label, isPlain_limited found.tasks limit⟩
  · exact isPlain_of_tasksTable (isPlain_limited (Query.isPlain_execute plain) limit) shown

end PreparedQuery

/-! ## Explanations -/

theorem TokenKind.isPlain_name (kind : TokenKind) : IsPlain kind.name := by
  cases kind with
  | operator operator =>
      cases operator <;> exact .append (.append (.literal rfl) (.literal rfl)) (.literal rfl)
  | relation relation =>
      cases relation <;> exact .append (.append (.literal rfl) (.literal rfl)) (.literal rfl)
  | connective connective =>
      cases connective <;> exact .append (.append (.literal rfl) (.literal rfl)) (.literal rfl)
  | keyword keyword =>
      cases keyword <;> exact .append (.append (.literal rfl) (.literal rfl)) (.literal rfl)
  | _ => exact .literal rfl

theorem isPlain_treeLine (depth : Nat) {text : String} (plain : IsPlain text) :
    IsPlain (treeLine depth text) :=
  .append (.append (.spaces _) plain) (.literal rfl)

theorem Filter.IsPlain.treeText {filter : Filter} (plain : filter.IsPlain) (depth : Nat) :
    TaskQuery.IsPlain (filter.treeText depth) := by
  induction filter generalizing depth with
  | comparison field operator value =>
      exact isPlain_treeLine depth (.append (.append (.append (.append plain.1 (.literal rfl))
        operator.isPlain_text) (.literal rfl)) (isPlain_quote value))
  | and left right isLeft isRight =>
      exact .append (.append (isPlain_treeLine depth (.literal rfl)) (isLeft plain.1 _))
        (isRight plain.2 _)
  | or left right isLeft isRight =>
      exact .append (.append (isPlain_treeLine depth (.literal rfl)) (isLeft plain.1 _))
        (isRight plain.2 _)
  | not operand ih => exact .append (isPlain_treeLine depth (.literal rfl)) (ih plain _)
  | dependency check => exact isPlain_treeLine depth (DependencyCheck.IsPlain.text plain)

namespace Explanation

theorem isPlain_label {name : String} (plain : IsPlain name) : IsPlain (label false name) :=
  .styled _ (plain.append (.literal rfl))

theorem isPlain_labelled {name text : String} (isName : IsPlain name) (isText : IsPlain text) :
    IsPlain (labelled false name text) :=
  .append (.append (.append (isPlain_label isName) (.literal rfl)) isText) (.literal rfl)

theorem isPlain_block {name : String} {lines : List String} (isName : IsPlain name)
    (areLines : ∀ line ∈ lines, IsPlain line) : IsPlain (block false name lines) :=
  .append (.append (isPlain_label isName) (.literal rfl)) (.join areLines)

theorem isPlain_filterText {query : Query} (plain : query.IsPlain) :
    IsPlain (filterText query) := by
  rw [filterText]
  split
  · exact (plain.filter _ ‹_›).treeText 1
  · exact .literal rfl

theorem isPlain_tokenText (token : Token) : IsPlain (tokenText token) :=
  .append (.append (.append (.append (.append (.append (.literal rfl)
    ((isPlain_nat _).padLeft 4)) (.literal rfl)) (token.kind.isPlain_name.padRight 24))
    (.literal rfl)) (isPlain_quote _)) (.literal rfl)

/-- An explanation of a plain query is plain where colours are not wanted. The texts of its
tokens are told between quotes, so they do not matter. -/
theorem isPlain_text [Pattern.Wording] {explanation : Explanation}
    (isInput : IsPlain explanation.input) (isQuery : explanation.query.IsPlain)
    (tells : TellsPlain explanation.diagnostics) :
    IsPlain (explanation.text false) := by
  refine .append (.append (.append (.append (.append (.append
    (isPlain_labelled (.literal rfl) isInput) (isPlain_labelled (.literal rfl) isQuery.text))
    ?filter) ?sort) ?group) ?tokens) ?diagnostics
  case filter =>
    exact isPlain_block (.literal rfl) (List.forall_mem_singleton.mpr (isPlain_filterText isQuery))
  case sort =>
    split
    · exact .literal rfl
    · exact isPlain_labelled (.literal rfl) (isPlain_sortText isQuery.sort)
  case group =>
    cases group : explanation.query.group with
    | none => exact .literal rfl
    | some field => exact isPlain_labelled (.literal rfl) (isQuery.group field group)
  case tokens =>
    cases explanation.shownTokens with
    | none => exact .literal rfl
    | some tokens =>
        exact isPlain_block (.literal rfl) (List.forall_mem_map.mpr fun token _ =>
          isPlain_tokenText token)
  case diagnostics =>
    split
    · exact .literal rfl
    · exact isPlain_block (.literal rfl) (List.forall_mem_map.mpr fun diagnostic member =>
        .append (.append (.literal rfl) (.styled _ (tells diagnostic member))) (.literal rfl))

end Explanation

/-! ## Settings -/

theorem isPlain_textLine {text : String} (plain : IsPlain text) : IsPlain (textLine text) :=
  plain.append (.literal rfl)

theorem isPlain_bool (value : Bool) : IsPlain (toString value) := by
  cases value <;> exact .literal rfl

theorem Settings.IsPlain.text {settings : Settings} (plain : settings.IsPlain) :
    TaskQuery.IsPlain settings.text := by
  have entryLine : ∀ entry : String × String,
      TaskQuery.IsPlain entry.1 ∧ TaskQuery.IsPlain entry.2 →
        TaskQuery.IsPlain (textLine ("  " ++ entry.1 ++ " = " ++ entry.2)) :=
    fun entry both => isPlain_textLine
      (.append (.append (.append (.literal rfl) both.1) (.literal rfl)) both.2)
  refine .append (.append (.append (.append (.append (.append (.append (.append (.literal rfl)
    ?tasksFile) ?customFields) (.literal rfl)) ?color) (.literal rfl)) ?aliases) (.literal rfl))
    ?queries
  case tasksFile =>
    cases file : settings.tasksFile with
    | none => exact .literal rfl
    | some path => exact isPlain_textLine (.append (.literal rfl) (plain.tasksFile path file))
  case customFields =>
    split
    · exact .literal rfl
    · exact isPlain_textLine (.append (.literal rfl)
        (.intercalate (.literal rfl) plain.customFields))
  case color =>
    cases settings.color with
    | none => exact .literal rfl
    | some color => exact isPlain_textLine (.append (.literal rfl) (isPlain_bool color))
  case aliases => exact .join_map fun entry member => entryLine entry (plain.aliases entry member)
  case queries => exact .join_map fun entry member => entryLine entry (plain.queries entry member)

end TaskQuery

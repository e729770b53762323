/-
# Trees of filters in explanations

An explanation shows a filter as a tree, with a line for each node, and a node's line is
further in than the line of the node that it is part of. The lines are those of the nodes in
pre-order, and their indentations alone give the shape of the tree back.

All this needs that no line has a break inside. A comparison never has one: its field is a name,
and its value is written with escapes. The task that a dependency check names is written as a
query writes it, where a line break stands for itself. So a break in such a name is the one
thing that adds a line.
-/

import TaskQuery.Proofs.Lines
import TaskQuery.Proofs.PlainText
import TaskQuery.Proofs.ReadNames
import TaskQuery.Report.Explanation

namespace TaskQuery

open Text

/-! ## Nodes and their lines -/

namespace Filter

/-- What a tree shows of the root of a filter. -/
def rootText : Filter → String
  | comparison field operator value => field ++ " " ++ operator.text ++ " " ++ quote value
  | and _ _ => "AND"
  | or _ _ => "OR"
  | not _ => "NOT"
  | dependency check => check.text

/-- The nodes of a filter in pre-order with their depths, where the root has the first. Each node
stands with all that is below it. -/
def nodes (depth : Nat) : Filter → List (Nat × Filter)
  | and left right => (depth, and left right) :: (left.nodes (depth + 1) ++ right.nodes (depth + 1))
  | or left right => (depth, or left right) :: (left.nodes (depth + 1) ++ right.nodes (depth + 1))
  | not operand => (depth, not operand) :: operand.nodes (depth + 1)
  | comparison field operator value => [(depth, comparison field operator value)]
  | dependency check => [(depth, dependency check)]

/-- The number of nodes of a filter. -/
def size : Filter → Nat
  | and left right | or left right => left.size + right.size + 1
  | not operand => operand.size + 1
  | comparison _ _ _ | dependency _ => 1

/-- The tasks that the dependency checks of a filter name, from left to right. -/
def targets : Filter → List String
  | and left right | or left right => left.targets ++ right.targets
  | not operand => operand.targets
  | comparison _ _ _ => []
  | dependency check => check.target?.toList

theorem length_nodes (depth : Nat) (filter : Filter) :
    (filter.nodes depth).length = filter.size := by
  induction filter generalizing depth with
  | comparison | dependency => rfl
  | and left right leftSize rightSize | or left right leftSize rightSize =>
      rw [nodes, List.length_cons, List.length_append, leftSize, rightSize, size]
  | not operand operandSize => rw [nodes, List.length_cons, operandSize, size]

end Filter

/-- The line of a node, without its line break. -/
def nodeLine (node : Nat × Filter) : String :=
  spaces (2 * node.1) ++ node.2.rootText

/-- The tree of a filter is made of the lines of its nodes. -/
theorem Filter.treeText_eq_unlines (depth : Nat) (filter : Filter) :
    filter.treeText depth = unlines ((filter.nodes depth).map nodeLine) := by
  induction filter generalizing depth with
  | comparison | dependency =>
      rw [nodes, List.map_singleton, unlines_cons, unlines, List.map_nil, String.join_nil,
        String.append_empty]
      rfl
  | and left right leftText rightText | or left right leftText rightText =>
      rw [treeText, leftText, rightText, nodes, List.map_cons, List.map_append, unlines_cons,
        unlines_append, String.append_assoc]
      rfl
  | not operand operandText =>
      rw [treeText, operandText, nodes, List.map_cons, unlines_cons]
      rfl

/-! ## Breaks inside lines -/

theorem Operator.breaks_text (operator : Operator) : breaks operator.text = 0 := by
  cases operator <;> rfl

theorem breaks_quote (text : String) : breaks (quote text) = 0 :=
  breaks_eq_zero_iff.mpr (not_mem_quote (by decide) (by decide) (by decide) text)

/-- A name and a value with escapes leave no room for a break. -/
theorem breaks_comparison {field : String} (isName : IsFieldName field) (operator : Operator)
    (value : String) : breaks (Filter.comparison field operator value).rootText = 0 := by
  have fieldBreaks : breaks field = 0 :=
    breaks_eq_zero_iff.mpr
      (not_mem_of_all (by decide) (isFieldName_iff.mp isName).all_isWordChar)
  have blankBreaks : breaks " " = 0 := rfl
  rw [Filter.rootText, breaks_append, breaks_append, breaks_append, breaks_append, fieldBreaks,
    blankBreaks, operator.breaks_text, breaks_quote]

/-- A check has the breaks of the task that it names. -/
theorem DependencyCheck.breaks_text (check : DependencyCheck) :
    breaks check.text = (check.target?.toList.map breaks).sum := by
  have written (value : String) : breaks (valueText value) = breaks value :=
    count_valueText (by decide) (by decide) value
  cases check with
  | blocked | notBlocked | blocking => rfl
  | dependsOn target | blocks target =>
      rw [text, breaks_append, written, target?, Option.toList_some, List.map_singleton,
        List.sum_singleton]
      exact Nat.zero_add _

theorem breaks_nodeLine (node : Nat × Filter) :
    breaks (nodeLine node) = breaks node.2.rootText := by
  have noBreak : breaks (spaces (2 * node.1)) = 0 := by
    rw [breaks_eq_zero_iff, spaces, String.toList_ofList]
    exact mt List.eq_of_mem_replicate (by decide)
  rw [nodeLine, breaks_append, noBreak, Nat.zero_add]

/-- The lines of a tree have the breaks that are in the names of tasks, and no others. -/
theorem Filter.sum_breaks_nodes (filter : Filter) (named : filter.NamesFields) (depth : Nat) :
    ((filter.nodes depth).map fun node => breaks (nodeLine node)).sum =
      (filter.targets.map breaks).sum := by
  induction filter generalizing depth with
  | comparison field operator value =>
      rw [nodes, List.map_singleton, List.sum_singleton, breaks_nodeLine]
      exact breaks_comparison (named _ List.mem_cons_self) operator value
  | dependency check =>
      rw [nodes, List.map_singleton, List.sum_singleton, breaks_nodeLine]
      exact check.breaks_text
  | and left right leftBreaks rightBreaks | or left right leftBreaks rightBreaks =>
      have andBreaks : breaks "AND" = 0 := rfl
      have orBreaks : breaks "OR" = 0 := rfl
      obtain ⟨leftNamed, rightNamed⟩ := named.operands rfl
      rw [nodes, List.map_cons, List.map_append, List.sum_cons, List.sum_append,
        leftBreaks leftNamed, rightBreaks rightNamed, breaks_nodeLine, targets, List.map_append,
        List.sum_append]
      simp only [rootText, andBreaks, orBreaks, Nat.zero_add]
  | not operand operandBreaks =>
      have notBreaks : breaks "NOT" = 0 := rfl
      rw [nodes, List.map_cons, List.sum_cons, operandBreaks named, breaks_nodeLine, rootText,
        notBreaks, Nat.zero_add, targets]

/-! ## Indentations -/

theorem Filter.rootText_starts_no_blank (filter : Filter) (named : filter.NamesFields) :
    ∀ c ∈ filter.rootText.toList.head?, c ≠ ' ' := by
  cases filter with
  | comparison field operator value =>
      have isName := isFieldName_iff.mp (named _ List.mem_cons_self)
      obtain ⟨first, more, isField⟩ := List.exists_cons_of_ne_nil isName.ne_nil
      have isWord := isName.all_isWordChar
      rw [isField, List.all_cons, Bool.and_eq_true] at isWord
      rw [rootText, String.toList_append, String.toList_append, String.toList_append,
        String.toList_append, isField]
      rintro c isFirst rfl
      obtain rfl := Option.some.inj isFirst
      exact absurd isWord.1 (by decide)
  | and left right | or left right | not operand =>
      rw [rootText]
      rintro c isFirst rfl
      cases isFirst
  | dependency check =>
      rw [rootText, DependencyCheck.text.eq_def]
      cases check with
      | blocked | notBlocked | blocking =>
          rintro c isFirst rfl
          cases isFirst
      | dependsOn target | blocks target =>
          rw [String.toList_append]
          rintro c isFirst rfl
          cases isFirst

/-- Every node of a filter is a filter whose fields have names. -/
theorem Filter.namesFields_of_mem_nodes {filter : Filter} (named : filter.NamesFields)
    {depth : Nat} {node : Nat × Filter} (member : node ∈ filter.nodes depth) :
    node.2.NamesFields := by
  induction filter generalizing depth with
  | comparison | dependency =>
      obtain rfl := List.mem_singleton.mp member
      exact named
  | and left right ihLeft ihRight | or left right ihLeft ihRight =>
      obtain ⟨leftNamed, rightNamed⟩ := named.operands rfl
      rw [nodes, List.mem_cons, List.mem_append] at member
      rcases member with rfl | inLeft | inRight
      · exact named
      · exact ihLeft leftNamed inLeft
      · exact ihRight rightNamed inRight
  | not operand ih =>
      rw [nodes, List.mem_cons] at member
      rcases member with rfl | inside
      · exact named
      · exact ih named inside

theorem indentation_nodeLine {filter : Filter} (named : filter.NamesFields) {depth : Nat}
    {node : Nat × Filter} (member : node ∈ filter.nodes depth) :
    indentation (nodeLine node) = 2 * node.1 :=
  indentation_spaces_append _
    (node.2.rootText_starts_no_blank (Filter.namesFields_of_mem_nodes named member))

/-! ## Shapes -/

/-- A tree of which only the shape is told. -/
inductive Shape
  | node (children : List Shape)

/-- The shape of a filter. -/
def Filter.shape : Filter → Shape
  | and left right | or left right => .node [left.shape, right.shape]
  | not operand => .node [operand.shape]
  | comparison _ _ _ | dependency _ => .node []

namespace Shape

/-- A line above some trees. It takes the trees that are further in as its children, up to the
first that is not. -/
def addLine (indent : Nat) (trees : List (Nat × Shape)) : List (Nat × Shape) :=
  (indent, node ((trees.takeWhile fun tree => indent < tree.1).map Prod.snd)) ::
    trees.dropWhile fun tree => indent < tree.1

/-- The trees that lines with these indentations show, each with the indentation of its root. -/
def ofIndentations (indents : List Nat) : List (Nat × Shape) :=
  indents.foldr addLine []

theorem addLine_append {indent : Nat} {children trees : List (Nat × Shape)}
    (below : ∀ tree ∈ children, indent < tree.1) (outer : ∀ tree ∈ trees.head?, tree.1 ≤ indent) :
    addLine indent (children ++ trees) = (indent, node (children.map Prod.snd)) :: trees := by
  have inside : (children.all fun tree => indent < tree.1) = true := by
    simpa using below
  have stop : ∀ tree ∈ trees.head?, decide (indent < tree.1) = false :=
    fun tree isHead => decide_eq_false (Nat.not_lt.mpr (outer tree isHead))
  rw [addLine, takeWhile_append_of_stop inside stop, dropWhile_append_of_stop inside stop]

/-- The indentations of a filter's tree read as its shape, in front of trees that are not
further in. -/
theorem foldr_addLine_nodes (filter : Filter) {depth : Nat} {trees : List (Nat × Shape)}
    (outer : ∀ tree ∈ trees.head?, tree.1 ≤ 2 * depth) :
    ((filter.nodes depth).map fun node => 2 * node.1).foldr addLine trees =
      (2 * depth, filter.shape) :: trees := by
  induction filter generalizing depth trees with
  | comparison | dependency => exact addLine_append (List.forall_mem_nil _) outer
  | and left right leftRead rightRead | or left right leftRead rightRead =>
      have inner : ∀ tree ∈ trees.head?, tree.1 ≤ 2 * (depth + 1) :=
        fun tree isHead => Nat.le_trans (outer tree isHead) (by omega)
      have besideRight : ∀ tree ∈ ((2 * (depth + 1), right.shape) :: trees).head?,
          tree.1 ≤ 2 * (depth + 1) := by
        rintro tree isHead
        obtain rfl := Option.some.inj isHead
        exact Nat.le_refl _
      have below : ∀ tree ∈ [(2 * (depth + 1), left.shape), (2 * (depth + 1), right.shape)],
          2 * depth < tree.1 := by
        simp
      rw [Filter.nodes, List.map_cons, List.map_append, List.foldr_cons, List.foldr_append,
        rightRead inner, leftRead besideRight]
      exact addLine_append below outer
  | not operand operandRead =>
      have inner : ∀ tree ∈ trees.head?, tree.1 ≤ 2 * (depth + 1) :=
        fun tree isHead => Nat.le_trans (outer tree isHead) (by omega)
      have below : ∀ tree ∈ [(2 * (depth + 1), operand.shape)], 2 * depth < tree.1 := by
        simp
      rw [Filter.nodes, List.map_cons, List.foldr_cons, operandRead inner]
      exact addLine_append below outer

end Shape

/-! ## What a tree shows -/

/-- The tree of a filter that was read has a line for each node, and one more for each line break
in a task that a dependency check names. Where there are none, the lines are those of the nodes
in pre-order, two blanks further in for each level, and the indentations give the shape of the
tree. -/
theorem Query.lines_treeText_of_parse (vocabulary : Vocabulary) (input : String) {filter : Filter}
    (isFilter : (Query.parse vocabulary input).query.filter = some filter) :
    (lines (filter.treeText 1)).length = filter.size + (filter.targets.map breaks).sum ∧
    ((lines (filter.treeText 1)).length = filter.size ↔
      ∀ target ∈ filter.targets, '\n' ∉ target.toList) ∧
    ((∀ target ∈ filter.targets, '\n' ∉ target.toList) →
      lines (filter.treeText 1) = (filter.nodes 1).map nodeLine ∧
      (lines (filter.treeText 1)).map indentation =
        (filter.nodes 1).map (fun node => 2 * node.1) ∧
      Shape.ofIndentations ((lines (filter.treeText 1)).map indentation) =
        [(2, filter.shape)]) := by
  have named : filter.NamesFields := by
    intro comparison member
    refine (Query.parse_namesFields vocabulary input).comparisons comparison ?_
    rwa [Query.comparisons, isFilter]
  have count : (lines (filter.treeText 1)).length =
      filter.size + (filter.targets.map breaks).sum := by
    rw [filter.treeText_eq_unlines, length_lines_unlines, List.length_map, filter.length_nodes,
      List.map_map]
    exact congrArg _ (filter.sum_breaks_nodes named 1)
  have noBreaks : (filter.targets.map breaks).sum = 0 ↔
      ∀ target ∈ filter.targets, '\n' ∉ target.toList := by
    simp only [List.sum_eq_zero_iff_forall_eq_nat, List.forall_mem_map, breaks_eq_zero_iff]
  refine ⟨count, ?_, fun whole => ?_⟩
  · rw [count, Nat.add_eq_left, noBreaks]
  · have nodeBreaks : ∀ line ∈ (filter.nodes 1).map nodeLine, '\n' ∉ line.toList := by
      have none := (filter.sum_breaks_nodes named 1).trans (noBreaks.mpr whole)
      rw [List.sum_eq_zero_iff_forall_eq_nat, List.forall_mem_map] at none
      rw [List.forall_mem_map]
      exact fun node member => breaks_eq_zero_iff.mp (none node member)
    have shown : lines (filter.treeText 1) = (filter.nodes 1).map nodeLine := by
      rw [filter.treeText_eq_unlines, lines_unlines nodeBreaks]
    have indents : (lines (filter.treeText 1)).map indentation =
        (filter.nodes 1).map (fun node => 2 * node.1) := by
      rw [shown, List.map_map]
      exact List.map_congr_left fun node member => indentation_nodeLine named member
    refine ⟨shown, indents, ?_⟩
    rw [indents]
    exact Shape.foldr_addLine_nodes filter nofun

/-- A filter with a node of each kind is shown on six lines. -/
theorem Query.lines_treeText_of_parse_nested :
    let filter : Filter :=
      .and (.not (.dependency .blocked))
        (.or (.dependency (.dependsOn "b c")) (.comparison "tag" .includes "#x"))
    let input := "not is blocked and (depends on \"b c\" or tag includes #x)"
    (Query.parse .default input).query.filter = some filter ∧
      (lines (filter.treeText 1)).length = 6 ∧
      (lines (filter.treeText 1)).map indentation = [2, 4, 6, 4, 6, 6] ∧
      Shape.ofIndentations ((lines (filter.treeText 1)).map indentation) =
        [(2, .node [.node [.node []], .node [.node [], .node []]])] := by
  intro filter input
  have isFilter : (Query.parse .default input).query.filter = some filter := by decide +kernel
  have whole : ∀ target ∈ filter.targets, '\n' ∉ target.toList := by decide +kernel
  obtain ⟨count, -, shown⟩ := Query.lines_treeText_of_parse .default input isFilter
  obtain ⟨-, indents, shape⟩ := shown whole
  exact ⟨isFilter, count, indents, shape⟩

/-- A line break in the name of a task makes one node look like two. -/
theorem Query.lines_treeText_broken_target :
    let filter : Filter := .dependency (.dependsOn "a\n    b")
    (Query.parse .default "depends on \"a\n    b\"").query.filter = some filter ∧
      filter.size = 1 ∧
      lines (filter.treeText 1) = ["  depends on \"a", "    b\""] ∧
      Shape.ofIndentations ((lines (filter.treeText 1)).map indentation) =
        [(2, .node [.node []])] ∧
      filter.shape ≠ .node [.node []] := by
  intro filter
  have isFilter : (Query.parse .default "depends on \"a\n    b\"").query.filter = some filter := by
    decide +kernel
  have shown : lines (filter.treeText 1) = ["  depends on \"a", "    b\""] := by decide +kernel
  refine ⟨isFilter, rfl, shown, ?_, nofun⟩
  rw [shown]
  rfl

end TaskQuery

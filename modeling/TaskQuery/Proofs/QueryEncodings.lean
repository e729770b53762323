/-
# Queries are told by their JSON

JSON values are the same when their normal forms are: the order of an object's members does
not count, and of a name that is repeated the last value does. Two queries with the same JSON
in this sense are the same query, at any depth of their filters. Every node has tags that say
which kind of node it is, what else is in a node stands under a name of its own, and a member of
a query that is left out says that the query does not have what it stands for.
-/

import Mathlib.Logic.Function.Basic
import TaskQuery.Proofs.JsonMembers
import TaskQuery.Report.Explanation

namespace TaskQuery

open Json

/-! ## Tags -/

theorem Operator.tag_injective : Function.Injective Operator.tag := by
  intro first second same
  cases first <;> cases second <;> simp [tag] at same ⊢

theorem SortDirection.text_injective : Function.Injective SortDirection.text := by
  intro first second same
  cases first <;> cases second <;> simp [text] at same ⊢

namespace Json

variable {first second : Json}

/-- What is the same has the same members. -/
theorem get?_eq_of_normal_eq (same : first.normal = second.normal) (name : String) :
    first.normal.get? name = second.normal.get? name :=
  congrArg (get? name) same

theorem string_injective : Function.Injective string :=
  fun _ _ => string.inj

/-- Members that are texts are the same only if the texts are. -/
theorem string_inj {first second : String} (same : some (string first) = some (string second)) :
    first = second :=
  string_injective (Option.some.inj same)

end Json

/-! ## Dependency checks -/

namespace DependencyCheck

/-- The tag of a dependency check. -/
def tag : DependencyCheck → String
  | blocked => "blocked"
  | notBlocked => "not_blocked"
  | blocking => "blocking"
  | dependsOn _ => "depends_on"
  | blocks _ => "blocks"

theorem get?_kind (check : DependencyCheck) :
    check.json.normal.get? "kind" = some (.string check.tag) := by
  cases check <;> rfl

theorem get?_target (check : DependencyCheck) :
    check.json.normal.get? "target" = check.target?.map .string := by
  cases check <;> rfl

theorem eq_of_tag_of_target {first second : DependencyCheck} (sameTag : first.tag = second.tag)
    (sameTarget : first.target? = second.target?) : first = second := by
  cases first <;> cases second <;> simp_all [tag, target?]

theorem eq_of_normal_json_eq {first second : DependencyCheck}
    (same : first.json.normal = second.json.normal) : first = second := by
  have member := get?_eq_of_normal_eq same
  have kinds := member "kind"
  have targets := member "target"
  rw [get?_kind, get?_kind] at kinds
  rw [get?_target, get?_target] at targets
  exact eq_of_tag_of_target (string_inj kinds) (Option.map_injective string_injective targets)

end DependencyCheck

/-! ## Filters -/

namespace Filter

/-- The tags of a node, which say what kind of node it is. -/
def tags : Filter → String × Option String
  | comparison _ _ _ => ("comparison", none)
  | and _ _ => ("logical", some "and")
  | or _ _ => ("logical", some "or")
  | not _ => ("not", none)
  | dependency _ => ("dependency", none)

theorem get?_type (filter : Filter) :
    filter.json.normal.get? "type" = some (.string filter.tags.1) := by
  cases filter <;> rfl

theorem get?_op (filter : Filter) :
    filter.json.normal.get? "op" = filter.tags.2.map .string := by
  cases filter <;> rfl

theorem tags_eq_of_normal_json_eq {first second : Filter}
    (same : first.json.normal = second.json.normal) : first.tags = second.tags := by
  have types := get?_eq_of_normal_eq same "type"
  have connectives := get?_eq_of_normal_eq same "op"
  rw [get?_type, get?_type] at types
  rw [get?_op, get?_op] at connectives
  exact Prod.ext (string_inj types) (Option.map_injective string_injective connectives)

/-- Filters with the same JSON are the same, node by node from the root. -/
theorem eq_of_normal_json_eq {first second : Filter}
    (same : first.json.normal = second.json.normal) : first = second := by
  induction first generalizing second with
  | comparison field operator value =>
      have kind := tags_eq_of_normal_json_eq same
      have member := get?_eq_of_normal_eq same
      cases second with
      | comparison otherField otherOperator otherValue =>
          obtain rfl : field = otherField := string_inj (member "field")
          obtain rfl : operator = otherOperator :=
            Operator.tag_injective (string_inj (member "operator"))
          obtain rfl : value = otherValue := string_inj (member "value")
          rfl
      | and | or | not | dependency => simp [tags] at kind
  | and left right leftSame rightSame =>
      have kind := tags_eq_of_normal_json_eq same
      have member := get?_eq_of_normal_eq same
      cases second with
      | and otherLeft otherRight =>
          obtain rfl : left = otherLeft := leftSame (Option.some.inj (member "left"))
          obtain rfl : right = otherRight := rightSame (Option.some.inj (member "right"))
          rfl
      | comparison | or | not | dependency => simp [tags] at kind
  | or left right leftSame rightSame =>
      have kind := tags_eq_of_normal_json_eq same
      have member := get?_eq_of_normal_eq same
      cases second with
      | or otherLeft otherRight =>
          obtain rfl : left = otherLeft := leftSame (Option.some.inj (member "left"))
          obtain rfl : right = otherRight := rightSame (Option.some.inj (member "right"))
          rfl
      | comparison | and | not | dependency => simp [tags] at kind
  | not operand operandSame =>
      have kind := tags_eq_of_normal_json_eq same
      have member := get?_eq_of_normal_eq same
      cases second with
      | not otherOperand =>
          obtain rfl : operand = otherOperand := operandSame (Option.some.inj (member "operand"))
          rfl
      | comparison | and | or | dependency => simp [tags] at kind
  | dependency check =>
      have kind := tags_eq_of_normal_json_eq same
      have member := get?_eq_of_normal_eq same
      cases second with
      | dependency otherCheck =>
          obtain rfl : check = otherCheck :=
            DependencyCheck.eq_of_normal_json_eq (Option.some.inj (member "check"))
          rfl
      | comparison | and | or | not => simp [tags] at kind

end Filter

/-! ## Queries -/

theorem SortKey.eq_of_normal_json_eq {first second : SortKey}
    (same : first.json.normal = second.json.normal) : first = second := by
  obtain ⟨field, direction⟩ := first
  obtain ⟨otherField, otherDirection⟩ := second
  have member := get?_eq_of_normal_eq same
  obtain rfl : field = otherField := string_inj (member "field")
  obtain rfl : direction = otherDirection :=
    SortDirection.text_injective (string_inj (member "direction"))
  rfl

/-- The sort keys of a query as a member of its JSON, if there are any. -/
def sortMember (keys : List SortKey) : Option Json :=
  if keys.isEmpty then none else some (.array (keys.map fun key => key.json.normal))

theorem sortMember_injective : Function.Injective sortMember := by
  have keysInjective : Function.Injective fun keys : List SortKey =>
      keys.map fun key => key.json.normal :=
    List.map_injective_iff.mpr fun _ _ => SortKey.eq_of_normal_json_eq
  intro first second same
  cases first with
  | nil =>
      cases second with
      | nil => rfl
      | cons key keys => cases same
  | cons key keys =>
      cases second with
      | nil => cases same
      | cons otherKey otherKeys => exact keysInjective (Json.array.inj (Option.some.inj same))

/-- The field of a group clause as a member of the JSON of its query. -/
def groupMember (field : String) : Json :=
  (Json.object [("field", .string field)]).normal

theorem groupMember_injective : Function.Injective groupMember := by
  intro first second same
  have member : (groupMember first).get? "field" = (groupMember second).get? "field" :=
    congrArg (get? "field") same
  exact string_inj member

namespace Query

theorem get?_filter (query : Query) :
    query.json.normal.get? "filter" = query.filter.map fun filter => filter.json.normal := by
  obtain ⟨filter, sort, group⟩ := query
  cases filter <;> cases sort <;> cases group <;> rfl

theorem get?_sort (query : Query) : query.json.normal.get? "sort" = sortMember query.sort := by
  obtain ⟨filter, sort, group⟩ := query
  rw [sortMember, ← Function.comp_def, ← List.map_map, ← normalItems_eq_map]
  cases filter <;> cases sort <;> cases group <;> rfl

theorem get?_group (query : Query) :
    query.json.normal.get? "group" = query.group.map groupMember := by
  obtain ⟨filter, sort, group⟩ := query
  cases filter <;> cases sort <;> cases group <;> rfl

theorem eq_of_normal_json_eq {first second : Query}
    (same : first.json.normal = second.json.normal) : first = second := by
  have filters := get?_eq_of_normal_eq same "filter"
  have sorts := get?_eq_of_normal_eq same "sort"
  have groups := get?_eq_of_normal_eq same "group"
  rw [get?_filter, get?_filter] at filters
  rw [get?_sort, get?_sort] at sorts
  rw [get?_group, get?_group] at groups
  have sameFilter : first.filter = second.filter :=
    Option.map_injective (fun _ _ => Filter.eq_of_normal_json_eq) filters
  have sameSort : first.sort = second.sort := sortMember_injective sorts
  have sameGroup : first.group = second.group :=
    Option.map_injective groupMember_injective groups
  rw [Query.mk.injEq]
  exact ⟨sameFilter, sameSort, sameGroup⟩

end Query

/-- An explanation has the JSON of its query as a member, with its tokens and without. -/
theorem Explanation.get?_query [Pattern.Wording] (explanation : Explanation) :
    explanation.json.normal.get? "query" = some explanation.query.json.normal := by
  rw [Explanation.json, get?_normal_object]
  cases explanation.shownTokens <;> rfl

/-- The JSON of a query loses nothing, and neither does that of a filter: where two of them are
the same JSON value, in whatever order the members of their objects stand, what they were
written for is the same. An explanation has the JSON of its query as a member. -/
theorem normal_json_eq_iff [Pattern.Wording] :
    (∀ first second : Query, first.json.normal = second.json.normal ↔ first = second) ∧
    (∀ first second : Filter, first.json.normal = second.json.normal ↔ first = second) ∧
    ∀ explanation : Explanation,
      explanation.json.normal.get? "query" = some explanation.query.json.normal := by
  refine ⟨fun first second => ?_, fun first second => ?_, Explanation.get?_query⟩
  · exact ⟨Query.eq_of_normal_json_eq, fun same => same ▸ rfl⟩
  · exact ⟨Filter.eq_of_normal_json_eq, fun same => same ▸ rfl⟩

end TaskQuery

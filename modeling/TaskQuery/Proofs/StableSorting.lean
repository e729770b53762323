/-
# The stable sort by several keys

Sorted tasks are the tasks that were given, any two of them in the order of the first
key under which they differ, and where none tells them apart, in the order in which
they came. These three together say which list it is.

What it means to differ under a key is said here without the values that sorting looks
up beforehand. A task may have no value under a key: there is nothing in the field, or
a text or a list that is empty, or the field holds dates and the text is none. Such a
task comes behind all others. Two tasks with values are compared by the ranks of their
priorities, by instants or by text, as the field demands. A descending key turns this
around, tasks without a value included, but not the order in which equal tasks came.
-/

import Mathlib.Data.List.Nodup
import TaskQuery.Proofs.SortOrder

namespace TaskQuery

namespace Vocabulary

variable (vocabulary : Vocabulary)

/-! ## Comparing under one key -/

/-- A field is ordered by the ranks of priorities. -/
def OrdersByRank (field : String) : Prop :=
  vocabulary.canonicalField field = priorityField

/-- A field is ordered by instants. The priority never is, even if it is declared to hold
dates. -/
def OrdersByInstant (field : String) : Prop :=
  ¬ vocabulary.OrdersByRank field ∧
    vocabulary.isDateField (vocabulary.canonicalField field) = true

/-- A field is ordered by its text. -/
def OrdersByText (field : String) : Prop :=
  ¬ vocabulary.OrdersByRank field ∧
    vocabulary.isDateField (vocabulary.canonicalField field) = false

/-- The text of a field of a task. -/
def fieldText (task : Task) (field : String) : String :=
  (vocabulary.resolve task field).toText

/-- A task has nothing to be ordered by under a field. -/
inductive LacksValue (field : String) (task : Task) : Prop
  | missing (value : vocabulary.resolve task field = .missing)
  | emptyText (value : vocabulary.resolve task field = .text "")
  | emptyList (value : vocabulary.resolve task field = .list [])
  | noInstant (ordersByInstant : vocabulary.OrdersByInstant field)
      (unread : Instant.ofText? (vocabulary.fieldText task field) = none)

/-- How two tasks compare under a field, ascending. -/
inductive Compares (field : String) (a b : Task) : Ordering → Prop
  | bothLack (first : vocabulary.LacksValue field a) (second : vocabulary.LacksValue field b) :
      Compares field a b .eq
  | firstLacks (first : vocabulary.LacksValue field a)
      (second : ¬ vocabulary.LacksValue field b) : Compares field a b .gt
  | secondLacks (first : ¬ vocabulary.LacksValue field a)
      (second : vocabulary.LacksValue field b) : Compares field a b .lt
  | byRank (first : ¬ vocabulary.LacksValue field a) (second : ¬ vocabulary.LacksValue field b)
      (ordersByRank : vocabulary.OrdersByRank field) :
      Compares field a b (compare (vocabulary.priorityRank (vocabulary.fieldText a field))
        (vocabulary.priorityRank (vocabulary.fieldText b field)))
  | byInstant (first : ¬ vocabulary.LacksValue field a) (second : ¬ vocabulary.LacksValue field b)
      (ordersByInstant : vocabulary.OrdersByInstant field) {firstInstant secondInstant : Instant}
      (isFirst : Instant.ofText? (vocabulary.fieldText a field) = some firstInstant)
      (isSecond : Instant.ofText? (vocabulary.fieldText b field) = some secondInstant) :
      Compares field a b (compare firstInstant secondInstant)
  | byText (first : ¬ vocabulary.LacksValue field a) (second : ¬ vocabulary.LacksValue field b)
      (ordersByText : vocabulary.OrdersByText field) :
      Compares field a b
        (compare (vocabulary.fieldText a field) (vocabulary.fieldText b field))

/-- How two tasks compare under a key. -/
def ComparesUnder (key : SortKey) (a b : Task) (ordering : Ordering) : Prop :=
  match key.direction with
  | .asc => vocabulary.Compares key.field a b ordering
  | .desc => vocabulary.Compares key.field b a ordering

variable {vocabulary : Vocabulary} {field : String} {task a b : Task}

theorem isMissing_iff {value : FieldValue} :
    value.isMissing = true ↔ value = .missing ∨ value = .text "" ∨ value = .list [] := by
  cases value <;> simp [FieldValue.isMissing]

theorem sortValue_of_isMissing (absent : (vocabulary.resolve task field).isMissing = true) :
    vocabulary.sortValue task field = none :=
  if_pos absent

theorem sortValue_of_ordersByRank (present : (vocabulary.resolve task field).isMissing = false)
    (ordersByRank : vocabulary.OrdersByRank field) :
    vocabulary.sortValue task field =
      some (.rank (vocabulary.priorityRank (vocabulary.fieldText task field))) := by
  rw [sortValue, present, beq_iff_eq.mpr ordersByRank]
  rfl

theorem sortValue_of_ordersByInstant
    (present : (vocabulary.resolve task field).isMissing = false)
    (ordersByInstant : vocabulary.OrdersByInstant field) :
    vocabulary.sortValue task field =
      (Instant.ofText? (vocabulary.fieldText task field)).map .instant := by
  rw [sortValue, present, beq_eq_false_iff_ne.mpr ordersByInstant.1, ordersByInstant.2]
  rfl

theorem sortValue_of_ordersByText (present : (vocabulary.resolve task field).isMissing = false)
    (ordersByText : vocabulary.OrdersByText field) :
    vocabulary.sortValue task field = some (.text (vocabulary.fieldText task field)) := by
  rw [sortValue, present, beq_eq_false_iff_ne.mpr ordersByText.1, ordersByText.2]
  rfl

/-- A field is ordered in one of three ways. -/
theorem orders_cases (vocabulary : Vocabulary) (field : String) :
    vocabulary.OrdersByRank field ∨ vocabulary.OrdersByInstant field ∨
      vocabulary.OrdersByText field := by
  by_cases byRank : vocabulary.OrdersByRank field
  · exact Or.inl byRank
  · cases ofDates : vocabulary.isDateField (vocabulary.canonicalField field) with
    | true => exact Or.inr (Or.inl ⟨byRank, ofDates⟩)
    | false => exact Or.inr (Or.inr ⟨byRank, ofDates⟩)

/-- Sorting looks up nothing exactly for the tasks without a value. -/
theorem sortValue_eq_none_iff :
    vocabulary.sortValue task field = none ↔ vocabulary.LacksValue field task := by
  cases absent : (vocabulary.resolve task field).isMissing with
  | true =>
      refine iff_of_true (sortValue_of_isMissing absent) ?_
      rcases isMissing_iff.mp absent with value | value | value
      · exact .missing value
      · exact .emptyText value
      · exact .emptyList value
  | false =>
      have present : ¬ (vocabulary.resolve task field).isMissing = true := by
        rw [absent]
        exact Bool.false_ne_true
      rw [isMissing_iff, not_or, not_or] at present
      constructor
      · intro none
        rcases vocabulary.orders_cases field with byRank | byInstant | byText
        · rw [sortValue_of_ordersByRank absent byRank] at none
          cases none
        · rw [sortValue_of_ordersByInstant absent byInstant, Option.map_eq_none_iff] at none
          exact .noInstant byInstant none
        · rw [sortValue_of_ordersByText absent byText] at none
          cases none
      · rintro (value | value | value | ⟨byInstant, unread⟩)
        · exact absurd value present.1
        · exact absurd value present.2.1
        · exact absurd value present.2.2
        · rw [sortValue_of_ordersByInstant absent byInstant, unread]
          rfl

theorem isMissing_of_not_lacksValue (has : ¬ vocabulary.LacksValue field task) :
    (vocabulary.resolve task field).isMissing = false := by
  rw [← sortValue_eq_none_iff] at has
  exact Bool.eq_false_iff.mpr fun absent => has (sortValue_of_isMissing absent)

theorem exists_sortValue (has : ¬ vocabulary.LacksValue field task) :
    ∃ value, vocabulary.sortValue task field = some value :=
  Option.ne_none_iff_exists'.mp (mt sortValue_eq_none_iff.mp has)

/-- What sorting looks up compares as the tasks do. -/
theorem compares_iff {ordering : Ordering} :
    vocabulary.Compares field a b ordering ↔
      compareOptional (vocabulary.sortValue a field) (vocabulary.sortValue b field) = ordering := by
  constructor
  · intro compares
    cases compares with
    | bothLack first second =>
        rw [sortValue_eq_none_iff.mpr first, sortValue_eq_none_iff.mpr second]
        rfl
    | firstLacks first second =>
        obtain ⟨value, isValue⟩ := exists_sortValue second
        rw [sortValue_eq_none_iff.mpr first, isValue]
        rfl
    | secondLacks first second =>
        obtain ⟨value, isValue⟩ := exists_sortValue first
        rw [sortValue_eq_none_iff.mpr second, isValue]
        rfl
    | byRank first second byRank =>
        rw [sortValue_of_ordersByRank (isMissing_of_not_lacksValue first) byRank,
          sortValue_of_ordersByRank (isMissing_of_not_lacksValue second) byRank]
        rfl
    | byInstant first second byInstant isFirst isSecond =>
        rw [sortValue_of_ordersByInstant (isMissing_of_not_lacksValue first) byInstant,
          sortValue_of_ordersByInstant (isMissing_of_not_lacksValue second) byInstant, isFirst,
          isSecond]
        rfl
    | byText first second byText =>
        rw [sortValue_of_ordersByText (isMissing_of_not_lacksValue first) byText,
          sortValue_of_ordersByText (isMissing_of_not_lacksValue second) byText]
        rfl
  · rintro rfl
    by_cases first : vocabulary.LacksValue field a <;>
      by_cases second : vocabulary.LacksValue field b
    · rw [sortValue_eq_none_iff.mpr first, sortValue_eq_none_iff.mpr second]
      exact .bothLack first second
    · obtain ⟨value, isValue⟩ := exists_sortValue second
      rw [sortValue_eq_none_iff.mpr first, isValue]
      exact .firstLacks first second
    · obtain ⟨value, isValue⟩ := exists_sortValue first
      rw [sortValue_eq_none_iff.mpr second, isValue]
      exact .secondLacks first second
    · have firstPresent := isMissing_of_not_lacksValue first
      have secondPresent := isMissing_of_not_lacksValue second
      rcases vocabulary.orders_cases field with byRank | byInstant | byText
      · rw [sortValue_of_ordersByRank firstPresent byRank,
          sortValue_of_ordersByRank secondPresent byRank]
        exact .byRank first second byRank
      · obtain ⟨firstValue, isFirst⟩ := exists_sortValue first
        obtain ⟨secondValue, isSecond⟩ := exists_sortValue second
        rw [isFirst, isSecond]
        rw [sortValue_of_ordersByInstant firstPresent byInstant] at isFirst
        rw [sortValue_of_ordersByInstant secondPresent byInstant] at isSecond
        obtain ⟨firstInstant, firstReads, rfl⟩ := Option.map_eq_some_iff.mp isFirst
        obtain ⟨secondInstant, secondReads, rfl⟩ := Option.map_eq_some_iff.mp isSecond
        exact .byInstant first second byInstant firstReads secondReads
      · rw [sortValue_of_ordersByText firstPresent byText,
          sortValue_of_ordersByText secondPresent byText]
        exact .byText first second byText

theorem comparesUnder_iff {key : SortKey} {ordering : Ordering} :
    vocabulary.ComparesUnder key a b ordering ↔
      key.direction.compare (vocabulary.sortValue a key.field)
        (vocabulary.sortValue b key.field) = ordering := by
  rw [ComparesUnder]
  cases key.direction with
  | asc => exact compares_iff
  | desc => rw [SortDirection.compare_desc]; exact compares_iff

/-! ## Comparing under several keys -/

/-- One task has to come before another: under the first key where they differ it does. -/
def Precedes (keys : List SortKey) (a b : Task) : Prop :=
  ∃ before key behind, keys = before ++ key :: behind ∧
    (∀ earlier ∈ before, vocabulary.ComparesUnder earlier a b .eq) ∧
      vocabulary.ComparesUnder key a b .lt

/-- No key tells two tasks apart. -/
def Ties (keys : List SortKey) (a b : Task) : Prop :=
  ∀ key ∈ keys, vocabulary.ComparesUnder key a b .eq

variable {keys : List SortKey}

theorem ties_iff : vocabulary.Ties keys a b ↔ vocabulary.compareTasks keys a b = .eq := by
  rw [compareTasks_eq_iff]
  refine forall₂_congr fun key _ => ?_
  rw [comparesUnder_iff, Std.LawfulEqCmp.compare_eq_iff_eq]

theorem precedes_cons_iff {key : SortKey} :
    vocabulary.Precedes (key :: keys) a b ↔
      vocabulary.ComparesUnder key a b .lt ∨
        vocabulary.ComparesUnder key a b .eq ∧ vocabulary.Precedes keys a b := by
  constructor
  · rintro ⟨before, first, behind, same, level, below⟩
    cases before with
    | nil =>
        obtain ⟨rfl, rfl⟩ := List.cons.inj same
        exact Or.inl below
    | cons earlier before =>
        obtain ⟨rfl, rfl⟩ := List.cons.inj same
        obtain ⟨here, others⟩ := List.forall_mem_cons.mp level
        exact Or.inr ⟨here, before, first, behind, rfl, others, below⟩
  · rintro (below | ⟨here, before, first, behind, rfl, others, below⟩)
    · exact ⟨[], key, keys, rfl, List.forall_mem_nil _, below⟩
    · exact ⟨key :: before, first, behind, rfl, List.forall_mem_cons.mpr ⟨here, others⟩, below⟩

theorem precedes_iff : vocabulary.Precedes keys a b ↔ vocabulary.compareTasks keys a b = .lt := by
  induction keys with
  | nil => simp [Precedes, compareTasks]
  | cons key keys ih =>
      rw [precedes_cons_iff, ih, comparesUnder_iff, comparesUnder_iff, compareTasks,
        compareLex, Ordering.then_eq_lt]

/-- Of two tasks that stand in order, one precedes the other unless they tie. -/
theorem precedes_or_ties_of_inOrder (sorted : vocabulary.inOrder keys a b = true) :
    vocabulary.Precedes keys a b ∨ vocabulary.Ties keys a b := by
  rw [precedes_iff, ties_iff]
  exact Ordering.isLE_iff_eq_lt_or_eq_eq.mp sorted

/-- A task does not stand in front of one that precedes it. -/
theorem not_inOrder_of_precedes (precedes : vocabulary.Precedes keys a b) :
    vocabulary.inOrder keys b a = false := by
  rw [inOrder, ← compareTasks_swap, precedes_iff.mp precedes]
  rfl

theorem inOrder_of_ties (ties : vocabulary.Ties keys a b) :
    vocabulary.inOrder keys b a = true := by
  rw [inOrder, ← compareTasks_swap, ties_iff.mp ties]
  rfl

/-! ## Sorted tasks and their places -/

section Places

variable (vocabulary : Vocabulary) (keys : List SortKey) (tasks : List Task)

/-- Tasks with their places, in the order of the keys and then of the places. -/
def placedTasks : List (Task × Nat) :=
  tasks.zipIdx.mergeSort (List.zipIdxLE (vocabulary.inOrder keys))

theorem placedTasks_perm : (vocabulary.placedTasks keys tasks).Perm tasks.zipIdx :=
  List.mergeSort_perm _ _

/-- Looking at the places changes nothing, for sorting is stable. -/
theorem map_placedTasks :
    (vocabulary.placedTasks keys tasks).map Prod.fst = vocabulary.sortTasks keys tasks := by
  rw [sortTasks_eq_mergeSort]
  exact List.mergeSort_zipIdx

theorem pairwise_ne_placedTasks :
    (vocabulary.placedTasks keys tasks).Pairwise fun first second => first.2 ≠ second.2 := by
  have places : (tasks.zipIdx.map Prod.snd).Nodup := by
    rw [List.zipIdx_map_snd]
    exact List.nodup_range'
  exact List.pairwise_map.mp
    (((vocabulary.placedTasks_perm keys tasks).map Prod.snd).nodup_iff.mpr places)

theorem pairwise_placedTasks :
    (vocabulary.placedTasks keys tasks).Pairwise fun first second =>
      vocabulary.Precedes keys first.1 second.1 ∨
        vocabulary.Ties keys first.1 second.1 ∧ first.2 < second.2 := by
  have sorted : (vocabulary.placedTasks keys tasks).Pairwise fun first second =>
      List.zipIdxLE (vocabulary.inOrder keys) first second = true :=
    List.pairwise_mergeSort (List.zipIdxLE_trans inOrder_trans)
      (List.zipIdxLE_total inOrder_total) tasks.zipIdx
  refine (sorted.and (vocabulary.pairwise_ne_placedTasks keys tasks)).imp ?_
  rintro ⟨first, firstPlace⟩ ⟨second, secondPlace⟩ ⟨placed, apart⟩
  cases inOrder : vocabulary.inOrder keys first second with
  | false => simp [List.zipIdxLE, inOrder] at placed
  | true =>
      refine (precedes_or_ties_of_inOrder inOrder).imp_right fun ties => ⟨ties, ?_⟩
      have notBehind : firstPlace ≤ secondPlace := by
        simpa [List.zipIdxLE, inOrder, inOrder_of_ties ties] using placed
      exact Nat.lt_of_le_of_ne notBehind apart

/-- Sorting rearranges the tasks so that of any two the one in front precedes the other
or ties with it, and then also came first. -/
theorem sortTasks_stable :
    (vocabulary.sortTasks keys tasks).Perm tasks ∧
      ∃ placed : List (Task × Nat), placed.Perm tasks.zipIdx ∧
        placed.map Prod.fst = vocabulary.sortTasks keys tasks ∧
        placed.Pairwise fun first second =>
          vocabulary.Precedes keys first.1 second.1 ∨
            vocabulary.Ties keys first.1 second.1 ∧ first.2 < second.2 :=
  ⟨vocabulary.sortTasks_perm keys tasks, vocabulary.placedTasks keys tasks,
    vocabulary.placedTasks_perm keys tasks, vocabulary.map_placedTasks keys tasks,
    vocabulary.pairwise_placedTasks keys tasks⟩

end Places

end Vocabulary

end TaskQuery

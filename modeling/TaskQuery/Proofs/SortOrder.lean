/-
# The order of sorted tasks

Sorting keys make a total preorder on tasks: any two tasks are in order one way or
the other, and order carries over from one pair to the next. Tasks are sorted stably
by it, and two facts about stable sorting are what the rest of the theory uses.
Leaving out tasks before or after sorting makes no difference, and where no two
tasks are equal in the order, the sorted list does not depend on the order in which
the tasks came.

That two tasks are equal in the order does not make them one task; it only says that
they have the same value under every key.
-/

import TaskQuery.Query.Order

namespace TaskQuery

/-! ## Stable sorting -/

section Stable

variable {α : Type} {le : α → α → Bool}

/-- A list has one cut with a property in front and without it behind. -/
theorem eq_of_append_eq_append (property : α → Bool) {before behind before' behind' : List α}
    (same : before ++ behind = before' ++ behind')
    (front : ∀ a ∈ before, property a = true) (back : ∀ a ∈ behind, property a = false)
    (front' : ∀ a ∈ before', property a = true) (back' : ∀ a ∈ behind', property a = false) :
    before = before' ∧ behind = behind' := by
  have kept {front back : List α} (holds : ∀ a ∈ front, property a = true)
      (fails : ∀ a ∈ back, property a = false) : (front ++ back).filter property = front := by
    have none : back.filter property = [] :=
      List.filter_eq_nil_iff.mpr fun a member => by simp [fails a member]
    rw [List.filter_append, List.filter_eq_self.mpr holds, none, List.append_nil]
  have sameFront : before = before' := by
    rw [← kept front back, same, kept front' back']
  subst before'
  exact ⟨rfl, List.append_cancel_left same⟩

/-- An element is sorted in behind all smaller ones and in front of all others. -/
theorem exists_mergeSort_cons (trans : ∀ a b c, le a b = true → le b c = true → le a c = true)
    (total : ∀ a b, (le a b || le b a) = true) (a : α) (l : List α) :
    ∃ before behind, (a :: l).mergeSort le = before ++ a :: behind ∧
      l.mergeSort le = before ++ behind ∧
      (∀ b ∈ before, le a b = false) ∧ ∀ b ∈ behind, le a b = true := by
  obtain ⟨before, behind, whole, rest, smaller⟩ := List.mergeSort_cons trans total a l
  refine ⟨before, behind, whole, rest, fun b member => by simpa using smaller b member, ?_⟩
  have sorted := List.pairwise_mergeSort trans total (a :: l)
  rw [whole] at sorted
  exact (List.pairwise_cons.mp (List.pairwise_append.mp sorted).2.1).1

/-- Leaving out elements and sorting stably can change places. -/
theorem filter_mergeSort (trans : ∀ a b c, le a b = true → le b c = true → le a c = true)
    (total : ∀ a b, (le a b || le b a) = true) (keep : α → Bool) (l : List α) :
    (l.mergeSort le).filter keep = (l.filter keep).mergeSort le := by
  induction l with
  | nil => simp
  | cons a l ih =>
      obtain ⟨before, behind, whole, rest, smaller, notSmaller⟩ :=
        exists_mergeSort_cons trans total a l
      have filtered : (l.filter keep).mergeSort le = before.filter keep ++ behind.filter keep := by
        rw [← ih, rest, List.filter_append]
      by_cases kept : keep a = true
      · obtain ⟨before', behind', whole', rest', smaller', notSmaller'⟩ :=
          exists_mergeSort_cons trans total a (l.filter keep)
        -- The element goes to the one place where the smaller elements end.
        obtain ⟨rfl, rfl⟩ := eq_of_append_eq_append (fun b => !le a b)
          (filtered.symm.trans rest')
          (fun b member => by simp [smaller b (List.mem_filter.mp member).1])
          (fun b member => by simp [notSmaller b (List.mem_filter.mp member).1])
          (fun b member => by simp [smaller' b member])
          (fun b member => by simp [notSmaller' b member])
        rw [whole, List.filter_append, List.filter_cons_of_pos kept,
          List.filter_cons_of_pos kept, whole']
      · rw [whole, List.filter_append, List.filter_cons_of_neg kept,
          List.filter_cons_of_neg kept, filtered]

/-- Sorting by a text puts the texts in order. -/
theorem pairwise_mergeSort_text (text : α → String) (l : List α) :
    (l.mergeSort fun a b => text a ≤ text b).Pairwise fun a b => text a ≤ text b := by
  refine (List.pairwise_mergeSort ?_ ?_ l).imp of_decide_eq_true
  · intro a b c below above
    exact decide_eq_true (String.le_trans (of_decide_eq_true below) (of_decide_eq_true above))
  · intro a b
    rw [Bool.or_eq_true, decide_eq_true_eq, decide_eq_true_eq]
    exact String.le_total (text a) (text b)

end Stable

/-! ## Lists without repetitions -/

theorem nodup_eraseDups {α : Type} [BEq α] [LawfulBEq α] (l : List α) : l.eraseDups.Nodup := by
  match l with
  | [] => simp
  | a :: l =>
      rw [List.eraseDups_cons, List.nodup_cons]
      refine ⟨fun again => ?_, nodup_eraseDups _⟩
      have kept := (List.mem_filter.mp (List.mem_eraseDups.mp again)).2
      simp at kept
termination_by l.length
decreasing_by exact Nat.lt_succ_of_le (List.length_filter_le _ _)

/-! ## The order of values -/

instance : Std.TransOrd Date :=
  inferInstanceAs (Std.TransCmp (compareOn Date.number))

instance : Std.LawfulEqOrd Date where
  eq_of_compare same := Date.ext (Std.LawfulEqOrd.eq_of_compare (α := Int) same)

instance : Std.TransOrd Instant :=
  inferInstanceAs (Std.TransCmp (compareLex (compareOn Instant.date)
    (compareLex (compareOn Instant.hour)
      (compareLex (compareOn Instant.minute) (compareOn Instant.second)))))

instance : Std.LawfulEqOrd Instant where
  eq_of_compare {a b} same := by
    have parts : compareLex (compareOn Instant.date) (compareLex (compareOn Instant.hour)
        (compareLex (compareOn Instant.minute) (compareOn Instant.second))) a b = .eq := same
    simp only [compareLex_eq_eq, compareOn, Std.LawfulEqOrd.compare_eq_iff_eq] at parts
    obtain ⟨date, hour, minute, second⟩ := parts
    cases a
    cases b
    simp_all

/-- Values of one kind are compared within it, and other values by their kinds. -/
instance : Std.TransOrd SortValue where
  eq_swap {a b} := by
    cases a <;> cases b <;>
      first
        | rfl
        | exact Std.OrientedOrd.eq_swap (α := Nat)
        | exact Std.OrientedOrd.eq_swap (α := Instant)
        | exact Std.OrientedOrd.eq_swap (α := String)
  isLE_trans {a b c} below above := by
    cases a <;> cases b <;> cases c <;>
      first
        | rfl
        | exact absurd below Bool.false_ne_true
        | exact absurd above Bool.false_ne_true
        | exact Std.TransOrd.isLE_trans (α := Nat) below above
        | exact Std.TransOrd.isLE_trans (α := Instant) below above
        | exact Std.TransOrd.isLE_trans (α := String) below above

instance : Std.LawfulEqOrd SortValue where
  compare_self {a} := by
    cases a with
    | rank a => exact Std.ReflOrd.compare_self (α := Nat)
    | instant a => exact Std.ReflOrd.compare_self (α := Instant)
    | text a => exact Std.ReflOrd.compare_self (α := String)
  eq_of_compare {a b} same := by
    cases a <;> cases b <;>
      first
        | cases same
        | exact congrArg SortValue.rank (Std.LawfulEqOrd.eq_of_compare same)
        | exact congrArg SortValue.instant (Std.LawfulEqOrd.eq_of_compare same)
        | exact congrArg SortValue.text (Std.LawfulEqOrd.eq_of_compare same)

/-- A value that is absent comes behind all others. -/
instance : Std.TransCmp compareOptional where
  eq_swap {a b} := by
    cases a <;> cases b <;> first | rfl | exact Std.OrientedOrd.eq_swap (α := SortValue)
  isLE_trans {a b c} below above := by
    cases a <;> cases b <;> cases c <;>
      first
        | rfl
        | exact absurd below Bool.false_ne_true
        | exact absurd above Bool.false_ne_true
        | exact Std.TransOrd.isLE_trans (α := SortValue) below above

instance : Std.LawfulEqCmp compareOptional where
  compare_self {a} := by
    cases a with
    | none => rfl
    | some a => exact Std.ReflOrd.compare_self (α := SortValue)
  eq_of_compare {a b} same := by
    cases a <;> cases b <;>
      first
        | rfl
        | cases same
        | exact congrArg some (Std.LawfulEqOrd.eq_of_compare same)

theorem SortDirection.compare_desc (a b : Option SortValue) :
    SortDirection.desc.compare a b = compareOptional b a :=
  Std.OrientedCmp.eq_swap.symm

/-- A direction turns the order around or leaves it as it is. -/
instance (direction : SortDirection) : Std.TransCmp direction.compare := by
  cases direction with
  | asc => exact inferInstanceAs (Std.TransCmp compareOptional)
  | desc =>
      have turned : SortDirection.desc.compare = fun a b => compareOptional b a := by
        funext a b
        exact SortDirection.compare_desc a b
      rw [turned]
      exact Std.TransCmp.opposite

instance (direction : SortDirection) : Std.LawfulEqCmp direction.compare where
  eq_of_compare {a b} same := by
    cases direction with
    | asc => exact Std.LawfulEqCmp.eq_of_compare (show compareOptional a b = .eq from same)
    | desc =>
        rw [SortDirection.compare_desc] at same
        exact (Std.LawfulEqCmp.eq_of_compare same).symm

/-! ## The order of tasks -/

namespace Vocabulary

variable {vocabulary : Vocabulary} {keys : List SortKey}

/-- The order of two tasks, by the first key under which they differ. -/
def compareTasks (vocabulary : Vocabulary) : List SortKey → Task → Task → Ordering
  | [] => fun _ _ => .eq
  | key :: keys =>
      compareLex
        (fun a b => key.direction.compare (vocabulary.sortValue a key.field)
          (vocabulary.sortValue b key.field))
        (vocabulary.compareTasks keys)

/-- Whether two tasks may stand in this order. -/
def inOrder (vocabulary : Vocabulary) (keys : List SortKey) (a b : Task) : Bool :=
  (vocabulary.compareTasks keys a b).isLE

theorem compareRows_sortRow (vocabulary : Vocabulary) (keys : List SortKey) (a b : Task) :
    compareRows (keys.map SortKey.direction) (vocabulary.sortRow keys a)
      (vocabulary.sortRow keys b) = vocabulary.compareTasks keys a b := by
  induction keys with
  | nil => rfl
  | cons key keys ih => exact congrArg (Ordering.then _) ih

/-- Looking values up beforehand makes no difference to the order. -/
theorem sortTasks_eq_mergeSort (vocabulary : Vocabulary) (keys : List SortKey)
    (tasks : List Task) :
    vocabulary.sortTasks keys tasks = tasks.mergeSort (vocabulary.inOrder keys) := by
  have rows := List.map_mergeSort (r := vocabulary.inOrder keys)
    (s := fun a b => (compareRows (keys.map SortKey.direction) a.1 b.1).isLE)
    (f := fun task => (vocabulary.sortRow keys task, task)) (l := tasks)
    (fun a _ b _ => by rw [compareRows_sortRow, inOrder])
  rw [sortTasks, ← rows, List.map_map]
  exact List.map_id _

instance (vocabulary : Vocabulary) (keys : List SortKey) :
    Std.TransCmp (vocabulary.compareTasks keys) := by
  induction keys with
  | nil => exact { eq_swap := rfl, isLE_trans := fun _ _ => rfl }
  | cons key keys ih =>
      have value : Std.TransCmp fun a b => key.direction.compare
          (vocabulary.sortValue a key.field) (vocabulary.sortValue b key.field) :=
        { eq_swap := Std.OrientedCmp.eq_swap, isLE_trans := Std.TransCmp.isLE_trans }
      exact inferInstanceAs (Std.TransCmp (compareLex _ _))

/-- Tasks are equal in the order exactly if they have the same value under each key. -/
theorem compareTasks_eq_iff {a b : Task} :
    vocabulary.compareTasks keys a b = .eq ↔
      ∀ key ∈ keys, vocabulary.sortValue a key.field = vocabulary.sortValue b key.field := by
  induction keys with
  | nil => simp [compareTasks]
  | cons key keys ih =>
      rw [compareTasks, compareLex_eq_eq, ih, Std.LawfulEqCmp.compare_eq_iff_eq,
        List.forall_mem_cons]

theorem inOrder_trans (a b c : Task) (first : vocabulary.inOrder keys a b = true)
    (second : vocabulary.inOrder keys b c = true) : vocabulary.inOrder keys a c = true :=
  Std.TransCmp.isLE_trans first second

/-- Two tasks compare the other way around when they change places. -/
theorem compareTasks_swap (a b : Task) :
    (vocabulary.compareTasks keys a b).swap = vocabulary.compareTasks keys b a :=
  Std.OrientedCmp.eq_swap.symm

theorem inOrder_total (a b : Task) :
    (vocabulary.inOrder keys a b || vocabulary.inOrder keys b a) = true := by
  rw [inOrder, inOrder, ← compareTasks_swap a b]
  cases vocabulary.compareTasks keys a b <;> rfl

/-! ## Sorted tasks -/

/-- Sorting neither adds nor loses a task. -/
theorem sortTasks_perm (vocabulary : Vocabulary) (keys : List SortKey) (tasks : List Task) :
    (vocabulary.sortTasks keys tasks).Perm tasks := by
  rw [sortTasks_eq_mergeSort]
  exact List.mergeSort_perm tasks _

/-- Sorted tasks stand in the order of the keys. -/
theorem pairwise_sortTasks (vocabulary : Vocabulary) (keys : List SortKey) (tasks : List Task) :
    (vocabulary.sortTasks keys tasks).Pairwise fun a b => vocabulary.inOrder keys a b = true := by
  rw [sortTasks_eq_mergeSort]
  exact List.pairwise_mergeSort inOrder_trans inOrder_total tasks

/-- Leaving out tasks and sorting can change places. -/
theorem filter_sortTasks (vocabulary : Vocabulary) (keys : List SortKey) (keep : Task → Bool)
    (tasks : List Task) :
    (vocabulary.sortTasks keys tasks).filter keep =
      vocabulary.sortTasks keys (tasks.filter keep) := by
  rw [sortTasks_eq_mergeSort, sortTasks_eq_mergeSort,
    filter_mergeSort inOrder_trans inOrder_total]

/-- Sorting again by the same keys changes nothing. -/
theorem sortTasks_sortTasks (vocabulary : Vocabulary) (keys : List SortKey) (tasks : List Task) :
    vocabulary.sortTasks keys (vocabulary.sortTasks keys tasks) =
      vocabulary.sortTasks keys tasks := by
  have sorted := pairwise_sortTasks vocabulary keys tasks
  rw [sortTasks_eq_mergeSort vocabulary keys (vocabulary.sortTasks keys tasks),
    List.mergeSort_of_pairwise sorted]

/-- Two tasks change places unless they stand in order. -/
theorem sortTasks_pair (vocabulary : Vocabulary) (keys : List SortKey) (a b : Task) :
    vocabulary.sortTasks keys [a, b] = if vocabulary.inOrder keys a b then [a, b] else [b, a] := by
  rw [sortTasks_eq_mergeSort]
  simp [List.mergeSort, List.merge, List.MergeSort.Internal.splitInTwo]

/-- Where the keys tell all tasks apart, it does not matter in which order they came. -/
theorem sortTasks_eq_of_perm {first second : List Task} (reordered : first.Perm second)
    (apart : ∀ a ∈ first, ∀ b ∈ first, vocabulary.compareTasks keys a b = .eq → a = b) :
    vocabulary.sortTasks keys first = vocabulary.sortTasks keys second := by
  have toFirst := vocabulary.sortTasks_perm keys first
  have toSecond := vocabulary.sortTasks_perm keys second
  refine List.Perm.eq_of_pairwise ?_ (vocabulary.pairwise_sortTasks keys first)
    (vocabulary.pairwise_sortTasks keys second)
    (toFirst.trans (reordered.trans toSecond.symm))
  intro a b inFirst inSecond below above
  have equal : vocabulary.compareTasks keys a b = .eq :=
    Std.OrientedCmp.isLE_antisymm below above
  exact apart a (toFirst.subset inFirst) b (reordered.symm.subset (toSecond.subset inSecond)) equal

end Vocabulary

end TaskQuery

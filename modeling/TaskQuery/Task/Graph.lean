/-
# Dependency graphs

A query asks a graph whether a task is blocked, whether it blocks another, and
which tasks depend on it. `DependencyGraph` is what a query may ask; `TaskGraph`
answers from the references that tasks list, read against all tasks at once.

Where several tasks have one id or one dependency id, the last of them counts for
what the id means, and the references of all of them count as edges. A reference
to nothing is ignored, and so is one that leads back to its own task.
-/

import TaskQuery.Task.Basic

namespace TaskQuery

/-- What a query may ask about the dependencies of tasks, which it names by id. -/
structure DependencyGraph where
  /-- Whether a task waits for one that is not complete. -/
  isBlocked : String → Bool
  /-- Whether a task that is not complete waits for this one. -/
  isBlocking : String → Bool
  /-- The tasks that depend on a task, directly or also through others. -/
  dependents : String → (transitive : Bool) → List String
  /-- The task that a reference stands for. -/
  resolve : String → String := id

/-- The graph in which no task depends on another. -/
def DependencyGraph.empty : DependencyGraph where
  isBlocked _ := false
  isBlocking _ := false
  dependents _ _ := []

/-! ## Tables of a list of tasks -/

/-- What the tasks of a list say about each other, in four tables. An entry is
looked up from the front, where the latest one for its key stands. -/
structure TaskGraph where
  /-- Whether a task is complete, by its id. -/
  complete : List (String × Bool) := []
  /-- The id of a task, by its dependency id. -/
  references : List (String × String) := []
  /-- The tasks that a task waits for, by its id. -/
  dependencies : List (String × List String) := []
  /-- The tasks that wait for a task, by its id. -/
  dependents : List (String × List String) := []
  deriving Repr

/-- The tasks that a table lists for an id. -/
def neighbours (table : List (String × List String)) (id : String) : List String :=
  (table.lookup id).getD []

/-- Lists one more task for an id, behind those that are listed already. -/
def addNeighbour (table : List (String × List String)) (id neighbour : String) :
    List (String × List String) :=
  (id, neighbours table id ++ [neighbour]) :: table

theorem neighbours_cons_self (id : String) (listed : List String)
    (table : List (String × List String)) : neighbours ((id, listed) :: table) id = listed := by
  simp [neighbours]

theorem neighbours_cons_of_ne {id other : String} (differ : other ≠ id) (listed : List String)
    (table : List (String × List String)) :
    neighbours ((id, listed) :: table) other = neighbours table other := by
  simp [neighbours, List.lookup_cons, beq_eq_false_iff_ne.mpr differ]

theorem mem_of_mem_neighbours {table : List (String × List String)} {id neighbour : String}
    (member : neighbour ∈ neighbours table id) : neighbour ∈ table.flatMap Prod.snd := by
  induction table with
  | nil => simp [neighbours] at member
  | cons entry table ih =>
      obtain ⟨key, listed⟩ := entry
      rw [List.flatMap_cons, List.mem_append]
      by_cases same : id = key
      · subst key
        rw [neighbours_cons_self] at member
        exact Or.inl member
      · rw [neighbours_cons_of_ne same] at member
        exact Or.inr (ih member)

namespace TaskGraph

/-- Enters the completion of a task and its dependency id, over what an earlier
task with the same id said. -/
def register (graph : TaskGraph) (task : Task) : TaskGraph :=
  { graph with
    complete := (task.id, task.isComplete) :: graph.complete
    references :=
      match task.dependencyId with
      | some reference => (reference, task.id) :: graph.references
      | none => graph.references }

/-- The task that a reference stands for, by dependency id first and then by id. -/
def resolve? (graph : TaskGraph) (reference : String) : Option String :=
  match graph.references.lookup reference with
  | some id => some id
  | none => if (graph.complete.lookup reference).isSome then some reference else none

/-- Enters that one task waits for another, on both sides. -/
def addEdge (graph : TaskGraph) (dependent dependency : String) : TaskGraph :=
  { graph with
    dependencies := addNeighbour graph.dependencies dependent dependency
    dependents := addNeighbour graph.dependents dependency dependent }

/-- Enters one reference of the task with an id. A reference to nothing is passed
over, and so is one that leads back to the task. -/
def connect (dependent : String) (graph : TaskGraph) (reference : String) : TaskGraph :=
  match graph.resolve? reference with
  | none => graph
  | some target => if target = dependent then graph else graph.addEdge dependent target

/-- Enters the references of a task. -/
def connectAll (graph : TaskGraph) (task : Task) : TaskGraph :=
  task.dependsOn.foldl (connect task.id) graph

/-- The graph of a list of tasks. All tasks are registered before any reference is
resolved, so a reference may lead forward in the list. -/
def ofTasks (tasks : List Task) : TaskGraph :=
  tasks.foldl connectAll (tasks.foldl register {})

/-- Whether an id belongs to a task that is not complete. -/
def isIncomplete (graph : TaskGraph) (id : String) : Bool :=
  graph.complete.lookup id == some false

/-- Whether a task waits for one that is not complete. -/
def isBlocked (graph : TaskGraph) (id : String) : Bool :=
  (neighbours graph.dependencies id).any graph.isIncomplete

/-- Whether a task is not complete and one that is not complete waits for it. -/
def isBlocking (graph : TaskGraph) (id : String) : Bool :=
  graph.isIncomplete id && (neighbours graph.dependents id).any graph.isIncomplete

end TaskGraph

/-! ## Collecting dependents -/

/-- A walk over a table: the tasks found so far, and those of them whose neighbours
are still to be looked at. -/
structure Walk where
  found : List String
  queue : List String

namespace Walk

/-- Takes note of a task, unless it was found before. Its own neighbours are looked
at later if the walk is transitive. -/
def note (transitive : Bool) (walk : Walk) (id : String) : Walk :=
  if walk.found.contains id then walk
  else ⟨walk.found ++ [id], if transitive then walk.queue ++ [id] else walk.queue⟩

/-- The steps that a walk can still take when it can only meet some tasks. -/
def budget (known : List String) (walk : Walk) : Nat :=
  (known.filter fun id => !walk.found.contains id).length + walk.queue.length

theorem unfound_append_lt {known found : List String} {id : String} (isKnown : id ∈ known)
    (isNew : id ∉ found) :
    (known.filter fun other => !(found ++ [id]).contains other).length
      < (known.filter fun other => !found.contains other).length := by
  have split : (fun other => !(found ++ [id]).contains other)
      = fun other => (!decide (other = id)) && !found.contains other := by
    funext other
    simp [Bool.and_comm]
  rw [split, ← List.filter_filter]
  refine List.length_filter_lt_length_iff_exists.mpr ⟨id, ?_, by simp⟩
  exact List.mem_filter.mpr ⟨isKnown, by simpa using isNew⟩

theorem budget_note_le {known : List String} {id : String} (isKnown : id ∈ known)
    (transitive : Bool) (walk : Walk) :
    (note transitive walk id).budget known ≤ walk.budget known := by
  by_cases old : walk.found.contains id = true
  · have kept : note transitive walk id = walk := by rw [note, if_pos old]
    exact Nat.le_of_eq (congrArg (budget known) kept)
  · have isNew : id ∉ walk.found := by simpa using old
    have fewer := unfound_append_lt isKnown isNew
    rw [note, if_neg old]
    cases transitive <;>
      simp only [budget, Bool.false_eq_true, if_false, if_true, List.length_append,
        List.length_singleton] <;> omega

theorem budget_foldl_note_le {known ids : List String} (areKnown : ∀ id ∈ ids, id ∈ known)
    (transitive : Bool) (walk : Walk) :
    (ids.foldl (note transitive) walk).budget known ≤ walk.budget known := by
  induction ids generalizing walk with
  | nil => exact Nat.le_refl _
  | cons id ids ih =>
      rw [List.foldl_cons]
      exact Nat.le_trans (ih (fun other member => areKnown other (List.mem_cons_of_mem _ member)) _)
        (budget_note_le (areKnown id List.mem_cons_self) transitive walk)

end Walk

/-- Walks until no task is left to be looked at, and gives the tasks found. A task
is queued only when it is found for the first time, so a cycle ends the walk. -/
def Walk.run (table : List (String × List String)) (transitive : Bool) (walk : Walk) :
    List String :=
  match walk with
  | ⟨found, []⟩ => found
  | ⟨found, current :: queue⟩ =>
      ((neighbours table current).foldl (Walk.note transitive) ⟨found, queue⟩).run table transitive
termination_by walk.budget (table.flatMap Prod.snd)
decreasing_by
  refine Nat.lt_of_le_of_lt
    (Walk.budget_foldl_note_le (fun _ => mem_of_mem_neighbours) transitive _) ?_
  simp [Walk.budget]

namespace TaskGraph

/-- The tasks that depend on a task, directly or also through others, each once and
never the task itself. -/
def dependentsOf (graph : TaskGraph) (id : String) (transitive : Bool) : List String :=
  (Walk.run graph.dependents transitive ⟨[], [id]⟩).filter fun dependent => dependent != id

/-- The questions of a query answered from a list of tasks. -/
def toDependencyGraph (graph : TaskGraph) : DependencyGraph where
  isBlocked := graph.isBlocked
  isBlocking := graph.isBlocking
  dependents := graph.dependentsOf
  resolve reference := (graph.resolve? reference).getD reference

end TaskGraph

/-- The graph of a list of tasks. -/
def DependencyGraph.ofTasks (tasks : List Task) : DependencyGraph :=
  (TaskGraph.ofTasks tasks).toDependencyGraph

end TaskQuery

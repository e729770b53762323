/-
# What blocked and blocking mean

A `TaskGraph` answers from four tables that are filled in two passes. This module
says what the answers mean in terms of the tasks alone. Nothing is asked of the
tasks: ids and dependency ids may be repeated, references may lead in circles, back
to their own task or to nothing.

Two facts carry the argument. The first pass leaves for every id and every
dependency id the last task that has it, and the second pass resolves against
these tables without changing them. The second pass enters every edge on both of
its sides, so the table of dependents is the table of dependencies turned around.
-/

import TaskQuery.Task.Graph

namespace TaskQuery

/-! ## The relation that tasks state -/

/-- The last task of a list with some property. -/
def lastSuch (property : Task → Bool) (tasks : List Task) : Option Task :=
  (tasks.filter property).getLast?

/-- The last task with an id. It decides what the id means. -/
def lastWithId (tasks : List Task) (id : String) : Option Task :=
  lastSuch (fun task => task.id == id) tasks

/-- The last task with a dependency id. -/
def lastWithDependencyId (tasks : List Task) (reference : String) : Option Task :=
  lastSuch (fun task => task.dependencyId == some reference) tasks

/-- A reference stands for the last task with that dependency id, and without one
for the task whose id it is. -/
def Resolves (tasks : List Task) (reference id : String) : Prop :=
  match lastWithDependencyId tasks reference with
  | some task => task.id = id
  | none => reference = id ∧ ∃ task ∈ tasks, task.id = id

/-- The last task with an id is neither done nor cancelled. -/
def Incomplete (tasks : List Task) (id : String) : Prop :=
  ∃ task, lastWithId tasks id = some task ∧ task.isComplete = false

/-- Some task with the first id lists a reference to the second id, which is another
one. -/
def WaitsFor (tasks : List Task) (dependent dependency : String) : Prop :=
  dependency ≠ dependent ∧
    ∃ task ∈ tasks, task.id = dependent ∧
      ∃ reference ∈ task.dependsOn, Resolves tasks reference dependency

@[simp]
theorem lastSuch_nil (property : Task → Bool) : lastSuch property [] = none := rfl

/-- A task counts only if no later one has the property. -/
theorem lastSuch_cons (property : Task → Bool) (task : Task) (tasks : List Task) :
    lastSuch property (task :: tasks) =
      (lastSuch property tasks).or (if property task then some task else none) := by
  by_cases holds : property task = true
  · rw [lastSuch, List.filter_cons_of_pos holds, List.getLast?_cons, if_pos holds, lastSuch]
    cases (tasks.filter property).getLast? <;> rfl
  · rw [lastSuch, List.filter_cons_of_neg holds, if_neg holds, Option.or_none, lastSuch]

theorem mem_of_lastSuch {property : Task → Bool} {tasks : List Task} {task : Task}
    (found : lastSuch property tasks = some task) : task ∈ tasks ∧ property task = true :=
  List.mem_filter.mp (List.mem_of_getLast? found)

theorem isSome_lastSuch_iff (property : Task → Bool) (tasks : List Task) :
    (lastSuch property tasks).isSome ↔ ∃ task ∈ tasks, property task = true := by
  simp [lastSuch]

/-- What a reference stands for is the id of a task. -/
theorem Resolves.exists_task {tasks : List Task} {reference id : String}
    (resolves : Resolves tasks reference id) : ∃ task ∈ tasks, task.id = id := by
  rw [Resolves] at resolves
  cases found : lastWithDependencyId tasks reference with
  | some target =>
      rw [found] at resolves
      exact ⟨target, (mem_of_lastSuch found).1, resolves⟩
  | none =>
      rw [found] at resolves
      exact resolves.2

theorem Resolves.unique {tasks : List Task} {reference id other : String}
    (resolves : Resolves tasks reference id) (alsoResolves : Resolves tasks reference other) :
    id = other := by
  rw [Resolves] at resolves alsoResolves
  cases found : lastWithDependencyId tasks reference with
  | some target =>
      rw [found] at resolves alsoResolves
      exact resolves.symm.trans alsoResolves
  | none =>
      rw [found] at resolves alsoResolves
      exact resolves.1.symm.trans alsoResolves.1

/-- The id of a task stands for some task, which may be another one. -/
theorem exists_resolves_id {tasks : List Task} {task : Task} (member : task ∈ tasks) :
    ∃ id, Resolves tasks task.id id := by
  simp only [Resolves]
  cases lastWithDependencyId tasks task.id with
  | some target => exact ⟨target.id, rfl⟩
  | none => exact ⟨task.id, rfl, task, member, rfl⟩

namespace TaskGraph

/-! ## The first pass -/

theorem lookup_complete_register (graph : TaskGraph) (task : Task) (id : String) :
    (graph.register task).complete.lookup id =
      if task.id == id then some task.isComplete else graph.complete.lookup id := by
  by_cases same : id = task.id
  · simp [register, same]
  · have differ : task.id ≠ id := fun equal => same equal.symm
    simp [register, List.lookup_cons, beq_eq_false_iff_ne.mpr same, differ]

theorem lookup_references_register (graph : TaskGraph) (task : Task) (reference : String) :
    (graph.register task).references.lookup reference =
      if task.dependencyId == some reference then some task.id
      else graph.references.lookup reference := by
  cases stated : task.dependencyId with
  | none => simp [register, stated]
  | some own =>
      by_cases same : reference = own
      · simp [register, stated, same]
      · have differ : own ≠ reference := fun equal => same equal.symm
        simp [register, stated, List.lookup_cons, beq_eq_false_iff_ne.mpr same, differ]

/-- The first pass enters for every id whether its last task is complete. -/
theorem lookup_complete_foldl (tasks : List Task) (graph : TaskGraph) (id : String) :
    (tasks.foldl register graph).complete.lookup id =
      ((lastWithId tasks id).map Task.isComplete).or (graph.complete.lookup id) := by
  induction tasks generalizing graph with
  | nil => simp [lastWithId]
  | cons task tasks ih =>
      rw [List.foldl_cons, ih, lookup_complete_register]
      simp only [lastWithId, lastSuch_cons]
      cases lastSuch (fun task => task.id == id) tasks with
      | some later => simp
      | none => by_cases same : task.id = id <;> simp [same]

/-- The first pass enters for every dependency id the id of its last task. -/
theorem lookup_references_foldl (tasks : List Task) (graph : TaskGraph) (reference : String) :
    (tasks.foldl register graph).references.lookup reference =
      ((lastWithDependencyId tasks reference).map Task.id).or
        (graph.references.lookup reference) := by
  induction tasks generalizing graph with
  | nil => simp [lastWithDependencyId]
  | cons task tasks ih =>
      rw [List.foldl_cons, ih, lookup_references_register]
      simp only [lastWithDependencyId, lastSuch_cons]
      cases lastSuch (fun task => task.dependencyId == some reference) tasks with
      | some later => simp
      | none => by_cases same : task.dependencyId = some reference <;> simp [same]

/-- The first pass enters no edges. -/
theorem edges_foldl_register (tasks : List Task) (graph : TaskGraph) :
    (tasks.foldl register graph).dependencies = graph.dependencies ∧
      (tasks.foldl register graph).dependents = graph.dependents := by
  induction tasks generalizing graph with
  | nil => exact ⟨rfl, rfl⟩
  | cons task tasks ih => exact ih (graph.register task)

/-! ## The second pass -/

/-- The tables of the first pass, by which references are resolved. -/
def registry (graph : TaskGraph) : List (String × Bool) × List (String × String) :=
  (graph.complete, graph.references)

theorem resolve?_eq_of_registry_eq {first second : TaskGraph}
    (same : first.registry = second.registry) (reference : String) :
    first.resolve? reference = second.resolve? reference := by
  simp only [registry, Prod.mk.injEq] at same
  rw [resolve?, resolve?, same.1, same.2]

theorem registry_connect (dependent : String) (graph : TaskGraph) (reference : String) :
    (connect dependent graph reference).registry = graph.registry := by
  unfold connect
  split
  · rfl
  · split <;> rfl

theorem registry_connectAll (graph : TaskGraph) (task : Task) :
    (graph.connectAll task).registry = graph.registry := by
  rw [connectAll]
  apply List.foldlRecOn (motive := fun later : TaskGraph => later.registry = graph.registry)
  · rfl
  · intro later same reference _
    rw [registry_connect, same]

/-- The second pass resolves every reference against the tables of the first. -/
theorem registry_foldl_connectAll (tasks : List Task) (graph : TaskGraph) :
    (tasks.foldl connectAll graph).registry = graph.registry := by
  apply List.foldlRecOn (motive := fun later : TaskGraph => later.registry = graph.registry)
  · rfl
  · intro later same task _
    rw [registry_connectAll, same]

/-- Whether one task is listed among those that another waits for. -/
def Lists (graph : TaskGraph) (dependent dependency : String) : Prop :=
  dependency ∈ neighbours graph.dependencies dependent

/-- Every edge is entered on both of its sides. -/
def Transposed (graph : TaskGraph) : Prop :=
  ∀ dependent dependency,
    dependent ∈ neighbours graph.dependents dependency ↔ graph.Lists dependent dependency

theorem mem_neighbours_addNeighbour (table : List (String × List String))
    (id neighbour other candidate : String) :
    candidate ∈ neighbours (addNeighbour table id neighbour) other ↔
      candidate ∈ neighbours table other ∨ other = id ∧ candidate = neighbour := by
  by_cases same : other = id
  · subst other
    rw [addNeighbour, neighbours_cons_self, List.mem_append, List.mem_singleton]
    simp
  · rw [addNeighbour, neighbours_cons_of_ne same]
    simp [same]

theorem lists_connect_iff (owner : String) (graph : TaskGraph) (reference : String)
    (dependent dependency : String) :
    (connect owner graph reference).Lists dependent dependency ↔
      graph.Lists dependent dependency ∨
        dependent = owner ∧ dependency ≠ owner ∧ graph.resolve? reference = some dependency := by
  unfold connect
  cases found : graph.resolve? reference with
  | none => simp
  | some target =>
      by_cases own : target = owner
      · subst target
        simp only [if_pos, Option.some.injEq]
        refine ⟨Or.inl, fun listed => listed.elim id ?_⟩
        intro stated
        obtain ⟨_, differ, equal⟩ := stated
        exact absurd equal.symm differ
      · simp only [if_neg own, Lists, addEdge, mem_neighbours_addNeighbour, Option.some.injEq]
        constructor
        · intro found
          rcases found with listed | ⟨isOwner, rfl⟩
          · exact Or.inl listed
          · exact Or.inr ⟨isOwner, own, rfl⟩
        · intro found
          rcases found with listed | ⟨isOwner, -, rfl⟩
          · exact Or.inl listed
          · exact Or.inr ⟨isOwner, rfl⟩

/-- An edge keeps the two tables of edges each other's transpose. -/
theorem Transposed.addEdge {graph : TaskGraph} (transposed : graph.Transposed)
    (dependent dependency : String) : (graph.addEdge dependent dependency).Transposed := by
  intro other target
  have before := transposed other target
  simp only [Lists, TaskGraph.addEdge, mem_neighbours_addNeighbour] at before ⊢
  rw [before, and_comm]

theorem Transposed.connect {graph : TaskGraph} (transposed : graph.Transposed)
    (owner reference : String) : (TaskGraph.connect owner graph reference).Transposed := by
  unfold TaskGraph.connect
  split
  · exact transposed
  · split
    · exact transposed
    · exact transposed.addEdge _ _

theorem Transposed.connectAll {graph : TaskGraph} (transposed : graph.Transposed) (task : Task) :
    (graph.connectAll task).Transposed := by
  rw [TaskGraph.connectAll]
  apply List.foldlRecOn (motive := Transposed)
  · exact transposed
  · intro later laterTransposed reference _
    exact laterTransposed.connect task.id reference

theorem Transposed.foldl_connectAll {graph : TaskGraph} (transposed : graph.Transposed)
    (tasks : List Task) : (tasks.foldl TaskGraph.connectAll graph).Transposed := by
  apply List.foldlRecOn (motive := Transposed)
  · exact transposed
  · intro later laterTransposed task _
    exact laterTransposed.connectAll task

/-! ## The graph of a list of tasks -/

theorem registry_ofTasks (tasks : List Task) :
    (ofTasks tasks).registry = (tasks.foldl register {}).registry :=
  registry_foldl_connectAll tasks _

theorem lookup_complete_ofTasks (tasks : List Task) (id : String) :
    (ofTasks tasks).complete.lookup id = (lastWithId tasks id).map Task.isComplete := by
  have same := congrArg Prod.fst (registry_ofTasks tasks)
  simp only [registry] at same
  rw [same, lookup_complete_foldl]
  simp

theorem lookup_references_ofTasks (tasks : List Task) (reference : String) :
    (ofTasks tasks).references.lookup reference =
      (lastWithDependencyId tasks reference).map Task.id := by
  have same := congrArg Prod.snd (registry_ofTasks tasks)
  simp only [registry] at same
  rw [same, lookup_references_foldl]
  simp

/-- An id is incomplete in the graph exactly if the last task with it is. -/
theorem isIncomplete_ofTasks_iff (tasks : List Task) (id : String) :
    (ofTasks tasks).isIncomplete id = true ↔ Incomplete tasks id := by
  simp only [isIncomplete, lookup_complete_ofTasks, beq_iff_eq, Option.map_eq_some_iff, Incomplete]

/-- The graph resolves a reference as the tasks say. -/
theorem resolve?_ofTasks_iff (tasks : List Task) (reference id : String) :
    (ofTasks tasks).resolve? reference = some id ↔ Resolves tasks reference id := by
  rw [resolve?, lookup_references_ofTasks, lookup_complete_ofTasks, Option.isSome_map, Resolves]
  cases lastWithDependencyId tasks reference with
  | some task => simp
  | none =>
      simp only [Option.map_none]
      by_cases known : ∃ task ∈ tasks, task.id = reference
      · have found : (lastWithId tasks reference).isSome := by
          rw [lastWithId, isSome_lastSuch_iff]
          simpa using known
        rw [if_pos found, Option.some.injEq]
        refine ⟨fun same => ?_, And.left⟩
        exact ⟨same, same ▸ known⟩
      · have missing : ¬ (lastWithId tasks reference).isSome := by
          rw [lastWithId, isSome_lastSuch_iff]
          simpa using known
        rw [if_neg missing]
        refine ⟨fun impossible => (by cases impossible), fun ⟨same, stated⟩ => ?_⟩
        exact absurd (same ▸ stated) known

theorem lists_connectAll_iff (graph : TaskGraph) (task : Task) (dependent dependency : String) :
    (graph.connectAll task).Lists dependent dependency ↔
      graph.Lists dependent dependency ∨
        dependency ≠ dependent ∧ task.id = dependent ∧
          ∃ reference ∈ task.dependsOn, graph.resolve? reference = some dependency := by
  rw [connectAll]
  generalize task.dependsOn = references
  induction references generalizing graph with
  | nil => simp
  | cons reference references ih =>
      rw [List.foldl_cons, ih, lists_connect_iff]
      have resolved (other : String) :
          (connect task.id graph reference).resolve? other = graph.resolve? other :=
        resolve?_eq_of_registry_eq (registry_connect task.id graph reference) other
      simp only [resolved, List.mem_cons, exists_eq_or_imp]
      grind

/-- The second pass lists what the references of all tasks stand for. -/
theorem lists_foldl_connectAll_iff (tasks : List Task) (graph : TaskGraph)
    (dependent dependency : String) :
    (tasks.foldl connectAll graph).Lists dependent dependency ↔
      graph.Lists dependent dependency ∨
        dependency ≠ dependent ∧ ∃ task ∈ tasks, task.id = dependent ∧
          ∃ reference ∈ task.dependsOn, graph.resolve? reference = some dependency := by
  induction tasks generalizing graph with
  | nil => simp
  | cons task tasks ih =>
      rw [List.foldl_cons, ih, lists_connectAll_iff]
      have resolved (other : String) : (graph.connectAll task).resolve? other =
          graph.resolve? other :=
        resolve?_eq_of_registry_eq (registry_connectAll graph task) other
      simp only [resolved, List.mem_cons, exists_eq_or_imp]
      grind

/-- The graph lists one task for another exactly if the other waits for it. -/
theorem lists_ofTasks_iff (tasks : List Task) (dependent dependency : String) :
    (ofTasks tasks).Lists dependent dependency ↔ WaitsFor tasks dependent dependency := by
  have resolved (reference : String) : (tasks.foldl register {}).resolve? reference =
      (ofTasks tasks).resolve? reference :=
    (resolve?_eq_of_registry_eq (registry_ofTasks tasks) reference).symm
  rw [ofTasks, lists_foldl_connectAll_iff, Lists, (edges_foldl_register tasks {}).1, WaitsFor]
  simp only [resolved, resolve?_ofTasks_iff]
  simp [neighbours]

theorem transposed_ofTasks (tasks : List Task) : (ofTasks tasks).Transposed := by
  refine Transposed.foldl_connectAll ?_ tasks
  intro dependent dependency
  obtain ⟨noDependencies, noDependents⟩ := edges_foldl_register tasks {}
  rw [Lists, noDependencies, noDependents]
  simp [neighbours]

theorem isBlocked_ofTasks_iff (tasks : List Task) (id : String) :
    (ofTasks tasks).isBlocked id = true ↔
      ∃ other, WaitsFor tasks id other ∧ Incomplete tasks other := by
  rw [isBlocked, List.any_eq_true]
  simp only [isIncomplete_ofTasks_iff, ← lists_ofTasks_iff, Lists]

theorem isBlocking_ofTasks_iff (tasks : List Task) (id : String) :
    (ofTasks tasks).isBlocking id = true ↔
      Incomplete tasks id ∧ ∃ other, WaitsFor tasks other id ∧ Incomplete tasks other := by
  rw [isBlocking, Bool.and_eq_true, List.any_eq_true, isIncomplete_ofTasks_iff]
  simp only [isIncomplete_ofTasks_iff, ← lists_ofTasks_iff, transposed_ofTasks tasks _ id]

/-- What blocked and blocking mean, for any list of tasks. A task is blocked if some
record with its id refers to another id that is incomplete. It is blocking if it is
incomplete and an incomplete id refers to it. So some incomplete task is blocked
exactly if some task is blocking. -/
theorem isBlocked_and_isBlocking_ofTasks_iff (tasks : List Task) :
    (∀ id, (ofTasks tasks).isBlocked id = true ↔
      ∃ task ∈ tasks, task.id = id ∧ ∃ reference ∈ task.dependsOn, ∃ other,
        Resolves tasks reference other ∧ other ≠ id ∧ Incomplete tasks other) ∧
    (∀ id, (ofTasks tasks).isBlocking id = true ↔
      Incomplete tasks id ∧ ∃ other, other ≠ id ∧ Incomplete tasks other ∧
        ∃ task ∈ tasks, task.id = other ∧ ∃ reference ∈ task.dependsOn,
          Resolves tasks reference id) ∧
    ((∃ id, Incomplete tasks id ∧ (ofTasks tasks).isBlocked id = true) ↔
      ∃ id, (ofTasks tasks).isBlocking id = true) := by
  refine ⟨fun id => ?_, fun id => ?_, ?_⟩
  · rw [isBlocked_ofTasks_iff]
    constructor
    · intro stated
      obtain ⟨other, ⟨differ, task, member, named, reference, listed, resolves⟩, incomplete⟩ :=
        stated
      exact ⟨task, member, named, reference, listed, other, resolves, differ, incomplete⟩
    · intro stated
      obtain ⟨task, member, named, reference, listed, other, resolves, differ, incomplete⟩ := stated
      exact ⟨other, ⟨differ, task, member, named, reference, listed, resolves⟩, incomplete⟩
  · rw [isBlocking_ofTasks_iff]
    refine and_congr_right fun _ => ⟨?_, ?_⟩
    · intro stated
      obtain ⟨other, ⟨differ, stated⟩, incomplete⟩ := stated
      exact ⟨other, differ.symm, incomplete, stated⟩
    · intro stated
      obtain ⟨other, differ, incomplete, stated⟩ := stated
      exact ⟨other, ⟨differ.symm, stated⟩, incomplete⟩
  · simp only [isBlocked_ofTasks_iff, isBlocking_ofTasks_iff]
    constructor
    · intro stated
      obtain ⟨id, incomplete, other, waits, otherIncomplete⟩ := stated
      exact ⟨other, otherIncomplete, id, waits, incomplete⟩
    · intro stated
      obtain ⟨id, incomplete, other, waits, otherIncomplete⟩ := stated
      exact ⟨other, otherIncomplete, id, waits, incomplete⟩

end TaskGraph

end TaskQuery

/-
# Which tasks depend on a task

A graph finds the dependents of a task by a walk over its table of dependents. A walk
that is not transitive looks at one entry of the table. Since edges are entered on
both of their sides, it finds exactly the tasks that wait for the task, and this is
said in terms of the tasks alone, without the table.
-/

import TaskQuery.Proofs.Blocking

namespace TaskQuery

namespace Walk

/-- Taking note of a task adds this task and no other to those found. -/
theorem mem_found_note (transitive : Bool) (walk : Walk) (id other : String) :
    other ∈ (note transitive walk id).found ↔ other ∈ walk.found ∨ other = id := by
  rw [note]
  split
  · rename_i old
    have isOld : id ∈ walk.found := by simpa using old
    refine ⟨Or.inl, fun found => ?_⟩
    rcases found with found | rfl
    · exact found
    · exact isOld
  · simp

theorem mem_found_foldl_note (transitive : Bool) (walk : Walk) (ids : List String)
    (other : String) :
    other ∈ (ids.foldl (note transitive) walk).found ↔ other ∈ walk.found ∨ other ∈ ids := by
  induction ids generalizing walk with
  | nil => simp
  | cons id ids ih => rw [List.foldl_cons, ih, mem_found_note, List.mem_cons, or_assoc]

/-- A walk that is not transitive has nothing more to look at. -/
theorem queue_foldl_note (walk : Walk) (ids : List String) :
    (ids.foldl (note false) walk).queue = walk.queue := by
  apply List.foldlRecOn (motive := fun later : Walk => later.queue = walk.queue)
  · rfl
  · intro later same id _
    rw [note]
    split <;> exact same

/-- A walk that is not transitive finds what the table lists for its start. -/
theorem mem_run_iff (table : List (String × List String)) (id other : String) :
    other ∈ Walk.run table false ⟨[], [id]⟩ ↔ other ∈ neighbours table id := by
  have nothingLeft := queue_foldl_note ⟨[], []⟩ (neighbours table id)
  have found := mem_found_foldl_note false ⟨[], []⟩ (neighbours table id) other
  rw [Walk.run]
  generalize (neighbours table id).foldl (note false) ⟨[], []⟩ = last at nothingLeft found
  obtain ⟨lastFound, lastQueue⟩ := last
  obtain rfl : lastQueue = [] := nothingLeft
  rw [Walk.run, found]
  simp

end Walk

namespace TaskGraph

/-- The tasks that depend on a task directly are those that wait for it. -/
theorem mem_dependentsOf_ofTasks_iff (tasks : List Task) (dependent dependency : String) :
    dependent ∈ (ofTasks tasks).dependentsOf dependency false ↔
      WaitsFor tasks dependent dependency := by
  rw [dependentsOf, List.mem_filter, Walk.mem_run_iff, transposed_ofTasks, lists_ofTasks_iff,
    bne_iff_ne]
  exact ⟨And.left, fun waits => ⟨waits, waits.1.symm⟩⟩

end TaskGraph

end TaskQuery

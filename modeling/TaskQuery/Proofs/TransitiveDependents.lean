/-
# Which tasks depend on a task through others

A transitive walk looks at every task that it finds, so it finds what leads to its start by
references of any number. The start may lie on a circle. Then it is found like any other
task and looked at a second time, and only the answer leaves it out.

What carries the argument is a statement about a walk between two turns. Everything found
leads to the start, and the start and everything found either waits to be looked at or has
had its neighbours found. When nothing waits any more, the second half says that what is
found is closed under the table. Turns are counted apart from that: a task is queued when
it is found and never again, so there is a turn for the start and at most one for each task.
-/

import Mathlib.Data.List.Nodup
import Mathlib.Data.List.Perm.Subperm
import Mathlib.Logic.Function.Iterate
import Mathlib.Logic.Relation
import TaskQuery.Proofs.Dependents

namespace TaskQuery

/-! ## Turns of a walk -/

namespace Walk

variable {table : List (String × List String)} {start : String} {walk : Walk}

/-- One turn of a walk: the task that has waited longest is looked at. -/
def turn (table : List (String × List String)) (transitive : Bool) : Walk → Walk
  | ⟨found, []⟩ => ⟨found, []⟩
  | ⟨found, current :: queue⟩ =>
      (neighbours table current).foldl (note transitive) ⟨found, queue⟩

theorem nodup_found_note (transitive : Bool) (id : String) (once : walk.found.Nodup) :
    (note transitive walk id).found.Nodup := by
  rw [note]
  split
  · exact once
  · rename_i isNew
    have absent : id ∉ walk.found := by simpa using isNew
    exact once.append (List.nodup_singleton id) (List.disjoint_singleton.mpr absent)

theorem nodup_found_foldl_note (transitive : Bool) (ids : List String)
    (once : walk.found.Nodup) : (ids.foldl (note transitive) walk).found.Nodup := by
  apply List.foldlRecOn (motive := fun later : Walk => later.found.Nodup)
  · exact once
  · intro later laterOnce id _
    exact nodup_found_note transitive id laterOnce

/-- A transitive walk queues what it finds for the first time. -/
theorem mem_queue_foldl_note (walk : Walk) (ids : List String) (other : String) :
    other ∈ (ids.foldl (note true) walk).queue ↔
      other ∈ walk.queue ∨ other ∈ ids ∧ other ∉ walk.found := by
  induction ids generalizing walk with
  | nil => simp
  | cons id ids ih =>
      rw [List.foldl_cons, ih, mem_found_note, List.mem_cons, note]
      split
      · rename_i old
        have isOld : id ∈ walk.found := by simpa using old
        grind
      · rename_i isNew
        have absent : id ∉ walk.found := by simpa using isNew
        simp only [if_true, List.mem_append, List.mem_singleton]
        grind

/-- A turn queues no more tasks than it finds. -/
theorem length_queue_foldl_note_le (transitive : Bool) (walk : Walk) (ids : List String) :
    (ids.foldl (note transitive) walk).queue.length + walk.found.length ≤
      walk.queue.length + (ids.foldl (note transitive) walk).found.length := by
  induction ids generalizing walk with
  | nil => exact Nat.le_refl _
  | cons id ids ih =>
      have later := ih (note transitive walk id)
      have now : (note transitive walk id).queue.length + walk.found.length ≤
          walk.queue.length + (note transitive walk id).found.length := by
        rw [note]
        split
        · exact Nat.le_refl _
        · cases transitive <;> simp
          omega
      rw [List.foldl_cons]
      omega

/-- A walk comes to its end. Each of its turns looks at a task that waits already or at one
that it has still to find. -/
theorem exists_turns_eq_run (table : List (String × List String)) (transitive : Bool)
    (walk : Walk) :
    ∃ turns, (turn table transitive)^[turns] walk = ⟨run table transitive walk, []⟩ ∧
      turns + walk.found.length ≤ walk.queue.length + (run table transitive walk).length := by
  induction walk using run.induct table transitive with
  | case1 found =>
      refine ⟨0, ?_, ?_⟩ <;> simp [run]
  | case2 found current queue ih =>
      obtain ⟨turns, ends, bound⟩ := ih
      have grown := length_queue_foldl_note_le transitive ⟨found, queue⟩ (neighbours table current)
      refine ⟨turns + 1, ?_, ?_⟩
      · rw [Function.iterate_succ_apply, turn, ends, run]
      · rw [run]
        simp only [List.length_cons] at grown ⊢
        omega

theorem nodup_run (table : List (String × List String)) (transitive : Bool)
    (once : walk.found.Nodup) : (run table transitive walk).Nodup := by
  induction walk using run.induct table transitive with
  | case1 found =>
      rw [run]
      exact once
  | case2 found current queue ih =>
      rw [run]
      exact ih (nodup_found_foldl_note transitive _ once)

/-! ## What a transitive walk finds -/

/-- A table lists one task for another. -/
def Lists (table : List (String × List String)) (id other : String) : Prop :=
  id ∈ neighbours table other

/-- What holds of a transitive walk between two turns. -/
structure Explores (table : List (String × List String)) (start : String) (walk : Walk) :
    Prop where
  leads : ∀ id ∈ walk.found, Relation.TransGen (Lists table) id start
  queued : ∀ id ∈ walk.queue, id = start ∨ id ∈ walk.found
  lookedAt : ∀ id, id = start ∨ id ∈ walk.found →
    id ∈ walk.queue ∨ ∀ other, Lists table other id → other ∈ walk.found

theorem explores_start (table : List (String × List String)) (start : String) :
    Explores table start ⟨[], [start]⟩ where
  leads id member := by cases member
  queued id member := Or.inl (List.mem_singleton.mp member)
  lookedAt id isStart := by
    rcases isStart with rfl | member
    · exact Or.inl List.mem_cons_self
    · cases member

/-- A turn looks at its task, and what it finds there is queued. -/
theorem Explores.turn (explores : Explores table start walk) :
    Explores table start (walk.turn table true) := by
  obtain ⟨found, queue⟩ := walk
  cases queue with
  | nil => exact explores
  | cons current queue =>
      rw [Walk.turn]
      have isFound := mem_found_foldl_note true ⟨found, queue⟩ (neighbours table current)
      have isQueued := mem_queue_foldl_note ⟨found, queue⟩ (neighbours table current)
      have currentLeads : current = start ∨ Relation.TransGen (Lists table) current start :=
        (explores.queued current List.mem_cons_self).imp_right (explores.leads current)
      refine ⟨fun id member => ?_, fun id member => ?_, fun id known => ?_⟩
      · rcases (isFound id).mp member with old | listed
        · exact explores.leads id old
        · rcases currentLeads with rfl | leads
          · exact .single listed
          · exact .head listed leads
      · rw [isQueued] at member
        rw [isFound]
        rcases member with waits | ⟨listed, -⟩
        · exact (explores.queued id (List.mem_cons_of_mem _ waits)).imp_right Or.inl
        · exact Or.inr (Or.inr listed)
      · rw [isFound] at known
        simp only [isFound, isQueued]
        by_cases old : id = start ∨ id ∈ found
        · rcases explores.lookedAt id old with waits | done
          · rcases List.mem_cons.mp waits with rfl | waits
            · exact Or.inr fun other listed => Or.inr listed
            · exact Or.inl (Or.inl waits)
          · exact Or.inr fun other listed => Or.inl (done other listed)
        · -- a task that is neither the start nor found before was found in this turn
          obtain ⟨notStart, notFound⟩ := not_or.mp old
          have listed : id ∈ neighbours table current := by
            rcases known with isStart | isOld | listed
            · exact absurd isStart notStart
            · exact absurd isOld notFound
            · exact listed
          exact Or.inl (Or.inr ⟨listed, notFound⟩)

theorem Explores.turns (explores : Explores table start walk) (turns : Nat) :
    Explores table start ((Walk.turn table true)^[turns] walk) := by
  induction turns generalizing walk with
  | zero => exact explores
  | succ turns ih =>
      rw [Function.iterate_succ_apply]
      exact ih explores.turn

/-- When nothing waits, everything that leads to the start has been found. -/
theorem Explores.mem_found_iff {found : List String} (explores : Explores table start ⟨found, []⟩)
    (id : String) : id ∈ found ↔ Relation.TransGen (Lists table) id start := by
  have closed {other id : String} (known : id = start ∨ id ∈ found)
      (listed : Lists table other id) : other ∈ found := by
    rcases explores.lookedAt id known with waits | done
    · cases waits
    · exact done other listed
  refine ⟨explores.leads id, fun leads => ?_⟩
  induction leads using Relation.TransGen.head_induction_on with
  | single listed => exact closed (Or.inl rfl) listed
  | head listed _ ih => exact closed (Or.inr ih) listed

/-- A transitive walk finds what leads to its start by way of the table. -/
theorem mem_run_iff_transGen (table : List (String × List String)) (start id : String) :
    id ∈ run table true ⟨[], [start]⟩ ↔ Relation.TransGen (Lists table) id start := by
  obtain ⟨turns, ends, -⟩ := exists_turns_eq_run table true ⟨[], [start]⟩
  have explores := (explores_start table start).turns turns
  rw [ends] at explores
  exact explores.mem_found_iff id

end Walk

/-! ## References of any number -/

/-- Some task with the first id lists a reference to the second id, which may be the same
one. -/
def RefersTo (tasks : List Task) (dependent dependency : String) : Prop :=
  ∃ task ∈ tasks, task.id = dependent ∧
    ∃ reference ∈ task.dependsOn, Resolves tasks reference dependency

theorem RefersTo.exists_task {tasks : List Task} {dependent dependency : String}
    (refers : RefersTo tasks dependent dependency) : ∃ task ∈ tasks, task.id = dependent := by
  obtain ⟨task, member, named, -⟩ := refers
  exact ⟨task, member, named⟩

/-- References of a task to itself lead nowhere. -/
theorem reflTransGen_waitsFor {tasks : List Task} {dependent dependency : String}
    (refers : Relation.ReflTransGen (RefersTo tasks) dependent dependency) :
    Relation.ReflTransGen (WaitsFor tasks) dependent dependency := by
  induction refers with
  | refl => exact .refl
  | @tail middle last _ step ih =>
      by_cases loop : last = middle
      · exact loop ▸ ih
      · exact ih.tail ⟨loop, step⟩

/-- On the way to another task, references of a task to itself may be left out. -/
theorem transGen_waitsFor_iff {tasks : List Task} {dependent dependency : String}
    (differ : dependent ≠ dependency) :
    Relation.TransGen (WaitsFor tasks) dependent dependency ↔
      Relation.TransGen (RefersTo tasks) dependent dependency := by
  constructor
  · intro waits
    exact Relation.TransGen.mono (fun _ _ step => step.2) _ _ waits
  · intro refers
    have within := reflTransGen_waitsFor refers.to_reflTransGen
    rcases Relation.reflTransGen_iff_eq_or_transGen.mp within with same | waits
    · exact absurd same.symm differ
    · exact waits

namespace TaskGraph

theorem lists_dependents_ofTasks (tasks : List Task) :
    Walk.Lists (ofTasks tasks).dependents = WaitsFor tasks := by
  funext dependent dependency
  exact propext ((transposed_ofTasks tasks dependent dependency).trans
    (lists_ofTasks_iff tasks dependent dependency))

/-- A walk finds ids of tasks only, whatever it starts from. -/
theorem exists_task_of_mem_run {tasks : List Task} {transitive : Bool} {start id : String}
    (member : id ∈ Walk.run (ofTasks tasks).dependents transitive ⟨[], [start]⟩) :
    ∃ task ∈ tasks, task.id = id := by
  cases transitive with
  | false =>
      have waits : WaitsFor tasks id start := by
        rw [← lists_dependents_ofTasks]
        exact (Walk.mem_run_iff _ start id).mp member
      exact RefersTo.exists_task waits.2
  | true =>
      rw [Walk.mem_run_iff_transGen, lists_dependents_ofTasks] at member
      obtain ⟨_, waits, -⟩ := Relation.TransGen.head'_iff.mp member
      exact RefersTo.exists_task waits.2

theorem length_run_le (tasks : List Task) (transitive : Bool) (start : String) :
    (Walk.run (ofTasks tasks).dependents transitive ⟨[], [start]⟩).length ≤ tasks.length := by
  have once : (Walk.run (ofTasks tasks).dependents transitive ⟨[], [start]⟩).Nodup :=
    Walk.nodup_run _ _ List.nodup_nil
  have known : Walk.run (ofTasks tasks).dependents transitive ⟨[], [start]⟩ ⊆
      tasks.map Task.id := by
    intro id member
    exact List.mem_map.mpr (exists_task_of_mem_run member)
  have shorter := (List.subperm_of_subset once known).length_le
  rwa [List.length_map] at shorter

/-- The dependents of a task are the tasks from which references lead to it. Whatever the
tasks are, and whether or not the id is one of theirs, the walk ends after at most one turn
for each task and one for its start. With it the answer has exactly the other ids that
reach the id by one reference or more, and without going through others exactly the other
ids that refer to it; each of them once. -/
theorem mem_dependentsOf_iff_reaches (tasks : List Task) (id : String) :
    (∀ transitive, ∃ turns ≤ tasks.length + 1, ∃ found,
      (Walk.turn (ofTasks tasks).dependents transitive)^[turns] ⟨[], [id]⟩ = ⟨found, []⟩ ∧
        (ofTasks tasks).dependentsOf id transitive = found.filter fun other => other != id) ∧
    (∀ transitive, ((ofTasks tasks).dependentsOf id transitive).Nodup) ∧
    (∀ other, other ∈ (ofTasks tasks).dependentsOf id true ↔
      other ≠ id ∧ Relation.TransGen (RefersTo tasks) other id) ∧
    ∀ other, other ∈ (ofTasks tasks).dependentsOf id false ↔
      other ≠ id ∧ RefersTo tasks other id := by
  refine ⟨fun transitive => ?_, fun transitive => ?_, fun other => ?_, fun other => ?_⟩
  · obtain ⟨turns, ends, bound⟩ :=
      Walk.exists_turns_eq_run (ofTasks tasks).dependents transitive ⟨[], [id]⟩
    have few := length_run_le tasks transitive id
    simp only [List.length_nil, List.length_singleton] at bound
    exact ⟨turns, by omega, _, ends, rfl⟩
  · rw [dependentsOf]
    exact (Walk.nodup_run _ transitive List.nodup_nil).filter _
  · rw [dependentsOf, List.mem_filter, Walk.mem_run_iff_transGen, lists_dependents_ofTasks,
      bne_iff_ne, and_comm]
    exact and_congr_right transGen_waitsFor_iff
  · rw [mem_dependentsOf_ofTasks_iff, WaitsFor, ne_comm]
    exact Iff.rfl

/-- Two tasks that wait for each other, the first one also for itself: the walk from the
first finds both of them and the answer has the second. -/
example :
    let tasks : List Task :=
      [{ id := "x", dependsOn := ["y", "x"] }, { id := "y", dependsOn := ["x"] }]
    (ofTasks tasks).dependentsOf "x" true = ["y"] := by
  decide +kernel

end TaskGraph

end TaskQuery

import SwarmKit.Agent.Worker
import SwarmKit.Lib.Lts

/-
What the worker's database says it is assigned (`Worker.lean`).

# Each call, read on the assigned marks

Every storage call leaves the marks of the other tasks as they were;
storing a task marks it, deleting one drops its mark, and a delete that
fails finds no bucket, so no mark either (`taskAssigned_removeTask`).
An incremental `Update` therefore leaves the previous set, plus the
updated tasks, minus the removed ones, whatever the executor does
(`update_refines`). Along every run, each task manager runs a task
stored as assigned (`managed_reachable`).

# The full set removes by manager

`Assign` removes the tasks of the managers it did not assign, not the
tasks of the database it did not assign. A task whose controller did
not resolve is stored and marked but has no manager, so a later full set
that leaves it out keeps it marked (`assign_keeps_unmanaged`), and
`Init` after a restart starts it (`dropped_task_restarted`). When every
controller resolves, managers and marks are the same set, and the full
set is exactly the assignments' updated tasks (`assign_exact`).
-/

namespace SwarmKit.Agent.Assignments

open SwarmKit.Scheduler (TaskState)

-- ========================= storage

section Storage

variable {db db' : TaskDb} {i k : Nat}

theorem taskAssigned_of_lookup {b : TaskBucket} (h : db.lookup k = some b) : taskAssigned db k = b.assigned := by
  rw [taskAssigned, h]

theorem taskAssigned_of_not_mem (h : k ∉ db) : taskAssigned db k = false := by
  rw [taskAssigned, AList.lookup_eq_none.mpr h]

theorem lookup_putTask_ne (task : AgentTask) (hk : k ≠ task.id) : (putTask db task).lookup k = db.lookup k := by
  unfold putTask
  split <;> exact AList.lookup_insert_ne hk

theorem lookup_putTask_self (task : AgentTask) :
    ∃ b, (putTask db task).lookup task.id = some b ∧ b.assigned = taskAssigned db task.id := by
  unfold putTask
  split
  · next b hb => exact ⟨_, AList.lookup_insert _, (taskAssigned_of_lookup hb).symm⟩
  · next hb => exact ⟨_, AList.lookup_insert _, by rw [taskAssigned, hb]⟩

/-- `PutTask` leaves every mark as it was. -/
theorem taskAssigned_putTask (task : AgentTask) (k : Nat) :
    taskAssigned (putTask db task) k = taskAssigned db k := by
  by_cases hk : k = task.id
  · obtain ⟨b, hb, hassigned⟩ := @lookup_putTask_self db task
    rw [hk, taskAssigned_of_lookup hb, hassigned]
  · rw [taskAssigned, lookup_putTask_ne task hk, taskAssigned]

theorem putTaskStatus_eq_ok (h : putTaskStatus db i s = .ok db') :
    (∀ k, taskAssigned db' k = taskAssigned db k) ∧ ∀ k, k ∈ db' ↔ k ∈ db := by
  unfold putTaskStatus at h
  split at h
  · next b hb =>
      cases h
      refine ⟨fun k => ?_, fun k => ?_⟩
      · by_cases hk : k = i
        · subst hk
          rw [taskAssigned_of_lookup (AList.lookup_insert _), taskAssigned_of_lookup hb]
        · rw [taskAssigned, AList.lookup_insert_ne hk, taskAssigned]
      · rw [AList.mem_insert]
        exact ⟨fun hk => hk.elim (fun hk => hk ▸ AList.lookup_isSome.mp (by rw [hb]; rfl)) id, .inr⟩
  · cases h

theorem setTaskAssignment_eq_ok {a : Bool} (h : setTaskAssignment db i a = .ok db') :
    (∀ k, taskAssigned db' k = if k = i then a else taskAssigned db k) ∧ ∀ k, k ∈ db' ↔ k ∈ db := by
  unfold setTaskAssignment at h
  split at h
  · next b hb =>
      cases h
      refine ⟨fun k => ?_, fun k => ?_⟩
      · by_cases hk : k = i
        · subst hk
          rw [taskAssigned_of_lookup (AList.lookup_insert _), if_pos rfl]
        · rw [taskAssigned, AList.lookup_insert_ne hk, if_neg hk, taskAssigned]
      · rw [AList.mem_insert]
        exact ⟨fun hk => hk.elim (fun hk => hk ▸ AList.lookup_isSome.mp (by rw [hb]; rfl)) id, .inr⟩
  · cases h

/-- Whether the delete goes through or finds no bucket, the task has no
mark after it. -/
theorem deleteTask_eq_ok (h : deleteTask db i = .ok db') :
    (∀ k, taskAssigned db' k = (k != i && taskAssigned db k)) ∧ ∀ k, k ∈ db' ↔ k ≠ i ∧ k ∈ db := by
  unfold deleteTask at h
  split at h
  · cases h
    refine ⟨fun k => ?_, fun k => AList.mem_erase⟩
    by_cases hk : k = i
    · subst hk
      rw [taskAssigned, AList.lookup_erase]
      simp
    · rw [taskAssigned, AList.lookup_erase_ne hk, taskAssigned]
      simp [hk]
  · cases h

theorem not_mem_of_deleteTask_eq_error {e : WorkerError} (h : deleteTask db i = .error e) : i ∉ db := by
  unfold deleteTask at h
  split at h
  · cases h
  · assumption

end Storage

-- ====================== same marks

/-- Two databases with the same buckets, marked alike. -/
structure SameMarks (db db' : TaskDb) : Prop where
  assigned : ∀ k, taskAssigned db' k = taskAssigned db k
  mem : ∀ k, k ∈ db' ↔ k ∈ db

theorem SameMarks.refl (db : TaskDb) : SameMarks db db := ⟨fun _ => rfl, fun _ => Iff.rfl⟩

theorem SameMarks.trans {db₁ db₂ db₃ : TaskDb} (h₁ : SameMarks db₁ db₂) (h₂ : SameMarks db₂ db₃) :
    SameMarks db₁ db₃ :=
  ⟨fun k => (h₂.assigned k).trans (h₁.assigned k), fun k => (h₂.mem k).trans (h₁.mem k)⟩

theorem sameMarks_putTaskStatus {db db' : TaskDb} {i : Nat} {s : TaskState} (h : putTaskStatus db i s = .ok db') :
    SameMarks db db' :=
  ⟨(putTaskStatus_eq_ok h).1, (putTaskStatus_eq_ok h).2⟩

section Worker

variable {executor : AgentTask → Bool} {w w' : Worker} {task : AgentTask} {k : Nat}

theorem Worker.updateTaskStatus_taskManagers (w : Worker) (i : Nat) (s : TaskState) :
    (w.updateTaskStatus i s).taskManagers = w.taskManagers := by
  unfold Worker.updateTaskStatus
  split <;> rfl

theorem Worker.sameMarks_updateTaskStatus (w : Worker) (i : Nat) (s : TaskState) :
    SameMarks w.db (w.updateTaskStatus i s).db := by
  unfold Worker.updateTaskStatus
  split
  · next db h => exact sameMarks_putTaskStatus h
  · exact SameMarks.refl _

/-- Starting a task touches no mark; it adds a manager when the task had
none and its controller resolved. -/
theorem Worker.sameMarks_startTask (executor : AgentTask → Bool) (w : Worker) (task : AgentTask) :
    SameMarks w.db (w.startTask executor task).db := by
  unfold Worker.startTask
  split
  · exact SameMarks.refl _
  · dsimp only
    split
    · exact w.sameMarks_updateTaskStatus _ _
    · exact w.sameMarks_updateTaskStatus _ _

theorem Worker.startTask_taskManagers (executor : AgentTask → Bool) (w : Worker) (task : AgentTask) :
    (w.startTask executor task).taskManagers =
      if task.id ∉ w.taskManagers ∧ executor task = true then task.id :: w.taskManagers else w.taskManagers := by
  unfold Worker.startTask
  by_cases hm : task.id ∈ w.taskManagers
  · rw [if_pos hm, if_neg fun h => h.1 hm]
  · rw [if_neg hm]
    dsimp only
    cases executor task
    · rw [if_neg Bool.false_ne_true, w.updateTaskStatus_taskManagers]
      simp
    · rw [if_pos rfl, w.updateTaskStatus_taskManagers, if_pos ⟨hm, rfl⟩]

/-- What `assignTask` does: the task is stored and marked, then either
its manager takes it, or it is started, under its own ID, from a
database marked alike. -/
theorem Worker.assignTask_eq_ok (h : w.assignTask executor task = .ok w') :
    ∃ db₁, setTaskAssignment (putTask w.db task) task.id true = .ok db₁ ∧
      ((task.id ∈ w.taskManagers ∧ w' = { w with db := db₁ }) ∨
        ∃ db₂ t, task.id ∉ w.taskManagers ∧ SameMarks db₁ db₂ ∧ t.id = task.id ∧
          w' = { w with db := db₂ }.startTask executor t) := by
  unfold Worker.assignTask at h
  cases hset : setTaskAssignment (putTask w.db task) task.id true with
  | error e => rw [hset] at h; cases h
  | ok db₁ =>
      rw [hset] at h
      refine ⟨db₁, rfl, ?_⟩
      dsimp only [bind, Except.bind] at h
      split at h
      · next hm =>
          cases h
          exact .inl ⟨hm, rfl⟩
      · next hm =>
          split at h
          · next status _ =>
              cases h
              exact .inr ⟨db₁, { task with status }, hm, SameMarks.refl _, rfl, rfl⟩
          · cases hput : putTaskStatus db₁ task.id task.status with
            | error e => rw [hput] at h; cases h
            | ok db₂ =>
                rw [hput] at h
                cases h
                exact .inr ⟨db₂, task, hm, sameMarks_putTaskStatus hput, rfl, rfl⟩
          · cases h

/-- After `assignTask` the task is marked, and every other mark is as it
was. -/
theorem Worker.taskAssigned_assignTask (h : w.assignTask executor task = .ok w') (k : Nat) :
    taskAssigned w'.db k = (k == task.id || taskAssigned w.db k) := by
  obtain ⟨db₁, hset, hw'⟩ := Worker.assignTask_eq_ok h
  have hmarks : SameMarks db₁ w'.db := by
    rcases hw' with ⟨-, rfl⟩ | ⟨db₂, t, -, hsame, -, rfl⟩
    · exact SameMarks.refl _
    · exact hsame.trans (Worker.sameMarks_startTask executor { w with db := db₂ } t)
  rw [hmarks.assigned k, (setTaskAssignment_eq_ok hset).1 k, taskAssigned_putTask]
  by_cases hk : k = task.id
  · simp [hk]
  · simp [hk]

/-- A manager is added for the task only, and only when it had none. -/
theorem Worker.taskManagers_assignTask (h : w.assignTask executor task = .ok w') :
    w'.taskManagers = w.taskManagers ∨
      task.id ∉ w.taskManagers ∧ w'.taskManagers = task.id :: w.taskManagers := by
  obtain ⟨db₁, -, hw'⟩ := Worker.assignTask_eq_ok h
  rcases hw' with ⟨-, rfl⟩ | ⟨db₂, t, hm, -, ht, rfl⟩
  · exact .inl rfl
  · rw [Worker.startTask_taskManagers]
    split
    · exact .inr ⟨hm, by rw [ht]⟩
    · exact .inl rfl

/-- When every controller resolves, the task has a manager after
`assignTask`. -/
theorem Worker.taskManagers_assignTask_of_resolved (hres : ∀ t, executor t = true)
    (h : w.assignTask executor task = .ok w') :
    w'.taskManagers = if task.id ∈ w.taskManagers then w.taskManagers else task.id :: w.taskManagers := by
  obtain ⟨db₁, -, hw'⟩ := Worker.assignTask_eq_ok h
  rcases hw' with ⟨hm, rfl⟩ | ⟨db₂, t, hm, -, ht, rfl⟩
  · rw [if_pos hm]
  · rw [Worker.startTask_taskManagers, if_neg hm, ht, if_pos ⟨hm, hres t⟩]

theorem Worker.assignTasks_cons {tasks : List AgentTask} (h : w.assignTasks executor (task :: tasks) = .ok w') :
    ∃ w₁, w.assignTask executor task = .ok w₁ ∧ w₁.assignTasks executor tasks = .ok w' := by
  rw [Worker.assignTasks] at h
  cases h₁ : w.assignTask executor task with
  | error e => rw [h₁] at h; cases h
  | ok w₁ => rw [h₁] at h; exact ⟨w₁, rfl, h⟩

/-- After the updated set is stored, its tasks are marked and the other
marks are as they were. -/
theorem Worker.taskAssigned_assignTasks :
    ∀ {w w' : Worker} {tasks : List AgentTask}, w.assignTasks executor tasks = .ok w' → ∀ k,
      taskAssigned w'.db k = (decide (k ∈ tasks.map (·.id)) || taskAssigned w.db k)
  | w, w', [], h, k => by
      cases h
      simp
  | w, w', task :: tasks, h, k => by
      obtain ⟨w₁, h₁, h₂⟩ := Worker.assignTasks_cons h
      rw [Worker.taskAssigned_assignTasks h₂ k, Worker.taskAssigned_assignTask h₁ k]
      by_cases hk : k = task.id
      · simp [hk]
      · simp [hk, beq_eq_false_iff_ne.mpr hk]

/-- The managers after the updated set: the ones before, and some of the
set's tasks. -/
theorem Worker.mem_taskManagers_assignTasks :
    ∀ {w w' : Worker} {tasks : List AgentTask}, w.assignTasks executor tasks = .ok w' → ∀ {k},
      k ∈ w'.taskManagers → k ∈ w.taskManagers ∨ k ∈ tasks.map (·.id)
  | w, w', [], h, k, hk => by
      cases h
      exact .inl hk
  | w, w', task :: tasks, h, k, hk => by
      obtain ⟨w₁, h₁, h₂⟩ := Worker.assignTasks_cons h
      rcases Worker.mem_taskManagers_assignTasks h₂ hk with hk | hk
      · rcases Worker.taskManagers_assignTask h₁ with heq | ⟨-, heq⟩
        · exact .inl (heq ▸ hk)
        · rw [heq, List.mem_cons] at hk
          rcases hk with rfl | hk
          · exact .inr List.mem_cons_self
          · exact .inl hk
      · exact .inr (List.mem_cons_of_mem _ hk)

-- ========================= removal

/-- A removal drops the task's mark: when the delete fails there was no
bucket to mark. -/
theorem Worker.taskAssigned_removeTask (w : Worker) (i k : Nat) :
    taskAssigned (w.removeTask i).db k = (k != i && taskAssigned w.db k) := by
  unfold Worker.removeTask
  split
  · next db hdel => exact (deleteTask_eq_ok hdel).1 k
  · next e hdel =>
      by_cases hk : k = i
      · subst hk
        rw [taskAssigned_of_not_mem (not_mem_of_deleteTask_eq_error hdel)]
        simp
      · simp [hk]

theorem Worker.taskAssigned_foldl_removeTask :
    ∀ (w : Worker) (ids : List Nat) (k : Nat),
      taskAssigned (ids.foldl Worker.removeTask w).db k = (decide (k ∉ ids) && taskAssigned w.db k)
  | w, [], k => by simp
  | w, i :: ids, k => by
      rw [List.foldl_cons, Worker.taskAssigned_foldl_removeTask _ ids k, Worker.taskAssigned_removeTask]
      by_cases hk : k = i
      · simp [hk]
      · simp [hk, bne_iff_ne.mpr hk]

end Worker

-- =========================== calls

section Calls

variable {executor : AgentTask → Bool} {w w' : Worker} {assignments : List AssignmentChange}

/-- A call stores the updated set, then removes by managers (a full set)
or the removed set (an incremental one). -/
theorem Worker.reconcileTaskState_eq_ok {full : Bool} (h : w.reconcileTaskState executor assignments full = .ok w') :
    ∃ w₁, w.assignTasks executor (updatedTasks assignments) = .ok w₁ ∧
      w' = if full then w₁.removeUnassigned ((updatedTasks assignments).map (·.id))
        else w₁.removeTasks (removedTasks assignments) := by
  unfold Worker.reconcileTaskState at h
  dsimp only at h
  cases h₁ : w.assignTasks executor (updatedTasks assignments) with
  | error e => rw [h₁] at h; cases h
  | ok w₁ =>
      rw [h₁] at h
      refine ⟨w₁, rfl, ?_⟩
      cases full
      · cases h; rfl
      · cases h; rfl

theorem Worker.assign_eq_ok (h : w.assign executor assignments = .ok w') :
    ∃ w₁, w.assignTasks executor (updatedTasks assignments) = .ok w₁ ∧
      w' = w₁.removeUnassigned ((updatedTasks assignments).map (·.id)) := by
  unfold Worker.assign at h
  split at h
  · cases h
  · simpa using Worker.reconcileTaskState_eq_ok h

theorem Worker.update_eq_ok (h : w.update executor assignments = .ok w') :
    ∃ w₁, w.assignTasks executor (updatedTasks assignments) = .ok w₁ ∧
      w' = w₁.removeTasks (removedTasks assignments) := by
  unfold Worker.update at h
  split at h
  · cases h
  · simpa using Worker.reconcileTaskState_eq_ok h

/-- An incremental `Update` leaves marked the tasks marked before or
updated, less the removed ones, whatever the executor resolves. -/
theorem update_refines (h : w.update executor assignments = .ok w') (k : Nat) :
    taskAssigned w'.db k =
      ((decide (k ∈ (updatedTasks assignments).map (·.id)) || taskAssigned w.db k) &&
        decide (k ∉ (removedTasks assignments).map (·.id))) := by
  obtain ⟨w₁, h₁, rfl⟩ := Worker.update_eq_ok h
  rw [Worker.removeTasks, Worker.taskAssigned_foldl_removeTask, Worker.taskAssigned_assignTasks h₁, Bool.and_comm]

/-- A full set that leaves out a task stored as assigned but with no
manager keeps it marked: `Assign` removes by the managers only. -/
theorem assign_keeps_unmanaged {k : Nat} (hm : k ∉ w.taskManagers)
    (hk : k ∉ (updatedTasks assignments).map (·.id)) (ha : taskAssigned w.db k = true)
    (h : w.assign executor assignments = .ok w') : taskAssigned w'.db k = true := by
  obtain ⟨w₁, h₁, rfl⟩ := Worker.assign_eq_ok h
  -- no manager of `k` came with the set, so the removal loop does not reach it
  have hm₁ : k ∉ w₁.taskManagers := fun hk₁ =>
    (Worker.mem_taskManagers_assignTasks h₁ hk₁).elim hm hk
  have ha₁ : taskAssigned w₁.db k = true := by
    rw [Worker.taskAssigned_assignTasks h₁, ha, Bool.or_true]
  rw [Worker.removeUnassigned, Worker.taskAssigned_foldl_removeTask, ha₁]
  simp [hm₁]

end Calls

-- ====================== invariants

/-- Each task manager runs a task stored as assigned, one manager a
task. -/
structure Managed (w : Worker) : Prop where
  assigned : ∀ k ∈ w.taskManagers, taskAssigned w.db k = true
  nodup : w.taskManagers.Nodup

/-- When every controller resolves: the managers are exactly the tasks
stored as assigned. -/
structure Exact (w : Worker) : Prop where
  managed : ∀ k, taskAssigned w.db k = true ↔ k ∈ w.taskManagers
  nodup : w.taskManagers.Nodup

theorem Managed.newWorker (db : TaskDb) : Managed (newWorker db) := ⟨fun _ h => (nomatch h), List.nodup_nil⟩

section Invariants

variable {executor : AgentTask → Bool} {w w' : Worker} {task : AgentTask}

theorem Managed.startTask (hm : Managed w) (ha : taskAssigned w.db task.id = true) :
    Managed (w.startTask executor task) := by
  have hsame := Worker.sameMarks_startTask executor w task
  constructor
  · intro k hk
    rw [hsame.assigned k]
    rw [Worker.startTask_taskManagers] at hk
    split at hk
    · rcases List.mem_cons.mp hk with rfl | hk
      · exact ha
      · exact hm.assigned k hk
    · exact hm.assigned k hk
  · rw [Worker.startTask_taskManagers]
    split
    · next hc => exact List.nodup_cons.mpr ⟨hc.1, hm.nodup⟩
    · exact hm.nodup

theorem Managed.assignTask (hm : Managed w) (h : w.assignTask executor task = .ok w') : Managed w' := by
  constructor
  · intro k hk
    rw [Worker.taskAssigned_assignTask h]
    rcases Worker.taskManagers_assignTask h with heq | ⟨-, heq⟩
    · rw [heq] at hk
      simp [hm.assigned k hk]
    · rw [heq, List.mem_cons] at hk
      rcases hk with rfl | hk
      · simp
      · simp [hm.assigned k hk]
  · rcases Worker.taskManagers_assignTask h with heq | ⟨hnot, heq⟩
    · rw [heq]
      exact hm.nodup
    · rw [heq]
      exact List.nodup_cons.mpr ⟨hnot, hm.nodup⟩

theorem Managed.assignTasks :
    ∀ {w w' : Worker} {tasks : List AgentTask}, Managed w → w.assignTasks executor tasks = .ok w' → Managed w'
  | w, w', [], hm, h => by
      cases h
      exact hm
  | w, w', task :: tasks, hm, h => by
      obtain ⟨w₁, h₁, h₂⟩ := Worker.assignTasks_cons h
      exact (hm.assignTask h₁).assignTasks h₂

theorem Managed.removeTask (hm : Managed w) (i : Nat) : Managed (w.removeTask i) := by
  unfold Worker.removeTask
  split
  · next db hdel =>
      constructor
      · intro k hk
        -- the manager erased is the only one of task `i`
        obtain ⟨hki, hk⟩ := (hm.nodup.mem_erase_iff).mp hk
        rw [(deleteTask_eq_ok hdel).1 k, hm.assigned k hk]
        simp [hki]
      · exact hm.nodup.erase i
  · exact hm

theorem Managed.foldl_removeTask : ∀ {w : Worker} (ids : List Nat), Managed w → Managed (ids.foldl Worker.removeTask w)
  | _, [], hm => hm
  | _, i :: ids, hm => Managed.foldl_removeTask ids (hm.removeTask i)

theorem Managed.initTask (hm : Managed w) (executor : AgentTask → Bool) (task : AgentTask) :
    Managed (w.initTask executor task) := by
  unfold Worker.initTask
  split
  · next hna =>
      split
      · next db hdel =>
          -- an unmarked task has no manager, so every manager keeps its mark
          have hnot : task.id ∉ w.taskManagers := fun hk => by simp [hm.assigned _ hk] at hna
          constructor
          · intro k hk
            have hki : k ≠ task.id := fun hki => hnot (hki ▸ hk)
            rw [(deleteTask_eq_ok hdel).1 k, hm.assigned k hk]
            simp [hki]
          · exact hm.nodup
      · exact hm
  · next ha =>
      split
      · exact hm.startTask (by simpa using ha)
      · exact hm

theorem Managed.init (hm : Managed w) (executor : AgentTask → Bool) : Managed (w.init executor) := by
  unfold Worker.init
  generalize w.db.entries.map (·.2.data) = tasks
  induction tasks generalizing w with
  | nil => exact hm
  | cons task tasks ih => exact ih (hm.initTask executor task)

theorem managed_step {a : Act} (hm : Managed w) (hs : step a w = some w') : Managed w' := by
  cases a with
  | assign assignments executor =>
      obtain ⟨w₁, h₁, rfl⟩ := Worker.assign_eq_ok (Lts.eq_ok_of_toOption hs)
      exact (hm.assignTasks h₁).foldl_removeTask _
  | update assignments executor =>
      obtain ⟨w₁, h₁, rfl⟩ := Worker.update_eq_ok (Lts.eq_ok_of_toOption hs)
      exact (hm.assignTasks h₁).foldl_removeTask _
  | close =>
      cases hs
      exact ⟨hm.assigned, hm.nodup⟩
  | restart executor =>
      cases hs
      exact (Managed.newWorker w.db).init executor

/-- Along every run of calls, restarts included, each task manager runs
a task the database holds as assigned. -/
theorem managed_reachable {db : TaskDb} (hr : Lts.Reachable step (newWorker db) w) : Managed w := by
  have hind : Lts.Inductive step (newWorker db) Managed := ⟨Managed.newWorker db, managed_step⟩
  exact hind.reachable hr

end Invariants

-- ================ when all resolve

section Resolved

variable {executor : AgentTask → Bool} {w w' : Worker} {task : AgentTask}

theorem Exact.assignTask (hres : ∀ t, executor t = true) (he : Exact w) (h : w.assignTask executor task = .ok w') :
    Exact w' := by
  have htm := Worker.taskManagers_assignTask_of_resolved hres h
  constructor
  · intro k
    rw [Worker.taskAssigned_assignTask h, Bool.or_eq_true, beq_iff_eq, he.managed k, htm]
    split
    · next hm =>
        constructor
        · rintro (rfl | hk)
          · exact hm
          · exact hk
        · exact .inr
    · exact List.mem_cons.symm
  · rw [htm]
    split
    · exact he.nodup
    · next hm => exact List.nodup_cons.mpr ⟨hm, he.nodup⟩

theorem Exact.assignTasks (hres : ∀ t, executor t = true) :
    ∀ {w w' : Worker} {tasks : List AgentTask}, Exact w → w.assignTasks executor tasks = .ok w' → Exact w'
  | _, _, [], he, h => by
      cases h
      exact he
  | _, _, task :: tasks, he, h => by
      obtain ⟨w₁, h₁, h₂⟩ := Worker.assignTasks_cons h
      exact (he.assignTask hres h₁).assignTasks hres h₂

theorem Exact.removeTask (he : Exact w) (i : Nat) : Exact (w.removeTask i) := by
  unfold Worker.removeTask
  split
  · next db hdel =>
      constructor
      · intro k
        -- the erased manager was the only one of task `i`
        rw [(deleteTask_eq_ok hdel).1 k, he.nodup.mem_erase_iff, Bool.and_eq_true, bne_iff_ne, he.managed k]
      · exact he.nodup.erase i
  · exact he

theorem Exact.foldl_removeTask : ∀ {w : Worker} (ids : List Nat), Exact w → Exact (ids.foldl Worker.removeTask w)
  | _, [], he => he
  | _, i :: ids, he => Exact.foldl_removeTask ids (he.removeTask i)

/-- When every controller resolves, a full set leaves marked exactly its
updated tasks, each with its manager. -/
theorem assign_exact (hres : ∀ t, executor t = true) (he : Exact w) {assignments : List AssignmentChange}
    (h : w.assign executor assignments = .ok w') :
    Exact w' ∧ ∀ k, taskAssigned w'.db k = true ↔ k ∈ (updatedTasks assignments).map (·.id) := by
  obtain ⟨w₁, h₁, rfl⟩ := Worker.assign_eq_ok h
  have he₁ := he.assignTasks hres h₁
  refine ⟨he₁.foldl_removeTask _, fun k => ?_⟩
  rw [Worker.removeUnassigned, Worker.taskAssigned_foldl_removeTask, Worker.taskAssigned_assignTasks h₁]
  -- a task marked after the stores has a manager, so the removal reaches it unless the set has it
  have hmark : taskAssigned w₁.db k = true ↔ k ∈ w₁.taskManagers := he₁.managed k
  rw [Worker.taskAssigned_assignTasks h₁] at hmark
  generalize (updatedTasks assignments).map (·.id) = ids at hmark ⊢
  by_cases hk : k ∈ ids
  · have hout : k ∉ w₁.taskManagers.filter fun i => i ∉ ids := fun hin =>
      of_decide_eq_true (List.mem_filter.mp hin).2 hk
    rw [decide_eq_true hout, decide_eq_true hk, Bool.true_or, Bool.true_and]
    exact iff_of_true rfl hk
  · rw [decide_eq_false hk, Bool.false_or] at hmark ⊢
    refine iff_of_false (fun h => ?_) hk
    obtain ⟨hout, ha⟩ := Bool.and_eq_true_iff.mp h
    exact of_decide_eq_true hout (List.mem_filter.mpr ⟨hmark.mp ha, decide_eq_true hk⟩)

/-- The calls, with every controller resolving: the executor a label
names is replaced by one that resolves every task. -/
def resolvedStep : Act → Worker → Option Worker
  | .assign assignments _, w => step (.assign assignments fun _ => true) w
  | .update assignments _, w => step (.update assignments fun _ => true) w
  | .close, w => step .close w
  | .restart _, _ => none

theorem exact_step {a : Act} (he : Exact w) (hs : resolvedStep a w = some w') : Exact w' := by
  cases a with
  | assign assignments executor =>
      exact (assign_exact (fun _ => rfl) he (Lts.eq_ok_of_toOption hs)).1
  | update assignments executor =>
      obtain ⟨w₁, h₁, rfl⟩ := Worker.update_eq_ok (Lts.eq_ok_of_toOption hs)
      exact (he.assignTasks (fun _ => rfl) h₁).foldl_removeTask _
  | close =>
      cases hs
      exact ⟨he.managed, he.nodup⟩
  | restart executor => cases hs

/-- When every controller resolves, each full set along a run of calls
from an empty database leaves marked exactly its updated tasks. -/
theorem resolved_assign_exact (hr : Lts.Reachable resolvedStep (newWorker ∅) w) {assignments : List AssignmentChange}
    (h : w.assign (fun _ => true) assignments = .ok w') :
    ∀ k, taskAssigned w'.db k = true ↔ k ∈ (updatedTasks assignments).map (·.id) := by
  have hind : Lts.Inductive resolvedStep (newWorker ∅) Exact :=
    ⟨⟨fun k => by simp [newWorker, taskAssigned], List.nodup_nil⟩, exact_step⟩
  exact (assign_exact (fun _ => rfl) (hind.reachable hr) h).2

end Resolved

-- ================ a failed resolve

/-- A task assigned to the worker, not yet started. -/
def webTask : AgentTask := ⟨1, .running, .assigned⟩

/-- A full set of one task whose controller does not resolve, then an
empty full set; the agent then restarts, and the controller resolves. -/
def dropCalls : List Act :=
  [.assign [⟨.update, some webTask⟩] fun _ => false, .assign [] fun _ => true]

/-- The empty full set leaves the task marked as assigned, with no
manager, and `Init` after a restart starts it. -/
theorem dropped_task_restarted :
    ∃ w₁, Lts.run step (newWorker ∅) dropCalls = some w₁ ∧ taskAssigned w₁.db webTask.id = true ∧
      w₁.taskManagers = [] ∧
      ∃ w₂, step (.restart fun _ => true) w₁ = some w₂ ∧ w₂.taskManagers = [webTask.id] := by
  refine ⟨_, rfl, by decide, by decide, _, rfl, by decide⟩

end SwarmKit.Agent.Assignments

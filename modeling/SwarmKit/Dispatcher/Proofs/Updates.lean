import SwarmKit.Dispatcher.Updates

/-
What `processUpdates` does to the store (`Updates.lean`).

# Tasks never move back

`TasksAdvance st st'` says that every task of `st` is in `st'` with a
state no lower, and that `st'` has no other task. One task's transaction
keeps it (`applyTaskUpdate_advance`); the node and volume passes do not
touch the tasks; so a batch that returns keeps it
(`processUpdates_tasks_advance`).

# When the batch panics

The task and node passes never panic and leave the volumes as they are,
and a volume's transaction keeps the table's IDs. So the volume pass,
and the batch, panic exactly when a buffered volume is missing from the
store (`processUpdates_eq_none_iff`). `UpdateVolumeStatus` buffers any ID
a node reports without a lookup (`mem_updateVolumeStatus`), so a report
of an unknown or deleted volume makes the next batch panic, as does an
update event whose volume is deleted before the session loop reads it
again (`unknown_volume_report_panics`).

# What the task buffer holds

A status reaches the task buffer only when its node reported it for a
task the store assigns to that node (`updateTaskStatus_buffers_own`);
the batch does not check the node again.
-/

namespace SwarmKit.Dispatcher.Updates

open SwarmKit.Scheduler (TaskState)

-- =================== tasks advance

/-- Every task of `st` is in `st'` with a state no lower, and `st'` has
no other task. -/
structure TasksAdvance (st st' : Store) : Prop where
  advance : ∀ k t, st.tasks.lookup k = some t →
    ∃ t', st'.tasks.lookup k = some t' ∧ t.status.state.rank ≤ t'.status.state.rank
  noNew : ∀ k, k ∈ st'.tasks → k ∈ st.tasks

theorem TasksAdvance.refl (st : Store) : TasksAdvance st st :=
  ⟨fun _ t h => ⟨t, h, Nat.le_refl _⟩, fun _ h => h⟩

theorem TasksAdvance.trans {st₁ st₂ st₃ : Store} (h₁ : TasksAdvance st₁ st₂)
    (h₂ : TasksAdvance st₂ st₃) : TasksAdvance st₁ st₃ := by
  refine ⟨fun k t ht => ?_, fun k hk => h₁.noNew k (h₂.noNew k hk)⟩
  obtain ⟨t₂, ht₂, hle₂⟩ := h₁.advance k t ht
  obtain ⟨t₃, ht₃, hle₃⟩ := h₂.advance k t₂ ht₂
  exact ⟨t₃, ht₃, Nat.le_trans hle₂ hle₃⟩

theorem TasksAdvance.of_tasks_eq {st st' : Store} (h : st'.tasks = st.tasks) : TasksAdvance st st' := by
  refine ⟨fun k t ht => ⟨t, by rw [h]; exact ht, Nat.le_refl _⟩, fun k hk => ?_⟩
  rw [h] at hk
  exact hk

section Task

variable (managerID : String) (now : Int)

/-- One task's transaction writes a status only of a state no lower. -/
theorem applyTaskUpdate_advance (st : Store) (taskID : String) (status : TaskStatus) :
    TasksAdvance st (applyTaskUpdate managerID now st taskID status) := by
  unfold applyTaskUpdate
  cases hl : st.tasks.lookup taskID with
  | none => exact TasksAdvance.refl st
  | some task =>
    dsimp only
    split
    · exact TasksAdvance.refl st
    split
    · exact TasksAdvance.refl st
    rename_i hback
    refine ⟨fun k t ht => ?_, fun k hk => ?_⟩
    · by_cases hk : k = taskID
      · -- the written task: its new state is the reported one
        subst hk
        rw [hl] at ht
        cases ht
        exact ⟨_, AList.lookup_insert _, by simp only; omega⟩
      · exact ⟨t, by rw [AList.lookup_insert_ne hk, ht], Nat.le_refl _⟩
    · rcases (AList.mem_insert _).1 hk with rfl | hk
      · exact AList.lookup_isSome.1 (by rw [hl]; rfl)
      · exact hk

theorem applyTaskUpdate_volumes (st : Store) (taskID : String) (status : TaskStatus) :
    (applyTaskUpdate managerID now st taskID status).volumes = st.volumes := by
  unfold applyTaskUpdate
  cases st.tasks.lookup taskID with
  | none => rfl
  | some task =>
    dsimp only
    split_ifs <;> rfl

/-- The task pass, over the buffered statuses in any order. -/
theorem foldl_applyTaskUpdate (es : List (Σ _ : String, TaskStatus)) (st : Store) :
    TasksAdvance st (es.foldl (fun st e => applyTaskUpdate managerID now st e.1 e.2) st) ∧
      (es.foldl (fun st e => applyTaskUpdate managerID now st e.1 e.2) st).volumes = st.volumes := by
  refine Lts.foldl_invariant (P := fun st' : Store => TasksAdvance st st' ∧ st'.volumes = st.volumes) _
    (fun st' e ⟨hadv, hvol⟩ => ?_) es ⟨TasksAdvance.refl st, rfl⟩
  exact ⟨hadv.trans (applyTaskUpdate_advance managerID now st' e.1 e.2),
    (applyTaskUpdate_volumes managerID now st' e.1 e.2).trans hvol⟩

end Task

-- =========================== nodes

theorem applyNodeUpdate_tasks_volumes (st : Store) (nodeID : String) (u : NodeUpdate) :
    (applyNodeUpdate st nodeID u).tasks = st.tasks ∧ (applyNodeUpdate st nodeID u).volumes = st.volumes := by
  unfold applyNodeUpdate
  cases st.nodes.lookup nodeID with
  | none => exact ⟨rfl, rfl⟩
  | some node => exact ⟨rfl, rfl⟩

theorem foldl_applyNodeUpdate (es : List (Σ _ : String, NodeUpdate)) (st : Store) :
    (es.foldl (fun st e => applyNodeUpdate st e.1 e.2) st).tasks = st.tasks ∧
      (es.foldl (fun st e => applyNodeUpdate st e.1 e.2) st).volumes = st.volumes := by
  refine Lts.foldl_invariant (P := fun st' : Store => st'.tasks = st.tasks ∧ st'.volumes = st.volumes) _
    (fun st' e ⟨ht, hv⟩ => ?_) es ⟨rfl, rfl⟩
  obtain ⟨ht', hv'⟩ := applyNodeUpdate_tasks_volumes st' e.1 e.2
  exact ⟨ht'.trans ht, hv'.trans hv⟩

-- ========================= volumes

theorem applyVolumeUpdate_eq_none_iff (st : Store) (volumeID : String) (nodes : List String) :
    applyVolumeUpdate st volumeID nodes = none ↔ volumeID ∉ st.volumes := by
  unfold applyVolumeUpdate
  rw [← AList.lookup_eq_none]
  cases st.volumes.lookup volumeID <;> simp

/-- A volume's transaction changes only volumes, and keeps their IDs. -/
theorem applyVolumeUpdate_eq_some {st st' : Store} {volumeID : String} {nodes : List String}
    (h : applyVolumeUpdate st volumeID nodes = some st') :
    st'.tasks = st.tasks ∧ ∀ k, k ∈ st'.volumes ↔ k ∈ st.volumes := by
  unfold applyVolumeUpdate at h
  cases hl : st.volumes.lookup volumeID with
  | none => rw [hl] at h; cases h
  | some volume =>
    rw [hl] at h
    cases h
    refine ⟨rfl, fun k => ?_⟩
    rw [AList.mem_insert]
    constructor
    · rintro (rfl | hk)
      · exact AList.lookup_isSome.1 (by rw [hl]; rfl)
      · exact hk
    · exact .inr

/-- The volume pass panics exactly when one of its volumes is missing. -/
theorem foldlM_applyVolumeUpdate_eq_none_iff (es : List (Σ _ : String, List String)) (st : Store) :
    es.foldlM (fun st e => applyVolumeUpdate st e.1 e.2) st = none ↔ ∃ e ∈ es, e.1 ∉ st.volumes := by
  induction es generalizing st with
  | nil => simp
  | cons e es ih =>
    rw [List.foldlM_cons]
    cases h : applyVolumeUpdate st e.1 e.2 with
    | none =>
      have hgone := (applyVolumeUpdate_eq_none_iff st e.1 e.2).1 h
      simp only [Option.bind_eq_bind, Option.bind_none, true_iff]
      exact ⟨e, List.mem_cons_self, hgone⟩
    | some st' =>
      -- the first volume is there, and the rest see the same IDs
      have hthere : e.1 ∈ st.volumes := by
        by_contra hgone
        rw [(applyVolumeUpdate_eq_none_iff st e.1 e.2).2 hgone] at h
        cases h
      have hkeys := (applyVolumeUpdate_eq_some h).2
      simp only [Option.bind_eq_bind, Option.bind_some]
      rw [ih st']
      simp only [List.mem_cons, exists_eq_or_imp, hkeys, hthere, not_true_eq_false, false_or]

theorem foldlM_applyVolumeUpdate_tasks {es : List (Σ _ : String, List String)} {st st' : Store}
    (h : es.foldlM (fun st e => applyVolumeUpdate st e.1 e.2) st = some st') : st'.tasks = st.tasks := by
  induction es generalizing st with
  | nil => cases h; rfl
  | cons e es ih =>
    rw [List.foldlM_cons] at h
    cases h1 : applyVolumeUpdate st e.1 e.2 with
    | none => rw [h1] at h; cases h
    | some st₁ =>
      rw [h1] at h
      exact (ih h).trans (applyVolumeUpdate_eq_some h1).1

-- ======================= the batch

section Batch

variable (managerID : String) (now : Int) (b : Buffers) (st : Store)

/-- A batch that returns moves no task back and creates none. -/
theorem processUpdates_tasks_advance {st' : Store}
    (h : (processUpdates managerID now b st).2 = some st') : TasksAdvance st st' := by
  unfold processUpdates at h
  split at h
  · cases h
    exact TasksAdvance.refl st
  · dsimp only at h
    have htasks := foldl_applyTaskUpdate managerID now b.taskUpdates.entries st
    have hnodes := foldl_applyNodeUpdate b.nodeUpdates.entries
      (b.taskUpdates.entries.foldl (fun st e => applyTaskUpdate managerID now st e.1 e.2) st)
    exact htasks.1.trans (TasksAdvance.of_tasks_eq ((foldlM_applyVolumeUpdate_tasks h).trans hnodes.1))

/-- The statuses a task reports: running, then complete. -/
def runningStatus : TaskStatus := ⟨some 0, .running, "started", "", "", none⟩

def completeStatus : TaskStatus := ⟨some 1, .complete, "finished", "", "", none⟩

/-- Task `t1` of node `n1`, running. -/
def oneTask : Store := ⟨(∅ : AList _).insert "t1" ⟨"t1", "n1", runningStatus⟩, ∅, ∅⟩

/-- The buffers after node `n1` reported `t1` complete. -/
def completeBuffered : Buffers := { Buffers.empty with taskUpdates := (∅ : AList _).insert "t1" completeStatus }

theorem completed_task_advances :
    ∃ st', (processUpdates "m1" 0 completeBuffered oneTask).2 = some st' ∧ TasksAdvance oneTask st' :=
  ⟨_, rfl, processUpdates_tasks_advance "m1" 0 completeBuffered oneTask rfl⟩

/-- The batch panics exactly when a buffered volume is missing from the
store. -/
theorem processUpdates_eq_none_iff :
    (processUpdates managerID now b st).2 = none ↔
      ∃ volumeID ∈ b.unpublishedVolumes.keys, volumeID ∉ st.volumes := by
  unfold processUpdates
  split
  · rename_i hempty
    simp [AList.keys, List.keys, hempty.2.2]
  · dsimp only
    rw [foldlM_applyVolumeUpdate_eq_none_iff]
    -- the task and node passes leave the volumes as they are
    rw [(foldl_applyNodeUpdate _ _).2, (foldl_applyTaskUpdate managerID now _ st).2]
    simp [AList.keys, List.keys]

end Batch

-- ===================== the buffers

/-- A validated update reports a status of a task of the calling node. -/
theorem mem_validTaskUpdates {st : Store} {nodeID : String} {us : List TaskStatusUpdate}
    {valid : List (String × TaskStatus)} (h : validTaskUpdates st nodeID us = .ok valid)
    {k : String} {s : TaskStatus} (hk : (k, s) ∈ valid) :
    ⟨k, some s⟩ ∈ us ∧ ∃ t, st.tasks.lookup k = some t ∧ t.nodeID = nodeID := by
  induction us generalizing valid with
  | nil => cases h; cases hk
  | cons u us ih =>
    unfold validTaskUpdates at h
    cases hs : u.status with
    | none =>
      rw [hs] at h
      exact ⟨List.mem_cons_of_mem _ (ih h hk).1, (ih h hk).2⟩
    | some status =>
      rw [hs] at h
      cases ht : st.tasks.lookup u.taskID with
      | none =>
        rw [ht] at h
        exact ⟨List.mem_cons_of_mem _ (ih h hk).1, (ih h hk).2⟩
      | some t =>
        rw [ht] at h
        dsimp only at h
        split at h
        · cases h
        rename_i hnode
        cases hrest : validTaskUpdates st nodeID us with
        | error e => rw [hrest] at h; cases h
        | ok rest =>
          rw [hrest] at h
          cases h
          rcases List.mem_cons.1 hk with hu | hk
          · -- the head: the update's own task, on the calling node
            cases hu
            refine ⟨?_, t, ht, not_not.1 hnode⟩
            rw [← hs]
            exact List.mem_cons_self
          · exact ⟨List.mem_cons_of_mem _ (ih hrest hk).1, (ih hrest hk).2⟩

theorem lookup_foldl_insert (valid : List (String × TaskStatus))
    (m : AList fun _ : String => TaskStatus) {k : String} {s : TaskStatus}
    (h : (valid.foldl (fun m u => m.insert u.1 u.2) m).lookup k = some s) :
    m.lookup k = some s ∨ (k, s) ∈ valid := by
  induction valid generalizing m with
  | nil => exact .inl h
  | cons u valid ih =>
    rcases ih (m.insert u.1 u.2) h with hm | hm
    · rcases AList.lookup_insert_eq_some hm with ⟨rfl, rfl⟩ | ⟨-, hm⟩
      · exact .inr List.mem_cons_self
      · exact .inl hm
    · exact .inr (List.mem_cons_of_mem _ hm)

/-- `UpdateTaskStatus` buffers only statuses its node reported for its
own tasks. -/
theorem updateTaskStatus_buffers_own {st : Store} {nodeID : String} {updates : List TaskStatusUpdate}
    {b b' : Buffers} (h : updateTaskStatus st nodeID updates b = .ok b') {k : String}
    {s : TaskStatus} (hk : b'.taskUpdates.lookup k = some s) :
    b.taskUpdates.lookup k = some s ∨
      ⟨k, some s⟩ ∈ updates ∧ ∃ t, st.tasks.lookup k = some t ∧ t.nodeID = nodeID := by
  unfold updateTaskStatus at h
  cases hv : validTaskUpdates st nodeID updates with
  | error e => rw [hv] at h; cases h
  | ok valid =>
    rw [hv] at h
    cases h
    rcases lookup_foldl_insert valid b.taskUpdates hk with hold | hnew
    · exact .inl hold
    · exact .inr (mem_validTaskUpdates hv hnew)

theorem own_report_buffered :
    ∃ b', updateTaskStatus oneTask "n1" [⟨"t1", some completeStatus⟩] Buffers.empty = .ok b' ∧
      b'.taskUpdates.lookup "t1" = some completeStatus ∧
      (Buffers.empty.taskUpdates.lookup "t1" = some completeStatus ∨
        ⟨"t1", some completeStatus⟩ ∈ [(⟨"t1", some completeStatus⟩ : TaskStatusUpdate)] ∧
          ∃ t, oneTask.tasks.lookup "t1" = some t ∧ t.nodeID = "n1") :=
  ⟨_, rfl, rfl, updateTaskStatus_buffers_own rfl rfl⟩

-- ========================= the RPC

/-- `UpdateVolumeStatus` buffers every volume a node reports unpublished,
without looking it up. -/
theorem mem_updateVolumeStatus (nodeID : String) (updates : List VolumeStatus) (b : Buffers)
    (volumeID : String) :
    volumeID ∈ (updateVolumeStatus nodeID updates b).unpublishedVolumes ↔
      volumeID ∈ b.unpublishedVolumes ∨ ∃ s ∈ updates, s.unpublished = true ∧ s.id = volumeID := by
  induction updates generalizing b with
  | nil => simp [updateVolumeStatus]
  | cons s updates ih =>
    simp only [updateVolumeStatus, List.foldl_cons] at ih ⊢
    rw [ih]
    split
    · rename_i hs
      rw [AList.mem_insert]
      constructor
      · rintro ((rfl | h) | ⟨s', hs', h⟩)
        · exact .inr ⟨s, List.mem_cons_self, hs, rfl⟩
        · exact .inl h
        · exact .inr ⟨s', List.mem_cons_of_mem _ hs', h⟩
      · rintro (h | ⟨s', hs' | ⟨_, hs'⟩, h⟩)
        · exact .inl (.inr h)
        · exact .inl (.inl h.2.symm)
        · exact .inr ⟨s', hs', h⟩
    · rename_i hs
      constructor
      · rintro (h | ⟨s', hs', h⟩)
        · exact .inl h
        · exact .inr ⟨s', List.mem_cons_of_mem _ hs', h⟩
      · rintro (h | ⟨s', hs' | ⟨_, hs'⟩, h⟩)
        · exact .inl h
        · exact absurd h.1 hs
        · exact .inr ⟨s', hs', h⟩

theorem unknown_volume_report_panics (managerID : String) (now : Int) (nodeID volumeID : String)
    (b : Buffers) (st : Store) (hgone : volumeID ∉ st.volumes) :
    (processUpdates managerID now (updateVolumeStatus nodeID [⟨volumeID, true⟩] b) st).2 = none ∧
      ∀ tx a, onUpdateVolume tx st volumeID a = none := by
  refine ⟨(processUpdates_eq_none_iff _ _ _ _).2 ⟨volumeID, ?_, hgone⟩, fun tx a => ?_⟩
  · rw [AList.mem_keys.symm, mem_updateVolumeStatus]
    exact .inr ⟨_, List.mem_singleton_self _, rfl, rfl⟩
  · unfold onUpdateVolume
    rw [AList.lookup_eq_none.2 hgone]

/-- A store with no volume, and nothing buffered. -/
def noVolumes : Store := ⟨∅, ∅, ∅⟩

theorem stale_report_panics :
    "v1" ∉ noVolumes.volumes ∧
      ((processUpdates "m1" 0 (updateVolumeStatus "n1" [⟨"v1", true⟩] Buffers.empty) noVolumes).2 = none ∧
        ∀ tx a, onUpdateVolume tx noVolumes "v1" a = none) :=
  ⟨AList.notMem_empty _, unknown_volume_report_panics "m1" 0 "n1" "v1" Buffers.empty noVolumes
    (AList.notMem_empty _)⟩

end SwarmKit.Dispatcher.Updates

import SwarmKit.Orchestrator.Jobs
import Mathlib.Data.Finset.Card

/-
How many tasks the replicated job reconciler creates (`Jobs.lean`
`reconcileReplicatedJob`).

# The bound when nothing wraps

- `foldl_countReplicated`: the counting loop counts the completed tasks
  of the iteration and those in progress, and marks one slot for each.
- `actualNewTasks_toNat`: with at most `MaxConcurrent` tasks in
  progress and at most `TotalCompletions` completed or in progress,
  neither subtraction wraps, and the reconciler creates the smaller of
  the two rooms.
- `chooseSlots_spec`: the slot search finds, for each new task, a slot
  below `TotalCompletions` that neither a counted task nor an earlier
  new task holds, as long as that many are free (`card_freeSlots`).

`replicated_job_within_bounds` puts them together.

# When a subtraction wraps

The guard `actualNewTasks > TotalCompletions` catches a wrapped
subtraction only when the other one wraps too. With more tasks in
progress than `MaxConcurrent`, the room under `TotalCompletions` passes
the guard, and the reconciler fills it; with more completed tasks than
`TotalCompletions`, the room under `MaxConcurrent` passes, and every
new task falls back to slot 0 (`job_bounds_unguarded`).
-/

namespace SwarmKit.Orchestrator.Jobs

open SwarmKit.Scheduler (TaskState)

-- ==================== the counting

/-- A task the counting loop counts as completed. -/
def countsComplete (v : Nat) (t : Task) : Bool :=
  decide (t.jobIteration = some v ∧ t.state = .complete)

/-- A task the counting loop counts as in progress. -/
def countsRunning (v : Nat) (t : Task) : Bool :=
  decide (t.jobIteration = some v ∧ t.state ≠ .complete ∧
    t.desiredState.rank ≤ TaskState.complete.rank)

/-- The count `ReconcileService` computes for a replicated job. -/
def jobCount (service : Service) (st : Store) : ReplicatedCount :=
  (st.findTasksByService service.id).foldl (countReplicated service.jobIteration) ⟨0, 0, [], [], []⟩

/-- One task of the loop: each counter moves by one when the task is
counted in it, and each count marks one slot. -/
theorem countReplicated_counts (v : Nat) (c : ReplicatedCount) (t : Task) :
    (countReplicated v c t).completeTasks = c.completeTasks + (if countsComplete v t then 1 else 0) ∧
    (countReplicated v c t).runningTasks = c.runningTasks + (if countsRunning v t then 1 else 0) ∧
    (countReplicated v c t).slots.length =
      c.slots.length + (if countsComplete v t then 1 else 0) + (if countsRunning v t then 1 else 0) := by
  unfold countReplicated
  cases hj : t.jobIteration with
  | none => simp [countsComplete, countsRunning, hj]
  | some it =>
    by_cases hv : it = v
    · subst hv
      by_cases hc : t.state = .complete
      · simp [countsComplete, countsRunning, hj, hc]
      · by_cases hd : t.desiredState.rank ≤ TaskState.complete.rank
        · simp [countsComplete, countsRunning, hj, hc, hd]
        · simp [countsComplete, countsRunning, hj, hc, hd]
    · -- a task of another iteration is counted in neither
      have hne : ¬ some it = some v := fun h => hv (Option.some.inj h)
      simp only [countsComplete, countsRunning, hj, hne, false_and, decide_false, if_neg hv]
      split <;> simp

/-- The whole loop, by induction on the tasks. -/
theorem foldl_countReplicated (v : Nat) (l : List Task) (c : ReplicatedCount) :
    (l.foldl (countReplicated v) c).completeTasks.toNat =
        (c.completeTasks.toNat + l.countP (countsComplete v)) % 2 ^ 64 ∧
      (l.foldl (countReplicated v) c).runningTasks.toNat =
        (c.runningTasks.toNat + l.countP (countsRunning v)) % 2 ^ 64 ∧
      (l.foldl (countReplicated v) c).slots.length =
        c.slots.length + l.countP (countsComplete v) + l.countP (countsRunning v) := by
  induction l generalizing c with
  | nil => simp [UInt64.toNat_lt_size, Nat.mod_eq_of_lt]
  | cons t l ih =>
    obtain ⟨h₁, h₂, h₃⟩ := ih (countReplicated v c t)
    obtain ⟨hc, hr, hs⟩ := countReplicated_counts v c t
    rw [List.foldl_cons, List.countP_cons, List.countP_cons]
    refine ⟨?_, ?_, ?_⟩
    · rw [h₁, hc, UInt64.toNat_add, Nat.mod_add_mod]
      congr 1
      split <;> simp
      omega
    · rw [h₂, hr, UInt64.toNat_add, Nat.mod_add_mod]
      congr 1
      split <;> simp
      omega
    · rw [h₃, hs]
      omega

/-- With fewer than `2 ^ 64` tasks, the counters are the counts. -/
theorem jobCount_counts (service : Service) (st : Store)
    (hsize : (st.findTasksByService service.id).length < 2 ^ 64) :
    let l := st.findTasksByService service.id
    (jobCount service st).completeTasks.toNat = l.countP (countsComplete service.jobIteration) ∧
      (jobCount service st).runningTasks.toNat = l.countP (countsRunning service.jobIteration) ∧
      (jobCount service st).slots.length = (jobCount service st).completeTasks.toNat +
        (jobCount service st).runningTasks.toNat := by
  intro l
  obtain ⟨h₁, h₂, h₃⟩ := foldl_countReplicated service.jobIteration l ⟨0, 0, [], [], []⟩
  have hc : l.countP (countsComplete service.jobIteration) < 2 ^ 64 :=
    Nat.lt_of_le_of_lt List.countP_le_length hsize
  have hr : l.countP (countsRunning service.jobIteration) < 2 ^ 64 :=
    Nat.lt_of_le_of_lt List.countP_le_length hsize
  simp only [UInt64.toNat_zero, Nat.zero_add, Nat.mod_eq_of_lt hc, Nat.mod_eq_of_lt hr] at h₁ h₂
  refine ⟨h₁, h₂, ?_⟩
  rw [jobCount, h₃, h₁, h₂]
  simp

-- ================== the arithmetic

/-- When neither room is negative, the reconciler creates the smaller
one. -/
theorem actualNewTasks_toNat {mc tc : UInt64} {c : ReplicatedCount} (hrun : c.runningTasks ≤ mc)
    (hdone : c.completeTasks.toNat + c.runningTasks.toNat ≤ tc.toNat) :
    (actualNewTasks mc tc c).toNat =
      min (mc.toNat - c.runningTasks.toNat) (tc.toNat - c.completeTasks.toNat - c.runningTasks.toNat) := by
  have hpossible : (mc - c.runningTasks).toNat = mc.toNat - c.runningTasks.toNat :=
    UInt64.toNat_sub_of_le _ _ hrun
  have hC : c.completeTasks ≤ tc := UInt64.le_iff_toNat_le.mpr (by omega)
  have hC' : (tc - c.completeTasks).toNat = tc.toNat - c.completeTasks.toNat :=
    UInt64.toNat_sub_of_le _ _ hC
  have hR : c.runningTasks ≤ tc - c.completeTasks := UInt64.le_iff_toNat_le.mpr (by omega)
  have hallowed : (tc - c.completeTasks - c.runningTasks).toNat =
      tc.toNat - c.completeTasks.toNat - c.runningTasks.toNat := by
    rw [UInt64.toNat_sub_of_le _ _ hR, hC']
  unfold actualNewTasks
  dsimp only
  split
  · rename_i hlt
    rw [UInt64.lt_iff_toNat_lt, hpossible, hallowed] at hlt
    rw [hpossible]
    omega
  · rename_i hlt
    rw [UInt64.lt_iff_toNat_lt, hpossible, hallowed] at hlt
    rw [hallowed]
    omega

-- ======================= the slots

/-- The slots below `totalCompletions` not marked in `slots`. -/
def freeSlots (totalCompletions : Nat) (slots : List Nat) : Finset Nat :=
  (Finset.range totalCompletions).filter (· ∉ slots)

/-- At most one slot is taken per marked entry. -/
theorem card_freeSlots (totalCompletions : Nat) (slots : List Nat) :
    totalCompletions - slots.length ≤ (freeSlots totalCompletions slots).card := by
  have heq : freeSlots totalCompletions slots = Finset.range totalCompletions \ slots.toFinset := by
    ext x
    simp [freeSlots]
  rw [heq]
  calc totalCompletions - slots.length
      ≤ (Finset.range totalCompletions).card - slots.toFinset.card := by
        rw [Finset.card_range]
        exact Nat.sub_le_sub_left (List.toFinset_card_le slots) _
    _ ≤ (Finset.range totalCompletions \ slots.toFinset).card := Finset.le_card_sdiff _ _

/-- Marking a free slot takes exactly it out of the free ones. -/
theorem freeSlots_append (totalCompletions : Nat) (slots : List Nat) (s : Nat) :
    freeSlots totalCompletions (slots ++ [s]) = (freeSlots totalCompletions slots).erase s := by
  ext x
  simp only [freeSlots, Finset.mem_filter, Finset.mem_range, Finset.mem_erase, List.mem_append,
    List.mem_singleton, not_or]
  tauto

/-- As long as `n` slots are free, the search gives `n` different free
slots. -/
theorem chooseSlots_spec (totalCompletions n : Nat) (slots : List Nat)
    (h : n ≤ (freeSlots totalCompletions slots).card) :
    (chooseSlots totalCompletions n slots).length = n ∧
      (∀ x ∈ chooseSlots totalCompletions n slots, x < totalCompletions ∧ x ∉ slots) ∧
      (chooseSlots totalCompletions n slots).Nodup := by
  induction n generalizing slots with
  | zero => simp [chooseSlots]
  | succ n ih =>
    -- a free slot exists, so the search finds one
    obtain ⟨x, hx⟩ := Finset.card_pos.mp (Nat.lt_of_lt_of_le (Nat.succ_pos n) h)
    have hfind : ∃ s, (List.range totalCompletions).find? (· ∉ slots) = some s := by
      cases hf : (List.range totalCompletions).find? (· ∉ slots) with
      | some s => exact ⟨s, rfl⟩
      | none =>
        simp only [freeSlots, Finset.mem_filter, Finset.mem_range] at hx
        have := List.find?_eq_none.mp hf x (List.mem_range.mpr hx.1)
        simp [hx.2] at this
    obtain ⟨s, hs⟩ := hfind
    have hlt : s < totalCompletions := List.mem_range.mp (List.mem_of_find?_eq_some hs)
    have hfree : s ∉ slots := by simpa using List.find?_some hs
    have hmem : s ∈ freeSlots totalCompletions slots := by
      simp [freeSlots, hlt, hfree]
    have hcard : n ≤ (freeSlots totalCompletions (slots ++ [s])).card := by
      rw [freeSlots_append, Finset.card_erase_of_mem hmem]
      omega
    obtain ⟨hlen, hin, hnd⟩ := ih (slots ++ [s]) hcard
    rw [chooseSlots, hs]
    refine ⟨by simp [hlen], ?_, ?_⟩
    · intro y hy
      rcases List.mem_cons.mp hy with rfl | hy
      · exact ⟨hlt, hfree⟩
      · obtain ⟨hy₁, hy₂⟩ := hin y hy
        exact ⟨hy₁, fun h => hy₂ (List.mem_append_left _ h)⟩
    · refine List.nodup_cons.mpr ⟨fun h => (hin s h).2 (by simp), hnd⟩

-- ======================= the bound

/-- `ReconcileService` on a replicated job in which nothing wraps: the
guard passes, the new tasks keep both limits, there are none when a
limit is reached, and each gets its own slot below `TotalCompletions`
that no counted task holds. -/
theorem replicated_job_within_bounds (service : Service) (mc tc : UInt64) (st : Store)
    (hsize : (st.findTasksByService service.id).length < 2 ^ 64)
    (hrun : (jobCount service st).runningTasks ≤ mc)
    (hdone : (jobCount service st).completeTasks.toNat + (jobCount service st).runningTasks.toNat ≤
      tc.toNat) :
    let c := jobCount service st
    let n := (actualNewTasks mc tc c).toNat
    ¬ actualNewTasks mc tc c > tc ∧
      c.runningTasks.toNat + n ≤ mc.toNat ∧
      c.completeTasks.toNat + c.runningTasks.toNat + n ≤ tc.toNat ∧
      ((c.runningTasks = mc ∨ c.completeTasks.toNat + c.runningTasks.toNat = tc.toNat) → n = 0) ∧
      (chooseSlots tc.toNat n c.slots).length = n ∧
      (∀ x ∈ chooseSlots tc.toNat n c.slots, x < tc.toNat ∧ x ∉ c.slots) ∧
      (chooseSlots tc.toNat n c.slots).Nodup := by
  intro c n
  -- the hypotheses, read on the count `c`
  have hrun : c.runningTasks ≤ mc := hrun
  have hdone : c.completeTasks.toNat + c.runningTasks.toNat ≤ tc.toNat := hdone
  have hn : n = min (mc.toNat - c.runningTasks.toNat)
      (tc.toNat - c.completeTasks.toNat - c.runningTasks.toNat) := actualNewTasks_toNat hrun hdone
  have hrun' : c.runningTasks.toNat ≤ mc.toNat := UInt64.le_iff_toNat_le.mp hrun
  have hslots : c.slots.length = c.completeTasks.toNat + c.runningTasks.toNat :=
    (jobCount_counts service st hsize).2.2
  have hfree : n ≤ (freeSlots tc.toNat c.slots).card :=
    Nat.le_trans (by omega) (card_freeSlots tc.toNat c.slots)
  refine ⟨?_, by omega, by omega, ?_, chooseSlots_spec tc.toNat n c.slots hfree⟩
  · rw [gt_iff_lt, UInt64.lt_iff_toNat_lt]
    omega
  · rintro (h | h)
    · rw [h] at hn
      omega
    · omega

/-- A job of one task in progress, with room for one more. -/
def oneRunning : Store :=
  ⟨(∅ : Table Task).insert 1 ⟨1, 1, 0, 0, .complete, .running, none, none, none, none, some 0, none⟩,
    ∅, (∅ : Table Service).insert 1 ⟨1, .replicatedJob 2 4, none, none, 0⟩, 2⟩

theorem one_more_task :
    (actualNewTasks 2 4 (jobCount ⟨1, .replicatedJob 2 4, none, none, 0⟩ oneRunning)).toNat = 1 ∧
      chooseSlots 4 1 (jobCount ⟨1, .replicatedJob 2 4, none, none, 0⟩ oneRunning).slots = [1] ∧
      ¬ actualNewTasks 2 4 (jobCount ⟨1, .replicatedJob 2 4, none, none, 0⟩ oneRunning) > 4 :=
  ⟨by decide, by decide,
    (replicated_job_within_bounds ⟨1, .replicatedJob 2 4, none, none, 0⟩ 2 4 oneRunning
      (by decide) (by decide) (by decide)).1⟩

-- ============================ runs

/-- A replicated job of service 1 at iteration 0. -/
def batchJob (maxConcurrent totalCompletions : UInt64) : Service :=
  ⟨1, .replicatedJob maxConcurrent totalCompletions, none, none, 0⟩

/-- A task of the job's iteration 0. -/
def jobTask (id slot : Nat) (desired st : TaskState) : Task :=
  ⟨id, 1, slot, 0, desired, st, none, none, none, none, some 0, none⟩

/-- The store with the job and its tasks, next ID 10. -/
def jobStore (maxConcurrent totalCompletions : UInt64) (ts : List Task) : Store :=
  ⟨ts.foldl (fun m t => m.insert t.id t) ∅, ∅,
    (∅ : Table Service).insert 1 (batchJob maxConcurrent totalCompletions), 10⟩

/-- Two tasks in progress under `MaxConcurrent = 1`. -/
def crowdedJob : Store :=
  jobStore 1 4 [jobTask 1 0 .complete .running, jobTask 2 1 .complete .running]

/-- Three completed tasks under `TotalCompletions = 2`, one of them
desired to shut down. -/
def overdoneJob : Store :=
  jobStore 2 2 [jobTask 1 0 .complete .complete, jobTask 2 1 .complete .complete,
    jobTask 3 1 .shutdown .complete]

/-- With two tasks in progress and `MaxConcurrent = 1`, the reconciler
returns no error and creates two more tasks (slots 2 and 3); with three
completed tasks and `TotalCompletions = 2`, it returns no error and
creates two more, both in slot 0. -/
theorem job_bounds_unguarded :
    (jobCount (batchJob 1 4) crowdedJob).runningTasks = 2 ∧
      (reconcileReplicatedJob (batchJob 1 4) 1 4 0 crowdedJob Supervisor.new).2 = none ∧
      ((reconcileReplicatedJob (batchJob 1 4) 1 4 0 crowdedJob Supervisor.new).1.1.findTasksByService
        1).map (·.slot) = [3, 2, 1, 0] ∧
    (jobCount (batchJob 2 2) overdoneJob).completeTasks = 3 ∧
      (reconcileReplicatedJob (batchJob 2 2) 2 2 0 overdoneJob Supervisor.new).2 = none ∧
      ((reconcileReplicatedJob (batchJob 2 2) 2 2 0 overdoneJob Supervisor.new).1.1.findTasksByService
        1).map (·.slot) = [0, 0, 1, 1, 0] := by
  decide

end SwarmKit.Orchestrator.Jobs

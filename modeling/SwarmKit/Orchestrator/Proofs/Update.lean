import SwarmKit.Orchestrator.Update
import SwarmKit.Orchestrator.Proofs.Convergence
import Mathlib.Data.List.Perm.Subperm

/-
Parallelism of a rolling update (`Update.lean`).

# What a worker holds

A worker that creates the replacement itself (`updateTask`) shuts the
old tasks down and then keeps the watch of the new task open until an
event at or past `RUNNING` arrives. While a slot it took down is not up,
its worker is still watching the replacement, so there are never more
such slots than workers (`parallelism_respected`), for runs that are not
stopped and whose slots hold only dirty tasks.

# What breaks it

A slot that already holds a clean task goes to `useExistingTask`, which
shuts the other tasks down and returns without waiting for the clean
task to come up (`useExisting_returns_at_once`). A new leader restarting
a `START_FIRST` update finds exactly such slots, and with parallelism
one it takes two of them down at once, each before its replacement ran
(`existing_task_breaks_parallelism`).

# The store

Every write of the run keeps the table keyed by ID, never moves a task
that is up back down, and never moves the ID counter back (`Forward`);
`step_frame` collects that over every step.
-/

namespace SwarmKit.Orchestrator.Update

open SwarmKit.Scheduler (TaskState)
open Replicated (Keyed)

-- ======================= the store

theorem notUp_eq_false {st : Store} {id : Nat} :
    notUp st id = false ↔ ∃ t, st.getTask id = some t ∧ TaskState.running.rank ≤ t.state.rank := by
  unfold notUp
  cases st.getTask id with
  | none => simp
  | some t => simp

/-- A write of the run: the table stays keyed, a task that is up stays
up, and the ID counter does not go back. -/
structure Forward (st st' : Store) : Prop where
  keyed : Keyed st'.tasks
  nextID : st.nextID ≤ st'.nextID
  up : ∀ id, notUp st id = false → notUp st' id = false

variable {st st' st'' : Store}

namespace Forward

theorem refl (hk : Keyed st.tasks) : Forward st st := ⟨hk, Nat.le_refl _, fun _ h => h⟩

theorem trans (h₁ : Forward st st') (h₂ : Forward st' st'') : Forward st st'' :=
  ⟨h₂.keyed, Nat.le_trans h₁.nextID h₂.nextID, fun id h => h₂.up id (h₁.up id h)⟩

/-- Writing a task under its ID whose state is at least the one there. -/
theorem insert (hk : Keyed st.tasks) (y : Task)
    (hy : ∀ t, st.getTask y.id = some t → t.state.rank ≤ y.state.rank) :
    Forward st { st with tasks := st.tasks.insert y.id y } := by
  refine ⟨hk.insert y, Nat.le_refl _, fun id h => ?_⟩
  obtain ⟨t, ht, hrun⟩ := notUp_eq_false.mp h
  apply notUp_eq_false.mpr
  by_cases hid : id = y.id
  · subst hid
    exact ⟨y, AList.lookup_insert _, Nat.le_trans hrun (hy t ht)⟩
  · exact ⟨t, by rw [Store.getTask, AList.lookup_insert_ne hid]; exact ht, hrun⟩

theorem createTask (hk : Keyed st.tasks) {y : Task} (h : st.createTask y = .ok st') :
    Forward st st' := by
  obtain ⟨hfresh, rfl⟩ := Store.createTask_tasks h
  apply Forward.insert hk y
  intro t ht
  exact absurd (AList.lookup_isSome.mp (by rw [Store.getTask] at ht; rw [ht]; rfl)) hfresh

theorem updateTask (hk : Keyed st.tasks) {y : Task} (h : st.updateTask y = .ok st')
    (hy : ∀ t, st.getTask y.id = some t → t.state.rank ≤ y.state.rank) : Forward st st' := by
  rw [Store.updateTask_tasks h]
  exact Forward.insert hk y hy

/-- `identity.NewID()` only moves the counter. -/
theorem newID (hk : Keyed st.tasks) : Forward st st.newID.2 :=
  ⟨hk, Nat.le_succ _, fun _ h => h⟩

/-- A write that keeps the observed state of the task it rewrites: the
task is re-read under `id` and written back with another desired
state. -/
theorem rewrite (hk : Keyed st.tasks) {id : Nat} {t : Task} (ht : st.getTask id = some t)
    (d : TaskState) (h : st.updateTask { t with desiredState := d } = .ok st') : Forward st st' := by
  apply Forward.updateTask hk h
  intro t' ht'
  have hid : t.id = id := hk id t ht
  rw [show ({ t with desiredState := d } : Task).id = id from hid, ht, Option.some.injEq] at ht'
  subst ht'
  exact Nat.le_refl _

end Forward

theorem shutdownTask_forward (hk : Keyed st.tasks) {id : Nat} (h : shutdownTask id st = .ok st') :
    Forward st st' := by
  unfold shutdownTask at h
  split at h
  · cases h
  · rename_i t ht
    split at h
    · cases h
    · split at h
      · rename_i tx hupd
        cases h
        exact Forward.rewrite hk ht _ hupd
      · cases h

theorem removeOldTasksLoop_forward (hk : Keyed st.tasks) (l : List Task) (lastErr : Option UpdateErr)
    (removedTask : Option Task) : Forward st (removeOldTasksLoop l lastErr removedTask st).2.2 := by
  induction l generalizing st lastErr removedTask with
  | nil => exact Forward.refl hk
  | cons original rest ih =>
    unfold removeOldTasksLoop
    split
    · exact ih hk _ _
    · split
      · exact ih hk _ _
      · rename_i batch hshut
        have h₁ := shutdownTask_forward hk hshut
        exact h₁.trans (ih h₁.keyed _ _)

theorem removeOldTasks_forward (hk : Keyed st.tasks) {l : List Task} {o : Option Task}
    (h : removeOldTasks l st = .ok (o, st')) : Forward st st' := by
  unfold removeOldTasks at h
  have hf := removeOldTasksLoop_forward hk l none none
  split at h
  · cases h
  · rename_i batch hloop
    cases h
    rw [hloop] at hf
    exact hf

theorem startNow_forward (hk : Keyed st.tasks) {id : Nat} (h : startNow id st = .ok st') :
    Forward st st' := by
  unfold startNow at h
  split at h
  · cases h
    exact Forward.refl hk
  · rename_i t ht
    split at h
    · cases h
      exact Forward.refl hk
    · exact Forward.rewrite hk ht _ h

theorem startNowUpdate_forward (hk : Keyed st.tasks) (id : Nat) (ok : Bool) :
    Forward st (startNowUpdate id ok st) := by
  unfold startNowUpdate
  split
  · split
    · rename_i st₁ h
      exact startNow_forward hk h
    · exact Forward.refl hk
  · exact Forward.refl hk

theorem createUpdated_forward (hk : Keyed st.tasks) {service : Service} {y : Task}
    (h : createUpdated service y st = .ok st') : Forward st st' := by
  unfold createUpdated at h
  split at h
  · split at h
    · rename_i tx hc
      cases h
      exact Forward.createTask hk hc
    · cases h
  · cases h

-- ===================== the workers

/-- The task whose watch a worker in `updateTask` holds open. -/
def WorkerPc.watched : WorkerPc → Option Nat
  | .awaitStart _ id (some _) => some id
  | .awaitRunning _ id _ _ => some id
  | _ => none

/-- The task whose watch already delivered a state at or past `RUNNING`. -/
def WorkerPc.upTask : WorkerPc → Option Nat
  | .awaitStart _ id (some (_, some _)) => some id
  | .awaitRunning _ id _ (some _) => some id
  | _ => none

/-- A worker waiting in `useExistingTask`. -/
def WorkerPc.inUseExisting : WorkerPc → Bool
  | .awaitStart _ _ none => true
  | _ => false

@[simp] theorem afterPc_watched (p : Params) : p.afterPc.watched = none := by
  unfold Params.afterPc
  split <;> rfl

@[simp] theorem afterPc_upTask (p : Params) : p.afterPc.upTask = none := by
  unfold Params.afterPc
  split <;> rfl

@[simp] theorem afterPc_inUseExisting (p : Params) : p.afterPc.inUseExisting = false := by
  unfold Params.afterPc
  split <;> rfl

section Report

variable (id : Nat) (st : TaskState) (pc : WorkerPc)

/-- A report changes no watch. -/
@[simp] theorem watchReport_watched : (State.watchReport id st pc).watched = pc.watched := by
  unfold State.watchReport
  split
  · split <;> rfl
  · split <;> rfl
  · rfl

@[simp] theorem watchReport_inUseExisting :
    (State.watchReport id st pc).inUseExisting = pc.inUseExisting := by
  unfold State.watchReport
  split
  · split <;> rfl
  · split <;> rfl
  · rfl

/-- A watch that has delivered a state had it before, or got it from
this report. -/
theorem watchReport_upTask {i : Nat} (h : (State.watchReport id st pc).upTask = some i) :
    pc.upTask = some i ∨ (i = id ∧ TaskState.running.rank ≤ st.rank) := by
  unfold State.watchReport at h
  split at h
  · split at h
    · rename_i hid
      simp only [WorkerPc.upTask, Option.some.injEq] at h
      exact .inr ⟨h ▸ hid.1, hid.2⟩
    · cases h
  · split at h
    · rename_i hid
      simp only [WorkerPc.upTask, Option.some.injEq] at h
      exact .inr ⟨h ▸ hid.1, hid.2⟩
    · cases h
  · exact .inl h

end Report

-- ======================= the state

namespace State

variable {p : Params} {s : State} {w : Nat} {pc : WorkerPc}

@[simp] theorem setWorker_store : (s.setWorker w pc).store = s.store := rfl
@[simp] theorem setWorker_pending : (s.setWorker w pc).pending = s.pending := rfl
@[simp] theorem setWorker_stopped : (s.setWorker w pc).stopped = s.stopped := rfl
@[simp] theorem setWorker_removed : (s.setWorker w pc).removed = s.removed := rfl
@[simp] theorem setWorker_workers : (s.setWorker w pc).workers = s.workers.set w pc := rfl
@[simp] theorem setWorker_outOfService : (s.setWorker w pc).outOfService = s.outOfService := rfl

theorem afterSlot_eq : s.afterSlot p w = s.setWorker w p.afterPc := rfl

variable {slot : Slot} {r : Nat} {o : Option Task}

@[simp] theorem recordRemoved_store : (recordRemoved slot r o s).store = s.store := by
  unfold recordRemoved; split <;> rfl
@[simp] theorem recordRemoved_pending : (recordRemoved slot r o s).pending = s.pending := by
  unfold recordRemoved; split <;> rfl
@[simp] theorem recordRemoved_stopped : (recordRemoved slot r o s).stopped = s.stopped := by
  unfold recordRemoved; split <;> rfl
@[simp] theorem recordRemoved_workers : (recordRemoved slot r o s).workers = s.workers := by
  unfold recordRemoved; split <;> rfl

/-- The record grows by the slot, or not at all. -/
theorem recordRemoved_removed :
    (recordRemoved slot r o s).removed = s.removed ∨
      (recordRemoved slot r o s).removed = s.removed ++ [(slot, r)] := by
  unfold recordRemoved
  split
  · exact .inr rfl
  · exact .inl rfl

end State

-- ========================== a slot

/-- What a worker's batch for a slot does to the run: the queue and
`stopChan` are untouched, the store moves forward, and only the
worker's own counter moves. -/
structure SlotStep (w : Nat) (s s' : State) : Prop where
  pending : s'.pending = s.pending
  stopped : s'.stopped = s.stopped
  forward : Forward s.store s'.store
  worker : ∃ pc, s'.workers = s.workers.set w pc

namespace SlotStep

variable {p : Params} {s s' : State} {w : Nat}

theorem setWorker (hk : Keyed s.store.tasks) (pc : WorkerPc) : SlotStep w s (s.setWorker w pc) :=
  ⟨rfl, rfl, Forward.refl hk, pc, rfl⟩

theorem afterSlot (hk : Keyed s.store.tasks) : SlotStep w s (s.afterSlot p w) :=
  setWorker hk p.afterPc

/-- A batch that wrote the store forward and then moved the worker. -/
theorem of_setWorker (pc : WorkerPc) {s₁ : State} (hpending : s₁.pending = s.pending)
    (hstopped : s₁.stopped = s.stopped) (hf : Forward s.store s₁.store) (hworkers : s₁.workers = s.workers) :
    SlotStep w s (s₁.setWorker w pc) :=
  ⟨hpending, hstopped, hf, pc, by rw [State.setWorker_workers, hworkers]⟩

theorem of_afterSlot {s₁ : State} (hpending : s₁.pending = s.pending) (hstopped : s₁.stopped = s.stopped)
    (hf : Forward s.store s₁.store) (hworkers : s₁.workers = s.workers) :
    SlotStep w s (s₁.afterSlot p w) :=
  of_setWorker p.afterPc hpending hstopped hf hworkers

end SlotStep

variable {p : Params} {s : State} {w : Nat} {slot : Slot} {now : Int} {ok : Bool}

theorem removeOthers_forward {st st' : Store} (hk : Keyed st.tasks) {l : List Task} {o : Option Task}
    (h : removeOthers l st = .ok (o, st')) : Forward st st' := by
  unfold removeOthers at h
  split at h
  · cases h
    exact Forward.refl hk
  · exact removeOldTasks_forward hk h

theorem useExistingTask_slotStep (hk : Keyed s.store.tasks) (e : Task) :
    SlotStep w s (s.useExistingTask p w slot e ok) := by
  dsimp only [State.useExistingTask]
  split
  · exact SlotStep.afterSlot hk
  · split
    · exact SlotStep.afterSlot hk
    · rename_i oldTask batch hrem
      have hb := removeOthers_forward hk hrem
      split
      · split
        · refine SlotStep.of_setWorker _ ?_ ?_ ?_ ?_ <;> simp [hb]
        · refine SlotStep.of_setWorker _ ?_ ?_ ?_ ?_ <;> simp [hb]
      · refine SlotStep.of_setWorker _ ?_ ?_ ?_ ?_ <;> simp [Forward.refl hk]

/-- What `updateTask` can do: it draws the next ID; then the worker is
back where a slot ends, with nothing recorded, or waits for the start
of the task under that ID, and under `STOP_FIRST` the slot may be
recorded with it. -/
theorem updateTask_cases (hk : Keyed s.store.tasks) (w : Nat) (slot : Slot) (now : Int) (ok : Bool) :
    let s' := s.updateTask p w slot now ok
    SlotStep w s s' ∧ s.store.nextID < s'.store.nextID ∧
      ((s'.removed = s.removed ∧ s'.workers = s.workers.set w p.afterPc) ∨
        ∃ sts, s'.workers = s.workers.set w (.awaitStart slot s.store.nextID (some (sts, none))) ∧
          (s'.removed = s.removed ∨
            (p.updateConfig.order = .stopFirst ∧ s'.removed = s.removed ++ [(slot, s.store.nextID)]))) := by
  have hid : Forward s.store s.store.newID.2 := Forward.newID hk
  dsimp only [State.updateTask, Store.newID] at hid ⊢
  split
  · exact ⟨SlotStep.of_afterSlot rfl rfl hid rfl, Nat.lt_succ_self _, .inl ⟨rfl, rfl⟩⟩
  · rename_i batch hc
    have hb := hid.trans (createUpdated_forward hid.keyed hc)
    split
    · rename_i horder
      split
      · refine ⟨SlotStep.of_setWorker _ rfl rfl hb rfl, ?_, .inr ⟨true, rfl, .inl rfl⟩⟩
        exact (createUpdated_forward hid.keyed hc).nextID
      · exact ⟨SlotStep.of_afterSlot rfl rfl hid rfl, Nat.lt_succ_self _, .inl ⟨rfl, rfl⟩⟩
    · rename_i horder
      split
      · exact ⟨SlotStep.of_afterSlot rfl rfl hid rfl, Nat.lt_succ_self _, .inl ⟨rfl, rfl⟩⟩
      · rename_i oldTask batch' hrem
        have hrem' := removeOldTasks_forward hb.keyed hrem
        split
        · refine ⟨SlotStep.of_setWorker _ ?_ ?_ ?_ ?_, ?_, .inr ⟨false, by simp, ?_⟩⟩
          · simp
          · simp
          · simpa using hb.trans hrem'
          · simp
          · -- the drawn ID is below the counter of the batch
            have h : s.store.nextID + 1 ≤ batch'.nextID :=
              Nat.le_trans (createUpdated_forward hid.keyed hc).nextID hrem'.nextID
            simp only [State.setWorker_store, State.recordRemoved_store]
            omega
          · rcases State.recordRemoved_removed with h | h
            · exact .inl (by simpa using h)
            · exact .inr ⟨horder, by simpa using h⟩
        · exact ⟨SlotStep.of_afterSlot rfl rfl hid rfl, Nat.lt_succ_self _, .inl ⟨rfl, rfl⟩⟩

/-- A slot of dirty tasks has no clean task to keep. -/
theorem findExisting_of_dirty (isTaskDirty : Task → Bool) {slot : Slot}
    (h : ∀ t ∈ slot, isTaskDirty t = true) (cleanTask : Option Task) :
    findExisting isTaskDirty slot cleanTask = cleanTask := by
  induction slot generalizing cleanTask with
  | nil => rfl
  | cons t slot ih =>
    have ht : isTaskDirty t = true := h t List.mem_cons_self
    rw [findExisting, if_pos ht]
    exact ih (fun t' ht' => h t' (List.mem_cons_of_mem t ht')) cleanTask

theorem work_of_dirty (h : ∀ t ∈ slot, p.isTaskDirty t = true) :
    s.work p w slot now ok = s.updateTask p w slot now ok := by
  rw [State.work, findExisting_of_dirty p.isTaskDirty h]

theorem work_slotStep (hk : Keyed s.store.tasks) : SlotStep w s (s.work p w slot now ok) := by
  unfold State.work
  split
  · exact useExistingTask_slotStep hk _
  · exact (updateTask_cases hk w slot now ok).1

/-- A worker that keeps a clean task desired `RUNNING` goes back to the
queue (or to its `Delay`) in the same step, whatever the kept task's
observed state: `useExistingTask` has no wait for it to come up. -/
theorem useExisting_returns_at_once {e : Task} (hex : findExisting p.isTaskDirty slot none = some e)
    (he : e.desiredState = .running) :
    (s.work p w slot now ok).workers = s.workers.set w p.afterPc := by
  rw [State.work, hex]
  dsimp only [State.useExistingTask]
  split
  · rfl
  · split
    · rfl
    · split
      · rw [if_neg (not_not.mpr he)]
        simp [State.afterSlot_eq]
      · rfl

/-- `START_FIRST`'s shutdown after the new task ran: the store moves
forward and the slot may be recorded, nothing else changes. -/
theorem stopOld_cases (hk : Keyed s.store.tasks) (slot : Slot) (id : Nat) (ok : Bool) :
    let s' := s.stopOld slot id ok
    s'.pending = s.pending ∧ s'.stopped = s.stopped ∧ s'.workers = s.workers ∧
      Forward s.store s'.store ∧ (s'.removed = s.removed ∨ s'.removed = s.removed ++ [(slot, id)]) := by
  dsimp only [State.stopOld]
  split
  · rename_i oldTask batch hrem
    split
    · refine ⟨by simp, by simp, by simp, by simpa using removeOldTasks_forward hk hrem, ?_⟩
      rcases State.recordRemoved_removed with h | h
      · exact .inl (by simpa using h)
      · exact .inr (by simpa using h)
    · exact ⟨rfl, rfl, rfl, Forward.refl hk, .inl rfl⟩
  · exact ⟨rfl, rfl, rfl, Forward.refl hk, .inl rfl⟩

-- ========================== a step

/-- What every step keeps: the store moves forward, `stopChan` stays
closed, the workers stay as many, and the queue only loses slots. -/
structure StepFrame (s s' : State) : Prop where
  forward : Forward s.store s'.store
  stopped : s.stopped = true → s'.stopped = true
  workers : s'.workers.length = s.workers.length
  pending : ∀ slot ∈ s'.pending, slot ∈ s.pending

namespace StepFrame

variable {s s' : State}

theorem of_setWorker (hk : Keyed s.store.tasks) (w : Nat) (pc : WorkerPc) : StepFrame s (s.setWorker w pc) :=
  ⟨Forward.refl hk, id, List.length_set, fun _ h => h⟩

theorem of_slotStep {w : Nat} (h : SlotStep w s s') : StepFrame s s' := by
  obtain ⟨pc, hpc⟩ := h.worker
  exact ⟨h.forward, fun hs => h.stopped ▸ hs, by rw [hpc, List.length_set], fun _ hm => h.pending ▸ hm⟩

end StepFrame

/-- A status report writes the reported state over a smaller one. -/
theorem report_forward {st st' : Store} (hk : Keyed st.tasks) {id : Nat} {t : Task} {x : TaskState}
    (ht : st.getTask id = some t) (hlt : t.state.rank < x.rank)
    (h : st.updateTask { t with state := x } = .ok st') : Forward st st' := by
  apply Forward.updateTask hk h
  intro t' ht'
  have hid : t.id = id := hk id t ht
  rw [show ({ t with state := x } : Task).id = id from hid, ht, Option.some.injEq] at ht'
  subst ht'
  exact Nat.le_of_lt hlt

theorem step_frame (hk : Keyed s.store.tasks) {a : Act} {s' : State} (h : step p a s = some s') :
    StepFrame s s' := by
  cases a with
  | hand w now ok =>
    simp only [step] at h
    split at h
    · rename_i slot rest hpending _
      cases h
      have hf : StepFrame { s with pending := rest } ({ s with pending := rest }.work p w slot now ok) :=
        StepFrame.of_slotStep (work_slotStep hk)
      exact ⟨hf.forward, hf.stopped, hf.workers, fun sl hm => hpending ▸ List.mem_cons_of_mem slot (hf.pending sl hm)⟩
    · cases h
  | stop =>
    cases h
    exact ⟨Forward.refl hk, fun _ => rfl, rfl, fun _ hm => hm⟩
  | abort =>
    simp only [step] at h
    split at h
    · cases h
      exact ⟨Forward.refl hk, id, rfl, fun _ hm => by cases hm⟩
    · cases h
  | failureAction =>
    simp only [step] at h
    split at h
    · cases h
      exact ⟨Forward.refl hk, id, rfl, fun _ hm => by cases hm⟩
    · cases h
  | exit w =>
    simp only [step] at h
    split at h
    · cases h
      exact StepFrame.of_setWorker hk w _
    · cases h
  | fire i timer ok =>
    simp only [step] at h
    split at h
    · rename_i d _
      split at h
      · cases h
        exact ⟨startNowUpdate_forward hk _ _, id, rfl, fun _ hm => hm⟩
      · cases h
    · cases h
  | started w =>
    simp only [step] at h
    split at h
    · split at h
      · cases h
      · split at h
        · cases h
          exact StepFrame.of_setWorker hk w _
        · cases h
          exact StepFrame.of_setWorker hk w _
    · cases h
  | observe w ok =>
    simp only [step] at h
    split at h
    · rename_i slot id sts x _
      obtain ⟨hp, hs, hw, hf, -⟩ := stopOld_cases (s := s) hk slot id ok
      split at h
      · cases h
        exact ⟨by simpa [State.afterSlot_eq] using hf, by simp [State.afterSlot_eq, hs],
          by simp [State.afterSlot_eq, hw], by simp [State.afterSlot_eq, hp]⟩
      · cases h
        exact StepFrame.of_setWorker hk w _
    · cases h
  | wake w =>
    simp only [step] at h
    split at h
    · cases h
      exact StepFrame.of_setWorker hk w _
    · cases h
  | interrupt w =>
    simp only [step] at h
    split at h
    · split at h
      · cases h
        exact StepFrame.of_setWorker hk w _
      · cases h
        exact StepFrame.of_setWorker hk w _
      · cases h
        exact StepFrame.of_setWorker hk w _
      · cases h
    · cases h
  | report i x =>
    simp only [step] at h
    split at h
    · rename_i t ht
      split at h
      · rename_i hlt
        split at h
        · rename_i store hupd
          cases h
          exact ⟨report_forward hk ht hlt hupd, id, List.length_map _, fun _ hm => hm⟩
        · cases h
      · cases h
    · cases h

-- =================== the invariant

theorem mem_outOfService {s : State} {e : Slot × Nat} :
    e ∈ s.outOfService ↔ e ∈ s.removed ∧ notUp s.store e.2 = true := by
  simp [State.outOfService]

theorem Forward.notUp_of {st st' : Store} (hf : Forward st st') {id : Nat} (h : notUp st' id = true) :
    notUp st id = true := by
  cases h' : notUp st id with
  | false => rw [hf.up id h'] at h; cases h
  | true => rfl

/-- After a step that wrote the store forward and added `extra` to the
record, the slots out of service are among the old ones and those of
`extra` that are not up. -/
theorem outOfService_sublist {s s' : State} (hf : Forward s.store s'.store) (extra : List (Slot × Nat))
    (hr : s'.removed = s.removed ++ extra) :
    s'.outOfService.Sublist (s.outOfService ++ extra.filter fun e => notUp s'.store e.2) := by
  unfold State.outOfService
  rw [hr, List.filter_append]
  apply List.Sublist.append _ (List.Sublist.refl _)
  apply List.monotone_filter_right
  intro e he
  exact hf.notUp_of he

/-- Moving worker `w` to `pc` keeps every watch of the other workers,
and worker `w`'s own if `pc` keeps it. -/
theorem watched_set {l : List WorkerPc} {w : Nat} {pc : WorkerPc} {P : Nat → Prop}
    (h : ∀ id, (l[w]?).bind WorkerPc.watched = some id → P id → pc.watched = some id) :
    ∀ (v id : Nat), (l[v]?).bind WorkerPc.watched = some id → P id →
      ((l.set w pc)[v]?).bind WorkerPc.watched = some id := by
  intro v id hv hp
  rw [List.getElem?_set]
  split
  · rename_i hwv
    subst hwv
    split
    · exact h id hv hp
    · rename_i hlen
      rw [List.getElem?_eq_none (Nat.le_of_not_lt hlen)] at hv
      cases hv
  · exact hv

/-- What holds along a run whose slots hold only dirty tasks, until
`stopChan` is closed: every worker is in `updateTask`'s path, and every
slot out of service has a worker still watching its replacement, the
replacements all different. -/
structure Core (p : Params) (s : State) : Prop where
  keyed : Keyed s.store.tasks
  dirty : ∀ slot ∈ s.pending, ∀ t ∈ slot, p.isTaskDirty t = true
  noExisting : ∀ pc ∈ s.workers, pc.inUseExisting = false
  fresh : ∀ e ∈ s.outOfService, e.2 < s.store.nextID
  nodup : (s.outOfService.map (·.2)).Nodup
  watched : ∀ e ∈ s.outOfService, ∃ v : Nat, (s.workers[v]?).bind WorkerPc.watched = some e.2
  up : ∀ pc ∈ s.workers, ∀ id : Nat, pc.upTask = some id → notUp s.store id = false

namespace Core

variable {s s' : State}

/-- The shape of every preservation step: the store moved forward, the
out-of-service slots are old ones or `new` ones with fresh, watched
replacements, and every watch of a replacement still down is kept. -/
theorem next (hc : Core p s) (hf : StepFrame s s') (new : List (Slot × Nat))
    (hout : s'.outOfService.Sublist (s.outOfService ++ new))
    (hnew : ∀ e ∈ new, s.store.nextID ≤ e.2 ∧ e.2 < s'.store.nextID ∧
      ∃ v : Nat, (s'.workers[v]?).bind WorkerPc.watched = some e.2)
    (hnewNodup : (new.map (·.2)).Nodup)
    (hwatch : ∀ (v id : Nat), (s.workers[v]?).bind WorkerPc.watched = some id → notUp s'.store id = true →
      (s'.workers[v]?).bind WorkerPc.watched = some id)
    (hexisting : ∀ pc ∈ s'.workers, pc.inUseExisting = false)
    (hup : ∀ pc ∈ s'.workers, ∀ id : Nat, pc.upTask = some id → notUp s'.store id = false) :
    Core p s' where
  keyed := hf.forward.keyed
  dirty := fun slot h => hc.dirty slot (hf.pending slot h)
  noExisting := hexisting
  fresh := by
    intro e he
    rcases List.mem_append.mp (hout.subset he) with hold | hn
    · exact Nat.lt_of_lt_of_le (hc.fresh e hold) hf.forward.nextID
    · exact (hnew e hn).2.1
  nodup := by
    apply List.Nodup.sublist (hout.map _)
    rw [List.map_append, List.nodup_append]
    refine ⟨hc.nodup, hnewNodup, ?_⟩
    intro a ha b hb hab
    obtain ⟨e, he, rfl⟩ := List.mem_map.mp ha
    obtain ⟨e', he', rfl⟩ := List.mem_map.mp hb
    have h₁ := hc.fresh e he
    have h₂ := (hnew e' he').1
    omega
  watched := by
    intro e he
    rcases List.mem_append.mp (hout.subset he) with hold | hn
    · obtain ⟨v, hv⟩ := hc.watched e hold
      exact ⟨v, hwatch v e.2 hv (mem_outOfService.mp he).2⟩
    · exact (hnew e hn).2.2
  up := hup

/-- A step that moves worker `w` to `pc` and leaves the other workers:
`pc` keeps worker `w`'s watch of any replacement that is still down. -/
theorem next_set (hc : Core p s) (hf : StepFrame s s') {w : Nat} {pc : WorkerPc}
    (hws : s'.workers = s.workers.set w pc) (new : List (Slot × Nat))
    (hout : s'.outOfService.Sublist (s.outOfService ++ new))
    (hnew : ∀ e ∈ new, s.store.nextID ≤ e.2 ∧ e.2 < s'.store.nextID ∧
      ∃ v : Nat, (s'.workers[v]?).bind WorkerPc.watched = some e.2)
    (hnewNodup : (new.map (·.2)).Nodup)
    (hold : ∀ id : Nat, (s.workers[w]?).bind WorkerPc.watched = some id → notUp s'.store id = true →
      pc.watched = some id)
    (hexisting : pc.inUseExisting = false)
    (hup : ∀ id : Nat, pc.upTask = some id → notUp s'.store id = false) : Core p s' := by
  refine hc.next hf new hout hnew hnewNodup ?_ ?_ ?_
  · rw [hws]
    exact watched_set hold
  · intro pc' hm
    rw [hws] at hm
    rcases List.mem_or_eq_of_mem_set hm with hm | rfl
    · exact hc.noExisting pc' hm
    · exact hexisting
  · intro pc' hm id hid
    rw [hws] at hm
    rcases List.mem_or_eq_of_mem_set hm with hm | rfl
    · exact hf.forward.up id (hc.up pc' hm id hid)
    · exact hup id hid

/-- A step that moves worker `w` off any watch but that of a task that
is up, into a counter with no task in use. -/
theorem setWorker (hc : Core p s) (w : Nat) {pc : WorkerPc}
    (hold : ∀ id : Nat, (s.workers[w]?).bind WorkerPc.watched = some id → notUp s.store id = false)
    (hexisting : pc.inUseExisting = false) (hup : pc.upTask = none) :
    Core p (s.setWorker w pc) := by
  refine hc.next_set (StepFrame.of_setWorker hc.keyed w pc) rfl [] (by simp) (fun _ h => by cases h)
    List.nodup_nil ?_ hexisting ?_
  · intro id hw hn
    rw [State.setWorker_store, hold id hw] at hn
    cases hn
  · intro id hid
    rw [hup] at hid
    cases hid

end Core

namespace Core

variable {s : State}

theorem failureAction (hc : Core p s) : Core p { s with pending := [] } :=
  ⟨hc.keyed, fun _ h => (by cases h), hc.noExisting, hc.fresh, hc.nodup, hc.watched, hc.up⟩

theorem fire (hc : Core p s) (d : Starter) (ok : Bool) (starters : List Starter) :
    Core p { s with store := startNowUpdate d.taskID ok s.store, starters } := by
  have hf := startNowUpdate_forward hc.keyed d.taskID ok
  refine hc.next ⟨hf, id, rfl, fun _ h => h⟩ [] ?_ (fun _ h => by cases h) List.nodup_nil
    (fun _ _ h _ => h) hc.noExisting ?_
  · exact outOfService_sublist hf [] (by simp)
  · intro pc hm id hid
    exact hf.up id (hc.up pc hm id hid)


/-- A worker takes a dirty slot: if its batch commits it watches the
replacement it created under a fresh ID, and only that replacement's
slot is recorded. -/
theorem hand (hc : Core p s) {w : Nat} {slot : Slot} {rest : List Slot}
    (hpending : s.pending = slot :: rest) (hw : s.workers[w]? = some .receive) (now : Int) (ok : Bool) :
    Core p ({ s with pending := rest }.work p w slot now ok) := by
  have hd : ∀ t ∈ slot, p.isTaskDirty t = true := hc.dirty slot (by rw [hpending]; exact List.mem_cons_self)
  rw [work_of_dirty hd]
  obtain ⟨hss, hlt, hcase⟩ := updateTask_cases (p := p) (s := { s with pending := rest }) hc.keyed w slot now ok
  have hf : StepFrame s ({ s with pending := rest }.updateTask p w slot now ok) := by
    have h := StepFrame.of_slotStep hss
    exact ⟨h.forward, h.stopped, h.workers, fun sl hm => by rw [hpending]; exact List.mem_cons_of_mem _ (h.pending sl hm)⟩
  -- worker `w` was at the queue, watching nothing
  have hidle : ∀ id : Nat, (s.workers[w]?).bind WorkerPc.watched ≠ some id := by
    intro id h
    rw [hw] at h
    cases h
  have hlen : w < s.workers.length := (List.getElem?_eq_some_iff.mp hw).1
  rcases hcase with ⟨hr, hws⟩ | ⟨sts, hws, hr⟩
  · refine hc.next_set hf hws [] ?_ (fun _ h => by cases h) List.nodup_nil
      (fun id h => absurd h (hidle id)) (afterPc_inUseExisting p) (fun id h => by simp at h)
    simpa using outOfService_sublist (s := s) hss.forward [] (by simpa using hr)
  · -- the record grew by the new slot or not at all
    have hr' : ∃ extra : List (Slot × Nat), extra.Sublist [(slot, s.store.nextID)] ∧
        ({ s with pending := rest }.updateTask p w slot now ok).removed = s.removed ++ extra := by
      rcases hr with hr | ⟨-, hr⟩
      · exact ⟨[], List.nil_sublist _, by simpa using hr⟩
      · exact ⟨_, List.Sublist.refl _, hr⟩
    obtain ⟨extra, hsub, hr⟩ := hr'
    refine hc.next_set hf hws _ (outOfService_sublist (s := s) hss.forward extra hr) ?_ ?_
      (fun id h => absurd h (hidle id)) rfl (fun id h => by cases h)
    · intro e he
      have he' : e = (slot, s.store.nextID) :=
        List.mem_singleton.mp (hsub.subset (List.mem_filter.mp he).1)
      subst he'
      refine ⟨Nat.le_refl _, hlt, w, ?_⟩
      rw [hws, List.getElem?_set_self hlen]
      rfl
    · apply List.Nodup.sublist ((List.filter_sublist.trans hsub).map _)
      exact List.nodup_singleton _

/-- Worker `w`'s delayed start ran: it goes on watching the same task. -/
theorem started (hc : Core p s) {w : Nat} {slot : Slot} {id : Nat} {sts : Bool} {up : Option TaskState}
    (hw : s.workers[w]? = some (.awaitStart slot id (some (sts, up)))) :
    Core p (s.setWorker w (.awaitRunning slot id sts up)) := by
  have hpc : WorkerPc.awaitStart slot id (some (sts, up)) ∈ s.workers := List.mem_of_getElem? hw
  refine hc.next_set (StepFrame.of_setWorker hc.keyed w _) rfl [] (by simp) (fun _ h => by cases h)
    List.nodup_nil ?_ rfl ?_
  · intro i h _
    rw [hw] at h
    exact h
  · intro i hi
    -- the watch delivered the same state in both counters
    have hold : (WorkerPc.awaitStart slot id (some (sts, up))).upTask = some i := by
      cases up with
      | none => cases hi
      | some x => exact hi
    exact hc.up _ hpc i hold

/-- `START_FIRST`'s shutdown records only a slot whose replacement is
up. -/
theorem stopOld (hc : Core p s) {slot : Slot} {id : Nat} (hid : notUp s.store id = false) (ok : Bool) :
    Core p (s.stopOld slot id ok) := by
  obtain ⟨hp, hs, hw, hf, hr⟩ := stopOld_cases (s := s) hc.keyed slot id ok
  have hout : (s.stopOld slot id ok).outOfService.Sublist (s.outOfService ++ []) := by
    rcases hr with hr | hr
    · simpa using outOfService_sublist hf [] (by simpa using hr)
    · have h := outOfService_sublist hf _ hr
      rwa [List.filter_singleton, hf.up id hid, cond_false] at h
  refine hc.next ⟨hf, fun h => hs ▸ h, by rw [hw], fun sl h => hp ▸ h⟩ [] hout (fun _ h => by cases h)
    List.nodup_nil ?_ (by rw [hw]; exact hc.noExisting) ?_
  · intro v i h _
    rw [hw]
    exact h
  · intro pc hm i hi
    rw [hw] at hm
    exact hf.up i (hc.up pc hm i hi)

/-- Worker `w` saw its task at or past `RUNNING`: that task is up, so
the worker can leave its watch. -/
theorem observe (hc : Core p s) {w : Nat} {slot : Slot} {id : Nat} {sts : Bool} {x : TaskState}
    (hw : s.workers[w]? = some (.awaitRunning slot id sts (some x))) (ok : Bool) :
    Core p ((s.stopOld slot id ok).afterSlot p w) ∧ Core p (s.afterSlot p w) := by
  have hid : notUp s.store id = false := hc.up _ (List.mem_of_getElem? hw) id rfl
  have hold : ∀ i : Nat, (s.workers[w]?).bind WorkerPc.watched = some i → notUp s.store i = false := by
    intro i h
    rw [hw] at h
    cases h
    exact hid
  obtain ⟨-, -, hws, hf, -⟩ := stopOld_cases (s := s) hc.keyed slot id ok
  refine ⟨(hc.stopOld hid ok).setWorker w ?_ (afterPc_inUseExisting p) (afterPc_upTask p),
    hc.setWorker w hold (afterPc_inUseExisting p) (afterPc_upTask p)⟩
  intro i h
  rw [hws] at h
  exact hf.up i (hold i h)


/-- A status report: the watches stay, and a watch that now holds a
state at or past `RUNNING` holds the reported one, which the store
now has. -/
theorem report (hc : Core p s) {i : Nat} {x : TaskState} {t : Task} {store : Store}
    (ht : s.store.getTask i = some t) (hlt : t.state.rank < x.rank)
    (hupd : s.store.updateTask { t with state := x } = .ok store) :
    Core p { s with store, workers := s.workers.map (State.watchReport i x) } := by
  have hf := report_forward hc.keyed ht hlt hupd
  refine hc.next ⟨hf, id, List.length_map _, fun _ h => h⟩ [] (outOfService_sublist hf [] (by simp))
    (fun _ h => by cases h) List.nodup_nil ?_ ?_ ?_
  · intro v id h _
    simpa [List.getElem?_map, Option.bind_map] using h
  · intro pc hm
    obtain ⟨pc₀, hm₀, rfl⟩ := List.mem_map.mp hm
    rw [watchReport_inUseExisting]
    exact hc.noExisting pc₀ hm₀
  · intro pc hm j hj
    obtain ⟨pc₀, hm₀, rfl⟩ := List.mem_map.mp hm
    rcases watchReport_upTask i x pc₀ hj with hj | ⟨rfl, hrun⟩
    · exact hf.up j (hc.up pc₀ hm₀ j hj)
    · -- the store holds the reported state under the task's ID
      have hid : t.id = j := hc.keyed j t ht
      refine notUp_eq_false.mpr ⟨{ t with state := x }, ?_, hrun⟩
      rw [Store.updateTask_tasks hupd, Store.getTask, ← hid]
      exact AList.lookup_insert _


end Core

/-- Every step that leaves `stopChan` open keeps `Core`. -/
theorem core_step {s s' : State} (hc : Core p s) {a : Act} (h : step p a s = some s')
    (hs' : s'.stopped = false) : Core p s' := by
  cases a with
  | hand w now ok =>
    simp only [step] at h
    split at h
    · rename_i slot rest hpending hw
      cases h
      exact hc.hand hpending hw now ok
    · cases h
  | stop =>
    cases h
    cases hs'
  | abort =>
    simp only [step] at h
    split at h
    · rename_i hstop
      cases h
      simp [hstop] at hs'
    · cases h
  | failureAction =>
    simp only [step] at h
    split at h
    · cases h
      exact hc.failureAction
    · cases h
  | exit w =>
    simp only [step] at h
    split at h
    · rename_i hexit
      cases h
      refine hc.setWorker w ?_ rfl rfl
      intro i hi
      rw [hexit.2] at hi
      cases hi
    · cases h
  | fire i timer ok =>
    simp only [step] at h
    split at h
    · rename_i d _
      split at h
      · cases h
        exact hc.fire d ok _
      · cases h
    · cases h
  | started w =>
    simp only [step] at h
    split at h
    · rename_i slot id watch hw
      split at h
      · cases h
      · split at h
        · -- `useExistingTask`'s wait: no worker of such a run is in it
          have hpc := hc.noExisting _ (List.mem_of_getElem? hw)
          simp_all [WorkerPc.inUseExisting]
        · cases h
          exact hc.started hw
    · cases h
  | observe w ok =>
    simp only [step] at h
    split at h
    · rename_i slot id sts x hw
      split at h
      · cases h
        exact (hc.observe hw ok).1
      · cases h
        exact (hc.observe hw ok).2
    · cases h
  | wake w =>
    simp only [step] at h
    split at h
    · rename_i hpause
      cases h
      refine hc.setWorker w ?_ rfl rfl
      intro i hi
      rw [hpause] at hi
      cases hi
    · cases h
  | interrupt w =>
    simp only [step] at h
    split at h
    · rename_i hstop
      -- every branch keeps `stopChan` closed
      split at h
      · cases h
        simp [State.afterSlot_eq, hstop] at hs'
      · cases h
        simp [State.afterSlot_eq, hstop] at hs'
      · cases h
        simp [hstop] at hs'
      · cases h
    · cases h
  | report i x =>
    simp only [step] at h
    split at h
    · rename_i t ht
      split at h
      · rename_i hlt
        split at h
        · rename_i store hupd
          cases h
          exact hc.report ht hlt hupd
        · cases h
      · cases h
    · cases h

/-- What `start` sets up: the dirty slots, idle workers, nothing
recorded, `stopChan` open. -/
theorem start_eq {st : Store} {slots : List Slot} {s₀ : State} (h : start p st slots = some s₀) :
    s₀.store = st ∧ s₀.pending = slots.filter (isSlotDirty p.isTaskDirty) ∧ s₀.stopped = false ∧
      s₀.removed = [] ∧ ∃ n, s₀.workers = List.replicate n .receive ∧
        (0 < p.updateConfig.parallelism → n = p.updateConfig.parallelism) := by
  unfold start at h
  by_cases hpaused : p.updateStatus = some .paused ∨ p.updateStatus = some .rollbackPaused
  · rw [if_pos hpaused] at h
    cases h
  · rw [if_neg hpaused] at h
    dsimp only at h
    by_cases hclean : slots.filter (isSlotDirty p.isTaskDirty) = []
    · rw [if_pos hclean] at h
      cases h
    · rw [if_neg hclean] at h
      cases h
      refine ⟨rfl, rfl, rfl, rfl, _, rfl, fun hpar => ?_⟩
      rw [if_neg (Nat.pos_iff_ne_zero.mp hpar)]

theorem core_start {st : Store} {slots : List Slot} {s₀ : State} (hk : Keyed st.tasks)
    (hdirty : ∀ slot ∈ slots, ∀ t ∈ slot, p.isTaskDirty t = true) (h : start p st slots = some s₀) :
    Core p s₀ := by
  obtain ⟨hst, hpend, -, hrem, n, hws, -⟩ := start_eq h
  have hout : s₀.outOfService = [] := by
    rw [State.outOfService, hrem]
    rfl
  refine ⟨hst ▸ hk, ?_, ?_, ?_, ?_, ?_, ?_⟩
  · intro slot hm
    rw [hpend] at hm
    exact hdirty slot (List.mem_filter.mp hm).1
  · intro pc hm
    rw [hws] at hm
    rw [List.eq_of_mem_replicate hm]
    rfl
  · intro e he
    rw [hout] at he
    cases he
  · rw [hout]
    exact List.nodup_nil
  · intro e he
    rw [hout] at he
    cases he
  · intro pc hm id hid
    rw [hws, List.eq_of_mem_replicate hm] at *
    cases hid

/-- The slots out of service are at most as many as the workers: each
has a worker watching its replacement, and the replacements differ. -/
theorem Core.outOfService_length_le {s : State} (hc : Core p s) :
    s.outOfService.length ≤ s.workers.length := by
  have hsub : s.outOfService.map (·.2) ⊆ s.workers.filterMap WorkerPc.watched := by
    intro r hr
    obtain ⟨e, he, rfl⟩ := List.mem_map.mp hr
    obtain ⟨v, hv⟩ := hc.watched e he
    obtain ⟨pc, hpc, hw⟩ := Option.bind_eq_some_iff.mp hv
    exact List.mem_filterMap.mpr ⟨pc, List.mem_of_getElem? hpc, hw⟩
  calc s.outOfService.length = (s.outOfService.map (·.2)).length := (List.length_map _).symm
    _ ≤ (s.workers.filterMap WorkerPc.watched).length := (List.Nodup.subperm hc.nodup hsub).length_le
    _ ≤ s.workers.length := List.length_filterMap_le _ _

/-- An update whose slots hold only dirty tasks respects its
parallelism: in every state of the run before `stopChan` is closed, at
most `Parallelism` slots have an old task shut down and a replacement
that is not up. -/
theorem parallelism_respected (p : Params) (st : Store) (slots : List Slot) (s₀ s : State)
    (hk : Keyed st.tasks) (hdirty : ∀ slot ∈ slots, ∀ t ∈ slot, p.isTaskDirty t = true)
    (hpar : 0 < p.updateConfig.parallelism) (hstart : start p st slots = some s₀)
    (hreach : Lts.Reachable (step p) s₀ s) (hstop : s.stopped = false) :
    s.outOfService.length ≤ p.updateConfig.parallelism := by
  obtain ⟨hst, -, -, -, n, hws, hn⟩ := start_eq hstart
  -- the store stays keyed and the workers as many along the whole run;
  -- `Core` holds as long as `stopChan` is open
  have hind : Lts.Inductive (step p) s₀ fun s => Keyed s.store.tasks ∧
      s.workers.length = p.updateConfig.parallelism ∧ (s.stopped = false → Core p s) := by
    refine ⟨⟨hst ▸ hk, by rw [hws, List.length_replicate, hn hpar], fun _ => core_start hk hdirty hstart⟩, ?_⟩
    intro a s s' hs h
    obtain ⟨hks, hlen, hc⟩ := hs
    have hf := step_frame hks h
    refine ⟨hf.forward.keyed, hf.workers.trans hlen, fun hs' => core_step (hc ?_) h hs'⟩
    cases hstopped : s.stopped
    · rfl
    · rw [hf.stopped hstopped] at hs'
      cases hs'
  obtain ⟨-, hlen, hc⟩ := hind.reachable hreach
  exact hlen ▸ (hc hstop).outOfService_length_le

-- ============================ runs

/-- A replicated service updated to spec version 2. -/
def webV2 : Service := ⟨1, .replicated 2, none, some 2, 0⟩

/-- A task of the service with the given spec version. -/
def webTask (id slot version : Nat) (desired st : TaskState) : Task :=
  ⟨id, 1, slot, 0, desired, st, none, none, none, some version, none, none⟩

/-- The update of `webV2` in the given order, one slot at a time, with
no delay; a task of another spec version is dirty. -/
def webUpdate (order : UpdateOrder) : Params :=
  ⟨webV2, some .updating, some ⟨1, 0, .pause, order⟩, none, fun t => t.specVersion != some 2⟩

/-- Two slots, each running a task of version 1. -/
def oldSlots : List Slot :=
  [[webTask 1 1 1 .running .running], [webTask 2 2 1 .running .running]]

def oldStore : Store :=
  ⟨((∅ : Table Task).insert 1 (webTask 1 1 1 .running .running)).insert 2 (webTask 2 2 1 .running .running),
    ∅, (∅ : Table Service).insert 1 webV2, 3⟩

theorem oldStore_keyed : Keyed oldStore.tasks := by
  unfold oldStore
  exact Keyed.insert (Keyed.insert (fun k x h => by rw [AList.lookup_empty] at h; cases h)
    (webTask 1 1 1 .running .running)) (webTask 2 2 1 .running .running)

/-- After the worker took the first slot, one slot is down. -/
theorem one_slot_down :
    ∃ s₀ s, start (webUpdate .stopFirst) oldStore oldSlots = some s₀ ∧
      Lts.run (step (webUpdate .stopFirst)) s₀ [.hand 0 0 true] = some s ∧
      s.outOfService.length ≤ (webUpdate .stopFirst).updateConfig.parallelism := by
  refine ⟨_, _, rfl, rfl, ?_⟩
  exact parallelism_respected (webUpdate .stopFirst) oldStore oldSlots _ _ oldStore_keyed
    (by decide) (by decide) rfl (Lts.reachable_of_run (l := [.hand 0 0 true]) rfl) rfl

/-- Two slots in the middle of a `START_FIRST` update, as a new leader
finds them: the old leader created and started a task of version 2 in
each, which is not running yet, and the old task still runs. -/
def midUpdateSlots : List Slot :=
  [[webTask 1 1 1 .running .running, webTask 3 1 2 .running .assigned],
    [webTask 2 2 1 .running .running, webTask 4 2 2 .running .assigned]]

def midUpdateStore : Store :=
  ⟨((((∅ : Table Task).insert 1 (webTask 1 1 1 .running .running)).insert 3
      (webTask 3 1 2 .running .assigned)).insert 2 (webTask 2 2 1 .running .running)).insert 4
      (webTask 4 2 2 .running .assigned),
    ∅, (∅ : Table Service).insert 1 webV2, 5⟩

/-- The new leader's updater, with parallelism one, keeps the version-2
task of each slot and shuts both old tasks down in two batches of one
worker, without waiting for either replacement: both slots are out of
service at once, and the old task went down before its replacement
ran. -/
theorem existing_task_breaks_parallelism :
    ∃ s₀ s, start (webUpdate .startFirst) midUpdateStore midUpdateSlots = some s₀ ∧
      s₀.workers.length = 1 ∧
      Lts.run (step (webUpdate .startFirst)) s₀ [.hand 0 0 true, .hand 0 0 true] = some s ∧
      s.outOfService.map (·.2) = [3, 4] ∧
      (s.store.getTask 1).map (·.desiredState) = some .shutdown ∧
      (s.store.getTask 3).map (·.state) = some .assigned := by
  refine ⟨_, _, rfl, rfl, rfl, ?_⟩
  decide

end SwarmKit.Orchestrator.Update

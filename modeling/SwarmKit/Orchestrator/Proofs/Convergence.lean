import SwarmKit.Orchestrator.Replicated

/-
A failed task that the replicated orchestrator forgot (`Replicated.lean`).

# Writers

Every writer of the task table is confined to some keys: `Restart` to
the task it restarts (and the fresh ID of the replacement), `tickTasks`
to the tasks of `restartTasks`, a reconcile to the tasks of its service
(`reconcile_confined`). Only a reconcile deletes tasks, and only those
of its service.

# The forgotten task

The orchestrator touches a task that is desired running only through
`restartTasks` and through a reconcile of its service, and each enters
those maps only on an event that names it: its own task event, an event
of its node, of its service, or the deletion of a task of its service.
`Forgotten t` says that none of these is pending. Every step that does
not change `t`'s node or service keeps it (`forgotten_step`), commits
that fail included; so a task that is `FAILED` with desired state
`RUNNING` when it is forgotten stays so forever, and its slot never
holds a running task again.

# How it is forgotten

`handleTaskChange` puts a failed task into `restartTasks`; `tickTasks`
restarts it in a batch and empties the map even when the batch is
refused. Nothing else was pending, so the task is forgotten
(`failed_restart_never_retried`).
-/

namespace SwarmKit.Orchestrator.Replicated

open SwarmKit.Scheduler (TaskState)
open SwarmKit.Scheduler.Fit (Node)

-- ===================== task tables

/-- Every task is stored under its own ID. -/
def Keyed (ts : Table Task) : Prop := ∀ k x, ts.lookup k = some x → x.id = k

/-- Every task under a key outside `K` is left as it was. -/
def Frame (K : Nat → Prop) (old new : Table Task) : Prop :=
  ∀ k, ¬ K k → ∀ x, old.lookup k = some x → new.lookup k = some x

/-- No task leaves the table. -/
def NoLoss (old new : Table Task) : Prop :=
  ∀ k x, old.lookup k = some x → ∃ y, new.lookup k = some y

variable {K K' : Nat → Prop} {ts ts₁ ts₂ ts₃ : Table Task}

namespace Keyed

theorem insert (h : Keyed ts) (x : Task) : Keyed (ts.insert x.id x) := by
  intro k y hy
  rcases AList.lookup_insert_eq_some hy with ⟨rfl, rfl⟩ | ⟨-, hy⟩
  · rfl
  · exact h k y hy

theorem erase (h : Keyed ts) (id : Nat) : Keyed (ts.erase id) :=
  fun k y hy => h k y (AList.lookup_erase_eq_some hy).2

/-- A task of the table is found under its ID. -/
theorem lookup_of_mem (h : Keyed ts) {x : Task} (hx : x ∈ ts.entries.map (·.2)) :
    ts.lookup x.id = some x := by
  obtain ⟨⟨k, y⟩, hmem, rfl⟩ := List.mem_map.mp hx
  have hk : ts.lookup k = some y := AList.mem_lookup_iff.mpr hmem
  rw [h k y hk]
  exact hk

end Keyed

namespace Frame

theorem refl (K : Nat → Prop) (ts : Table Task) : Frame K ts ts := fun _ _ _ h => h

theorem trans (h₁ : Frame K ts₁ ts₂) (h₂ : Frame K ts₂ ts₃) : Frame K ts₁ ts₃ :=
  fun k hk x hx => h₂ k hk x (h₁ k hk x hx)

theorem mono (h : Frame K ts₁ ts₂) (hK : ∀ k, K k → K' k) : Frame K' ts₁ ts₂ :=
  fun k hk x hx => h k (fun h' => hk (hK k h')) x hx

theorem insert (ts : Table Task) {k₀ : Nat} (hk : K k₀) (y : Task) : Frame K ts (ts.insert k₀ y) := by
  intro k hk' x hx
  have hne : k ≠ k₀ := fun h => hk' (h ▸ hk)
  rw [AList.lookup_insert_ne hne]
  exact hx

/-- Writing a key that was empty changes no task. -/
theorem insert_new (ts : Table Task) {k₀ : Nat} (hk : k₀ ∉ ts) (y : Task) :
    Frame K ts (ts.insert k₀ y) := by
  intro k _ x hx
  have hne : k ≠ k₀ := by
    rintro rfl
    exact hk (AList.lookup_isSome.mp (by rw [hx]; rfl))
  rw [AList.lookup_insert_ne hne]
  exact hx

theorem erase (ts : Table Task) {k₀ : Nat} (hk : K k₀) : Frame K ts (ts.erase k₀) := by
  intro k hk' x hx
  have hne : k ≠ k₀ := fun h => hk' (h ▸ hk)
  rw [AList.lookup_erase_ne hne]
  exact hx

/-- A task that left the table was under a key of `K`. -/
theorem of_lost (h : Frame K ts₁ ts₂) {k : Nat} {x : Task} (hx : ts₁.lookup k = some x)
    (hk : ts₂.lookup k = none) : K k := by
  by_contra hK
  rw [h k hK x hx] at hk
  cases hk

end Frame

namespace NoLoss

theorem refl (ts : Table Task) : NoLoss ts ts := fun _ x h => ⟨x, h⟩

theorem trans (h₁ : NoLoss ts₁ ts₂) (h₂ : NoLoss ts₂ ts₃) : NoLoss ts₁ ts₃ := by
  intro k x hx
  obtain ⟨y, hy⟩ := h₁ k x hx
  exact h₂ k y hy

theorem insert (ts : Table Task) (k₀ : Nat) (y : Task) : NoLoss ts (ts.insert k₀ y) := by
  intro k x hx
  by_cases hk : k = k₀
  · subst hk
    exact ⟨y, AList.lookup_insert _⟩
  · exact ⟨x, by rw [AList.lookup_insert_ne hk]; exact hx⟩

end NoLoss

/-- A writer of tasks alone that changes and deletes tasks only under
the keys `K`, and keeps every task under its ID. -/
structure Confined (K : Nat → Prop) (old new : Store) : Prop where
  frame : Frame K old.tasks new.tasks
  keyed : Keyed old.tasks → Keyed new.tasks
  services : new.services = old.services
  nodes : new.nodes = old.nodes

/-- A confined writer that deletes nothing. -/
structure Grows (K : Nat → Prop) (old new : Store) : Prop extends Confined K old new where
  noLoss : NoLoss old.tasks new.tasks

variable {st st' st₁ st₂ st₃ : Store}

namespace Confined

theorem refl (K : Nat → Prop) (st : Store) : Confined K st st :=
  ⟨Frame.refl K _, id, rfl, rfl⟩

theorem trans (h₁ : Confined K st₁ st₂) (h₂ : Confined K st₂ st₃) : Confined K st₁ st₃ :=
  ⟨h₁.frame.trans h₂.frame, h₂.keyed ∘ h₁.keyed, h₂.services.trans h₁.services,
    h₂.nodes.trans h₁.nodes⟩

/-- Deleting a task under a key of `K`. -/
theorem erase (st : Store) {k : Nat} (hk : K k) :
    Confined K st { st with tasks := st.tasks.erase k } :=
  ⟨Frame.erase _ hk, fun h => h.erase k, rfl, rfl⟩

end Confined

namespace Grows

theorem refl (K : Nat → Prop) (st : Store) : Grows K st st :=
  ⟨Confined.refl K st, NoLoss.refl _⟩

theorem trans (h₁ : Grows K st₁ st₂) (h₂ : Grows K st₂ st₃) : Grows K st₁ st₃ :=
  ⟨h₁.toConfined.trans h₂.toConfined, h₁.noLoss.trans h₂.noLoss⟩

theorem mono (h : Grows K st₁ st₂) (hK : ∀ k, K k → K' k) : Grows K' st₁ st₂ :=
  ⟨⟨h.frame.mono hK, h.keyed, h.services, h.nodes⟩, h.noLoss⟩

/-- Writing a task under its ID, a key of `K`. -/
theorem insert (st : Store) (y : Task) (hk : K y.id) :
    Grows K st { st with tasks := st.tasks.insert y.id y } :=
  ⟨⟨Frame.insert _ hk y, fun h => h.insert y, rfl, rfl⟩, NoLoss.insert _ _ y⟩

/-- `identity.NewID()` writes nothing. -/
theorem newID (K : Nat → Prop) (st : Store) : Grows K st st.newID.2 :=
  ⟨⟨Frame.refl K _, id, rfl, rfl⟩, NoLoss.refl _⟩

end Grows

-- ========================= writers

/-- `CreateTask` writes a fresh key. -/
theorem Grows.createTask {y : Task} (h : st.createTask y = .ok st') : Grows K st st' := by
  obtain ⟨hfresh, rfl⟩ := Store.createTask_tasks h
  exact ⟨⟨Frame.insert_new _ hfresh y, fun h => h.insert y, rfl, rfl⟩, NoLoss.insert _ _ y⟩

/-- `UpdateTask` writes under the task's ID. -/
theorem Grows.updateTask {y : Task} (h : st.updateTask y = .ok st') (hk : K y.id) :
    Grows K st st' := by
  rw [Store.updateTask_tasks h]
  exact Grows.insert st y hk

-- ========================= Restart

/-- `shouldRestart` prunes history and queues nothing. -/
theorem shouldRestart_waiting (t : Task) (service : Service) (s : Supervisor) :
    (shouldRestart t service s).2.waiting = s.waiting := by
  unfold shouldRestart
  dsimp only
  repeat' split
  all_goals rfl

theorem recordRestartHistory_waiting (tuple : SlotTuple) (rt : Task) (now : Int) (s : Supervisor) :
    (recordRestartHistory tuple rt now s).waiting = s.waiting := by
  unfold recordRestartHistory
  dsimp only
  repeat' split
  all_goals rfl

/-- `Restart` writes the task it restarts and a fresh replacement, and
queues at most that task for `waitRestart`. -/
theorem restart_grows (service : Service) (x : Task) (now : Int) (st : Store) (s : Supervisor) :
    Grows (· = x.id) st (restart service x now st s).1.1 ∧
      ∀ i ∈ (restart service x now st s).1.2.waiting, i ∈ s.waiting ∨ i = x.id := by
  unfold restart
  split
  · -- its own start is still delayed: at most a waiter is queued
    split
    · exact ⟨Grows.refl _ _, fun i hi => .inl hi⟩
    · refine ⟨Grows.refl _ _, fun i hi => ?_⟩
      rcases List.mem_append.mp hi with hi | hi
      · exact .inl hi
      · exact .inr (List.mem_singleton.mp hi)
  · split
    · exact ⟨Grows.refl _ _, fun i hi => .inl hi⟩
    · dsimp only
      split
      · exact ⟨Grows.refl _ _, fun i hi => .inl hi⟩
      · next st₁ hupd =>
        have hshut : Grows (· = x.id) st st₁ := Grows.updateTask hupd rfl
        have hwait := shouldRestart_waiting { x with desiredState := .shutdown } service s
        rcases hsr : shouldRestart { x with desiredState := .shutdown } service s with ⟨_ | _, s'⟩
        all_goals rw [hsr] at hwait; dsimp only at hwait ⊢
        · exact ⟨hshut, fun i hi => .inl (hwait ▸ hi)⟩
        · split
          · exact ⟨hshut.trans (Grows.newID _ st₁), fun i hi => .inl (hwait ▸ hi)⟩
          · next st₃ hcreate =>
            -- the replacement goes under the ID `newID` hands out
            have hnew : Grows (· = x.id) st₁.newID.2 st₃ := Grows.createTask hcreate
            refine ⟨(hshut.trans (Grows.newID _ st₁)).trans hnew, fun i hi => .inl ?_⟩
            rw [← hwait, ← recordRestartHistory_waiting _ _ now s']
            exact hi

-- ======================= tickTasks

/-- One update of `tickTasks` writes only the task it was given. -/
theorem restartUpdate_grows (now : Int) (id : Nat) (st : Store) (s : Supervisor)
    (hk : Keyed st.tasks) :
    Grows (· = id) st (restartUpdate now id st s).1.1 ∧
      ∀ i ∈ (restartUpdate now id st s).1.2.waiting, i ∈ s.waiting ∨ i = id := by
  unfold restartUpdate
  split
  · exact ⟨Grows.refl _ _, fun i hi => .inl hi⟩
  · next x hx =>
    -- the task found under `id` is stored under its own ID
    have hid : x.id = id := hk id x hx
    split
    · exact ⟨Grows.refl _ _, fun i hi => .inl hi⟩
    · split
      · split
        · exact hid ▸ restart_grows _ x now st s
        · exact ⟨Grows.refl _ _, fun i hi => .inl hi⟩
      · exact ⟨Grows.refl _ _, fun i hi => .inl hi⟩

/-- `tickTasks`' batch writes only the tasks it restarts, and queues only
those for `waitRestart`. -/
theorem restartAll_grows (now : Int) (ids : List Nat) (st : Store) (s : Supervisor)
    (hk : Keyed st.tasks) :
    Grows (· ∈ ids) st (restartAll now ids st s).1 ∧
      ∀ i ∈ (restartAll now ids st s).2.waiting, i ∈ s.waiting ∨ i ∈ ids := by
  induction ids generalizing st s with
  | nil => exact ⟨Grows.refl _ _, fun i hi => .inl hi⟩
  | cons id ids ih =>
      obtain ⟨hg, hw⟩ := restartUpdate_grows now id st s hk
      obtain ⟨hg', hw'⟩ := ih (restartUpdate now id st s).1.1 (restartUpdate now id st s).1.2
        (hg.keyed hk)
      refine ⟨(hg.mono fun k hk => ?_).trans (hg'.mono fun k hk => ?_), fun i hi => ?_⟩
      · exact List.mem_cons.mpr (.inl hk)
      · exact List.mem_cons_of_mem id hk
      · rcases hw' i hi with hi | hi
        · rcases hw i hi with hi | rfl
          · exact .inl hi
          · exact .inr List.mem_cons_self
        · exact .inr (List.mem_cons_of_mem id hi)

-- ======================= reconcile

/-- The tasks of a service: a reconcile writes only under their keys. -/
def OfService (st : Store) (serviceID : Nat) (k : Nat) : Prop :=
  ∃ x, st.tasks.lookup k = some x ∧ x.serviceID = serviceID

theorem mem_findTasksByService {x : Task} {id : Nat} (hk : Keyed st.tasks)
    (hx : x ∈ st.findTasksByService id) : OfService st id x.id := by
  obtain ⟨hmem, hsvc⟩ := List.mem_filter.mp hx
  exact ⟨x, hk.lookup_of_mem hmem, of_decide_eq_true hsvc⟩

theorem newestTask_mem (t : Task) (ts : List Task) : newestTask t ts ∈ t :: ts := by
  induction ts generalizing t with
  | nil => exact List.mem_singleton.mpr rfl
  | cons u ts ih =>
      unfold newestTask
      split
      · exact List.mem_cons_of_mem t (ih u)
      · rcases List.mem_cons.mp (ih t) with h | h
        · rw [h]
          exact List.mem_cons_self
        · exact List.mem_cons_of_mem t (List.mem_cons_of_mem u h)

/-- `UpdatableTasksInSlot` picks tasks of the slot, and queues nothing. -/
theorem updatableTasksInSlot_mem (slot : List Task) (service : Service) (s : Supervisor) :
    (∀ x ∈ (updatableTasksInSlot slot service s).1, x ∈ slot) ∧
      (updatableTasksInSlot slot service s).2.waiting = s.waiting := by
  unfold updatableTasksInSlot
  split
  · exact ⟨fun x hx => (by cases hx), rfl⟩
  · next t ts =>
    dsimp only
    split
    · exact ⟨fun x hx => (List.mem_filter.mp hx).1, rfl⟩
    · have hwait := shouldRestart_waiting (newestTask t ts) service s
      rcases hsr : shouldRestart (newestTask t ts) service s with ⟨_ | _, s'⟩
      all_goals rw [hsr] at hwait; dsimp only
      · refine ⟨fun x hx => ?_, hwait⟩
        rw [List.mem_singleton.mp hx]
        exact newestTask_mem t ts
      · exact ⟨fun x hx => (by cases hx), hwait⟩

/-- Every slot `updatableAndDeadSlots` returns holds tasks it was given,
and it queues nothing. -/
theorem sortSlots_mem (service : Service) (tasks : List Task) (ns : List Nat) (s : Supervisor) :
    (∀ sl ∈ (sortSlots service tasks ns s).1.1 ++ (sortSlots service tasks ns s).1.2,
        ∀ x ∈ sl.2, x ∈ tasks) ∧
      (sortSlots service tasks ns s).2.waiting = s.waiting := by
  induction ns generalizing s with
  | nil => exact ⟨fun sl hsl => (by simp [sortSlots] at hsl), rfl⟩
  | cons n ns ih =>
      obtain ⟨hu, hwu⟩ := updatableTasksInSlot_mem (tasks.filter (·.slot = n)) service s
      obtain ⟨hrest, hwr⟩ := ih (updatableTasksInSlot (tasks.filter (·.slot = n)) service s).2
      have hslot : ∀ x ∈ tasks.filter (·.slot = n), x ∈ tasks := fun x hx => (List.mem_filter.mp hx).1
      unfold sortSlots
      dsimp only
      split
      · refine ⟨fun sl hsl x hx => ?_, hwr.trans hwu⟩
        rcases List.mem_append.mp hsl with hsl | hsl
        · exact hrest sl (List.mem_append_left _ hsl) x hx
        · rcases List.mem_cons.mp hsl with rfl | hsl
          · exact hslot x hx
          · exact hrest sl (List.mem_append_right _ hsl) x hx
      · refine ⟨fun sl hsl x hx => ?_, hwr.trans hwu⟩
        rcases List.mem_append.mp hsl with hsl | hsl
        · rcases List.mem_cons.mp hsl with rfl | hsl
          · exact hslot x (hu x hx)
          · exact hrest sl (List.mem_append_left _ hsl) x hx
        · exact hrest sl (List.mem_append_right _ hsl) x hx

theorem slotIndices_fst (counts : Nat → Nat) (slots : List Slot) :
    (slotIndices counts slots).map (·.1) = slots := by
  induction slots generalizing counts with
  | nil => rfl
  | cons sl rest ih =>
      unfold slotIndices
      split
      · split
        · exact congrArg (sl :: ·) (ih _)
        · exact congrArg (sl :: ·) (ih _)
      · exact congrArg (sl :: ·) (ih _)

/-- The scale-down order reorders the slots it is given. -/
theorem mem_sortForRemoval {sl : Slot} {slots : List Slot} (h : sl ∈ sortForRemoval slots) :
    sl ∈ slots := by
  unfold sortForRemoval at h
  obtain ⟨e, he, rfl⟩ := List.mem_map.mp h
  have hfst : e.1 ∈ (slotIndices (fun _ => 0) (slots.mergeSort _)).map (·.1) :=
    List.mem_map_of_mem (List.mem_mergeSort.mp he)
  rw [slotIndices_fst] at hfst
  exact List.mem_mergeSort.mp hfst

/-- `deleteTasksMap` deletes under the tasks' IDs. -/
theorem deleteTasks_confined {ts : List Task} (hts : ∀ x ∈ ts, K x.id) (st : Store) :
    Confined K st (deleteTasks ts st) := by
  induction ts generalizing st with
  | nil => exact Confined.refl K st
  | cons x ts ih =>
      exact (Confined.erase st (hts x List.mem_cons_self)).trans
        (ih (fun y hy => hts y (List.mem_cons_of_mem x hy)) _)

/-- `setTasksDesiredState` writes under the tasks' IDs. -/
theorem setTasksDesiredState_grows (state : TaskState) {ts : List Task} (hts : ∀ x ∈ ts, K x.id)
    (st : Store) : Grows K st (setTasksDesiredState state ts st) := by
  induction ts generalizing st with
  | nil => exact Grows.refl K st
  | cons x ts ih =>
      have hrest := ih (fun y hy => hts y (List.mem_cons_of_mem x hy))
      unfold setTasksDesiredState at hrest ⊢
      rw [List.foldl_cons]
      split
      · exact hrest st
      · split
        · next st' hupd =>
          exact (Grows.updateTask hupd (hts x List.mem_cons_self)).trans (hrest st')
        · exact hrest st

/-- `addTasks` creates tasks under fresh IDs, and keeps dead slots it was
given. -/
theorem addTasks_grows (service : Service) (now : Int) (running : List Nat) (count slot : Nat)
    (dead : List Slot) (st : Store) :
    Grows K st (addTasks service now running count slot dead st).2 ∧
      ∀ sl ∈ (addTasks service now running count slot dead st).1, sl ∈ dead := by
  induction count generalizing slot dead st with
  | zero => exact ⟨Grows.refl K st, fun sl h => h⟩
  | succ count ih =>
      unfold addTasks
      dsimp only
      split
      · next st' hcreate =>
        obtain ⟨hg, hd⟩ := ih (nextSlot running running.length slot)
          (dead.filter (·.1 ≠ nextSlot running running.length slot)) st'
        exact ⟨((Grows.newID K st).trans (Grows.createTask hcreate)).trans hg,
          fun sl h => (List.mem_filter.mp (hd sl h)).1⟩
      · obtain ⟨hg, hd⟩ := ih (nextSlot running running.length slot)
          (dead.filter (·.1 ≠ nextSlot running running.length slot)) st.newID.2
        exact ⟨(Grows.newID K st).trans hg, fun sl h => (List.mem_filter.mp (hd sl h)).1⟩

/-- Every task in the slots of `updatableAndDeadSlots` is a task of the
service, and the supervisor queues nothing. -/
theorem updatableAndDeadSlots_mem (service : Service) (st : Store) (s : Supervisor)
    (hk : Keyed st.tasks) :
    (∀ sl ∈ (updatableAndDeadSlots service st s).1.1 ++ (updatableAndDeadSlots service st s).1.2,
        ∀ x ∈ sl.2, OfService st service.id x.id) ∧
      (updatableAndDeadSlots service st s).2.waiting = s.waiting := by
  obtain ⟨hmem, hwait⟩ := sortSlots_mem service (st.findTasksByService service.id)
    ((st.findTasksByService service.id).map (·.slot)).dedup s
  exact ⟨fun sl hsl x hx => mem_findTasksByService hk (hmem sl hsl x hx), hwait⟩

/-- A reconcile writes, and deletes, only tasks of its service, in one
batch. -/
theorem reconcile_confined (ok : Bool) (now : Int) (service : Service) (w : World)
    (hk : Keyed w.store.tasks) :
    reconcile ok now service w = { w with sup := (updatableAndDeadSlots service w.store w.sup).2 } ∨
      ∃ st, Confined (OfService w.store service.id) w.store st ∧
        reconcile ok now service w =
          { w with sup := (updatableAndDeadSlots service w.store w.sup).2 }.commit ok st := by
  obtain ⟨hmem, -⟩ := updatableAndDeadSlots_mem service w.store w.sup hk
  unfold reconcile reconcileBy
  rcases hslots : updatableAndDeadSlots service w.store w.sup with ⟨⟨running, dead⟩, s⟩
  rw [hslots] at hmem
  have hrun : ∀ sl ∈ running, ∀ x ∈ sl.2, OfService w.store service.id x.id :=
    fun sl hsl => hmem sl (List.mem_append_left _ hsl)
  have hdead : ∀ sl ∈ dead, ∀ x ∈ sl.2, OfService w.store service.id x.id :=
    fun sl hsl => hmem sl (List.mem_append_right _ hsl)
  -- the tasks of a list of slots
  have hflat : ∀ {l : List Slot}, (∀ sl ∈ l, ∀ x ∈ sl.2, OfService w.store service.id x.id) →
      ∀ x ∈ l.flatMap (·.2), OfService w.store service.id x.id := by
    intro l hl x hx
    obtain ⟨sl, hsl, hx⟩ := List.mem_flatMap.mp hx
    exact hl sl hsl x hx
  dsimp only
  split
  · next specified _ =>
    right
    split
    · -- scale up: new tasks, and the dead slots not taken over are deleted
      obtain ⟨hadd, hkept⟩ := addTasks_grows (K := OfService w.store service.id) service now
        (running.map (·.1)) (specified - running.length) 0 dead w.store
      exact ⟨_, hadd.toConfined.trans (deleteTasks_confined
        (hflat fun sl hsl => hdead sl (hkept sl hsl)) _), rfl⟩
    · split
      · -- scale down: dead slots deleted, the last slots marked for removal
        have hremove : ∀ sl ∈ (sortForRemoval running).drop specified, ∀ x ∈ sl.2,
            OfService w.store service.id x.id :=
          fun sl hsl => hrun sl (mem_sortForRemoval (List.mem_of_mem_drop hsl))
        exact ⟨_, (deleteTasks_confined (hflat hdead) _).trans
          (setTasksDesiredState_grows .remove (hflat hremove) _).toConfined, rfl⟩
      · exact ⟨_, deleteTasks_confined (hflat hdead) _, rfl⟩
  · left
    rfl

/-- `StartNow` writes only the task it starts, and only one still
desired below running. -/
theorem startNow_grows (id : Nat) (st : Store) (hk : Keyed st.tasks) :
    Grows (fun k => k = id ∧ ∀ x, st.tasks.lookup k = some x →
        x.desiredState.rank < TaskState.running.rank) st
      (match startNow id st with
        | .ok st' => st'
        | .error _ => st) := by
  unfold startNow
  cases hx : st.getTask id with
  | none => exact Grows.refl _ _
  | some x =>
      dsimp only
      by_cases hge : x.desiredState.rank ≥ TaskState.running.rank
      · rw [if_pos hge]
        exact Grows.refl _ _
      · rw [if_neg hge]
        split
        · next st' hupd =>
          refine Grows.updateTask hupd ⟨hk id x hx, fun y hy => ?_⟩
          -- the task under its own ID is the one `getTask` found
          rw [hk id x hx, show st.tasks.lookup id = some x from hx, Option.some.injEq] at hy
          subst hy
          exact Nat.lt_of_not_le hge
        · exact Grows.refl _ _

-- ============== the forgotten task

theorem mem_foldl_insert (a : Nat) (l acc : List Nat) :
    a ∈ l.foldl (fun acc id => acc.insert id) acc ↔ a ∈ acc ∨ a ∈ l := by
  induction l generalizing acc with
  | nil => simp
  | cons b l ih =>
      rw [List.foldl_cons, ih, List.mem_insert_iff, List.mem_cons]
      tauto

/-- An event whose handling leaves task `t` alone: not `t`'s own, not of
`t`'s node gone invalid, not of `t`'s service, not the deletion of a
task of `t`'s service. -/
def Harmless (t : Task) : Event → Prop
  | .createTask x | .updateTask x => x.id ≠ t.id
  | .deleteTask x => x.serviceID ≠ t.serviceID
  | .createNode n | .updateNode n => n.id ≠ t.nodeID ∨ invalidNode (some n) = false
  | .deleteNode n => n.id ≠ t.nodeID
  | .createService s | .updateService s => s.id ≠ t.serviceID
  | .commit => True

/-- Task `t` is desired running and has stopped, the store holds it, and
nothing pending in the orchestrator names it. -/
structure Forgotten (t : Task) (w : World) : Prop where
  desired : t.desiredState = .running
  stopped : TaskState.running.rank < t.state.rank
  keyed : Keyed w.store.tasks
  nodesKeyed : ∀ k n, w.store.nodes.lookup k = some n → n.id = k
  servicesKeyed : ∀ k s, w.store.services.lookup k = some s → s.id = k
  stored : w.store.tasks.lookup t.id = some t
  notRestarting : t.id ∉ w.restartTasks
  notReconciling : ∀ k s, w.reconcileServices.lookup k = some s → s.id ≠ t.serviceID
  notWaiting : t.id ∉ w.sup.waiting
  queue : ∀ ev ∈ w.queue, Harmless t ev

variable {t : Task} {w w' : World}

/-- The events of a commit that keeps `t` and deletes no task of its
service leave `t` alone. -/
theorem commitEvents_harmless {old new : Table Task} (hkeyed : Keyed new)
    (hold : old.lookup t.id = some t) (hnew : new.lookup t.id = some t)
    (hdel : ∀ k x, old.lookup k = some x → new.lookup k = none → x.serviceID ≠ t.serviceID) :
    ∀ ev ∈ commitEvents old new, Harmless t ev := by
  intro ev hev
  unfold commitEvents at hev
  dsimp only at hev
  split at hev
  · cases hev
  · rcases List.mem_append.mp hev with hev | hev
    · rcases List.mem_append.mp hev with hev | hev
      · -- a task created or changed: `t` is neither
        obtain ⟨⟨k, y⟩, hmem, hf⟩ := List.mem_filterMap.mp hev
        have hy : new.lookup k = some y := AList.mem_lookup_iff.mpr hmem
        have hid : y.id = k := hkeyed k y hy
        dsimp only at hf
        split at hf
        · next hnone =>
          cases hf
          show y.id ≠ t.id
          rintro h
          rw [hid] at h
          rw [h, hold] at hnone
          cases hnone
        · next x hx =>
          split at hf
          · cases hf
          · next hne =>
            cases hf
            show y.id ≠ t.id
            rintro h
            rw [hid] at h
            rw [h, hold, Option.some.injEq] at hx
            rw [h, hnew, Option.some.injEq] at hy
            exact hne (hx.symm.trans hy)
      · -- a task deleted: not of `t`'s service
        obtain ⟨⟨k, x⟩, hmem, hf⟩ := List.mem_filterMap.mp hev
        dsimp only at hf
        split at hf
        · cases hf
        · next hk =>
          cases hf
          exact hdel k x (AList.mem_lookup_iff.mpr hmem) (AList.lookup_eq_none.mpr hk)
    · rw [List.mem_singleton.mp hev]
      trivial

namespace Forgotten

/-- The orchestrator's memory changes without naming `t`. -/
theorem memory (hf : Forgotten t w) {rt : List Nat} {rs : Table Service} {sup : Supervisor}
    (hr : t.id ∉ rt) (hrs : ∀ k s, rs.lookup k = some s → s.id ≠ t.serviceID)
    (hw : t.id ∉ sup.waiting) :
    Forgotten t { w with restartTasks := rt, reconcileServices := rs, sup := sup } :=
  ⟨hf.desired, hf.stopped, hf.keyed, hf.nodesKeyed, hf.servicesKeyed, hf.stored, hr, hrs, hw,
    hf.queue⟩

/-- A batch confined away from `t`, which deletes no task of its service,
commits or is refused. -/
theorem commit (hf : Forgotten t w) (ok : Bool) (hc : Confined K w.store st) (ht : ¬ K t.id)
    (hdel : ∀ k x, w.store.tasks.lookup k = some x → st.tasks.lookup k = none →
      x.serviceID ≠ t.serviceID) :
    Forgotten t (w.commit ok st) := by
  unfold World.commit
  split
  · have hst : st.tasks.lookup t.id = some t := hc.frame t.id ht t hf.stored
    refine ⟨hf.desired, hf.stopped, hc.keyed hf.keyed, hc.nodes ▸ hf.nodesKeyed,
      hc.services ▸ hf.servicesKeyed, hst, hf.notRestarting, hf.notReconciling, hf.notWaiting,
      fun ev hev => ?_⟩
    rcases List.mem_append.mp hev with hev | hev
    · exact hf.queue ev hev
    · exact commitEvents_harmless (hc.keyed hf.keyed) hf.stored hst hdel ev hev
  · exact ⟨hf.desired, hf.stopped, hf.keyed, hf.nodesKeyed, hf.servicesKeyed, hf.stored,
      hf.notRestarting, hf.notReconciling, hf.notWaiting, hf.queue⟩

/-- A batch that deletes nothing. -/
theorem commit_grows (hf : Forgotten t w) (ok : Bool) (hg : Grows K w.store st) (ht : ¬ K t.id) :
    Forgotten t (w.commit ok st) := by
  refine hf.commit ok hg.toConfined ht fun k x hx hnone => ?_
  obtain ⟨y, hy⟩ := hg.noLoss k x hx
  rw [hy] at hnone
  cases hnone

-- the handlers

/-- Cancelling a delayed start forgets nothing. -/
theorem cancel (hf : Forgotten t w) (id : Nat) : Forgotten t (Replicated.cancel id w) :=
  hf.memory hf.notRestarting hf.notReconciling hf.notWaiting

/-- Queueing a service other than `t`'s for reconciliation. -/
theorem notReconciling_insert (hf : Forgotten t w) {s : Service} (hs : s.id ≠ t.serviceID) :
    ∀ k s', (w.reconcileServices.insert s.id s).lookup k = some s' → s'.id ≠ t.serviceID := by
  intro k s' hk
  rcases AList.lookup_insert_eq_some hk with ⟨-, rfl⟩ | ⟨-, hk⟩
  · exact hs
  · exact hf.notReconciling k s' hk

theorem restartTasksByNodeID (hf : Forgotten t w) {nodeID : Nat} (hn : t.nodeID ≠ nodeID) :
    Forgotten t (Replicated.restartTasksByNodeID nodeID w) := by
  unfold Replicated.restartTasksByNodeID
  dsimp only
  refine hf.memory ?_ hf.notReconciling hf.notWaiting
  rw [mem_foldl_insert]
  rintro (h | h)
  · exact hf.notRestarting h
  · obtain ⟨x, hx, hid⟩ := List.mem_map.mp h
    obtain ⟨hmem, hsel⟩ := List.mem_filter.mp hx
    -- the only task under `t`'s ID is `t`, which is on another node
    have hxt : x = t := by
      have hlook := hf.keyed.lookup_of_mem hmem
      rw [hid, hf.stored, Option.some.injEq] at hlook
      exact hlook.symm
    subst hxt
    exact hn (of_decide_eq_true hsel).1

theorem handleTaskChange (hf : Forgotten t w) {x : Task} (hx : x.id ≠ t.id) :
    Forgotten t (Replicated.handleTaskChange x w) := by
  -- the handler at most queues `x` for a restart
  have hins : Forgotten t { w with restartTasks := w.restartTasks.insert x.id } := by
    refine hf.memory ?_ hf.notReconciling hf.notWaiting
    rw [List.mem_insert_iff]
    rintro (h | h)
    · exact hx h.symm
    · exact hf.notRestarting h
  unfold Replicated.handleTaskChange
  dsimp only
  split_ifs
  all_goals first | exact hf | exact hins

theorem handleTaskEvent (hf : Forgotten t w) {ev : Event} (hev : Harmless t ev) :
    Forgotten t (Replicated.handleTaskEvent ev w) := by
  cases ev with
  | deleteNode n => exact hf.restartTasksByNodeID (Ne.symm hev)
  | createNode n | updateNode n =>
      simp only [Replicated.handleTaskEvent, Replicated.handleNodeChange]
      split
      · next hinv =>
        -- only an invalid node has its tasks restarted, and `t`'s is not one
        refine hf.restartTasksByNodeID fun h => ?_
        rcases hev with hne | hvalid
        · exact hne h.symm
        · rw [hvalid] at hinv
          cases hinv
      · exact hf
  | deleteTask x =>
      simp only [Replicated.handleTaskEvent]
      split
      · split
        · next s hs =>
          split
          · -- the service resolved is `x`'s, not `t`'s
            have hsid : s.id = x.serviceID := by
              unfold resolveService at hs
              split at hs
              · cases hs
              · exact hf.servicesKeyed _ s hs
            exact (hf.memory hf.notRestarting (hf.notReconciling_insert (hsid ▸ hev))
              hf.notWaiting).cancel x.id
          · exact hf
        · exact hf
      · exact hf.cancel x.id
  | updateTask x | createTask x => exact hf.handleTaskChange hev
  | createService s | updateService s | commit => exact hf

theorem handleServiceEvent (hf : Forgotten t w) {ev : Event} (hev : Harmless t ev) :
    Forgotten t (Replicated.handleServiceEvent ev w) := by
  cases ev with
  | createService s | updateService s =>
      simp only [Replicated.handleServiceEvent]
      split
      · exact hf.memory hf.notRestarting (hf.notReconciling_insert hev) hf.notWaiting
      · exact hf
  | _ => exact hf

-- the ticks

theorem tickTasks (hf : Forgotten t w) (ok : Bool) (now : Int) :
    Forgotten t (Replicated.tickTasks ok now w) := by
  unfold Replicated.tickTasks
  split
  · exact hf
  · obtain ⟨hg, hw⟩ := restartAll_grows now w.restartTasks w.store w.sup hf.keyed
    rcases hr : restartAll now w.restartTasks w.store w.sup with ⟨st, s⟩
    rw [hr] at hg hw
    dsimp only
    -- the batch restarts, and queues for `waitRestart`, only tasks of the map
    have hs : t.id ∉ s.waiting := fun h => (hw t.id h).elim hf.notWaiting hf.notRestarting
    have hc := (hf.memory hf.notRestarting hf.notReconciling hs).commit_grows ok hg hf.notRestarting
    exact hc.memory List.not_mem_nil hc.notReconciling hc.notWaiting

theorem reconcile (hf : Forgotten t w) (ok : Bool) (now : Int) {service : Service}
    (hs : service.id ≠ t.serviceID) : Forgotten t (Replicated.reconcile ok now service w) := by
  obtain ⟨-, hwait⟩ := updatableAndDeadSlots_mem service w.store w.sup hf.keyed
  have h1 : Forgotten t { w with sup := (updatableAndDeadSlots service w.store w.sup).2 } :=
    hf.memory hf.notRestarting hf.notReconciling (hwait ▸ hf.notWaiting)
  rcases reconcile_confined ok now service w hf.keyed with h | ⟨st, hc, h⟩
  · rw [h]
    exact h1
  · rw [h]
    -- `t` is not a task of this service, and neither is any task it deletes
    have ht : ¬ OfService w.store service.id t.id := by
      rintro ⟨x, hx, hsx⟩
      rw [hf.stored, Option.some.injEq] at hx
      exact hs (hx ▸ hsx).symm
    refine h1.commit ok hc ht fun k x hx hnone => ?_
    obtain ⟨y, hy, hsy⟩ := hc.frame.of_lost hx hnone
    rw [hx, Option.some.injEq] at hy
    rw [hy, hsy]
    exact hs

theorem tickServices (hf : Forgotten t w) (ok : Nat → Bool) (now : Int) :
    Forgotten t (Replicated.tickServices ok now w) := by
  -- each service reconciled is another one than `t`'s
  have hfold : ∀ (l : List (Sigma fun _ : Nat => Service)) (w' : World),
      (∀ e ∈ l, e.2.id ≠ t.serviceID) → Forgotten t w' →
        Forgotten t (l.foldl (fun w e => Replicated.reconcile (ok e.1) now e.2 w) w') := by
    intro l
    induction l with
    | nil => exact fun _ _ h => h
    | cons e l ih =>
        intro w' hl hf'
        exact ih _ (fun e' he' => hl e' (List.mem_cons_of_mem e he'))
          (hf'.reconcile (ok e.1) now (hl e List.mem_cons_self))
  have hall := hfold w.reconcileServices.entries w
    (fun e he => hf.notReconciling e.1 e.2 (AList.mem_lookup_iff.mpr he)) hf
  unfold Replicated.tickServices
  exact hall.memory hall.notRestarting (fun k s h => by simp at h) hall.notWaiting

theorem handle (hf : Forgotten t w) {tasksOk : Bool} {servicesOk : Nat → Bool} {now : Int}
    (h : Replicated.handle tasksOk servicesOk now w = some w') : Forgotten t w' := by
  unfold Replicated.handle at h
  split at h
  · cases h
  · next ev rest hq =>
    have hev : Harmless t ev := hf.queue ev (by rw [hq]; exact List.mem_cons_self)
    have hpop : Forgotten t { w with queue := rest } :=
      ⟨hf.desired, hf.stopped, hf.keyed, hf.nodesKeyed, hf.servicesKeyed, hf.stored,
        hf.notRestarting, hf.notReconciling, hf.notWaiting,
        fun e he => hf.queue e (by rw [hq]; exact List.mem_cons_of_mem ev he)⟩
    have h1 := (hpop.handleTaskEvent hev).handleServiceEvent hev
    dsimp only at h
    split at h
    · cases h
      exact (h1.tickTasks tasksOk now).tickServices servicesOk now
    · cases h
      exact h1

-- the other components

/-- The task under `t`'s ID is `t`. -/
theorem eq_of_id (hf : Forgotten t w) {id : Nat} {x : Task} (hx : w.store.getTask id = some x)
    (hid : x.id = t.id) : x = t := by
  have hkey : x.id = id := hf.keyed id x hx
  have hlook : w.store.tasks.lookup t.id = some x := by
    rw [← hid, hkey]
    exact hx
  rw [hf.stored, Option.some.injEq] at hlook
  exact hlook.symm

theorem writeTask (hf : Forgotten t w) {y : Task} (hy : y.id ≠ t.id) :
    Forgotten t (w.writeTask y) :=
  hf.commit_grows true (Grows.insert (K := (· = y.id)) w.store y rfl) (Ne.symm hy)

theorem publish (hf : Forgotten t w) {st : Store} {ev : Event} (htasks : st.tasks = w.store.tasks)
    (hnodes : ∀ k n, st.nodes.lookup k = some n → n.id = k)
    (hservices : ∀ k s, st.services.lookup k = some s → s.id = k) (hev : Harmless t ev) :
    Forgotten t (w.publish st ev) := by
  refine ⟨hf.desired, hf.stopped, htasks ▸ hf.keyed, hnodes, hservices, htasks ▸ hf.stored,
    hf.notRestarting, hf.notReconciling, hf.notWaiting, fun e he => ?_⟩
  rcases List.mem_append.mp he with he | he
  · exact hf.queue e he
  · rcases List.mem_pair.mp he with rfl | rfl
    · exact hev
    · trivial

theorem finishDelay (hf : Forgotten t w) (id : Nat) :
    Forgotten t ({ w with sup := (Orchestrator.finishDelay id w.store w.sup).2 }.commit true
      (Orchestrator.finishDelay id w.store w.sup).1) := by
  -- `t` is desired running, so `StartNow` does not write it
  have ht : ¬ (t.id = id ∧ ∀ x, w.store.tasks.lookup t.id = some x →
      x.desiredState.rank < TaskState.running.rank) := by
    rintro ⟨-, hlt⟩
    have h := hlt t hf.stored
    rw [hf.desired] at h
    exact Nat.lt_irrefl _ h
  have h1 : Forgotten t { w with sup := (Orchestrator.finishDelay id w.store w.sup).2 } :=
    hf.memory hf.notRestarting hf.notReconciling hf.notWaiting
  exact h1.commit_grows true (startNow_grows id w.store hf.keyed) ht

theorem waitRestart (hf : Forgotten t w) {id : Nat} (hid : id ∈ w.sup.waiting) (now : Int) :
    Forgotten t (Replicated.waitRestart id now w) := by
  have hne : id ≠ t.id := fun h => hf.notWaiting (h ▸ hid)
  have hw : t.id ∉ (w.sup.waiting.erase id) := fun h => hf.notWaiting (List.mem_of_mem_erase h)
  have h1 : Forgotten t { w with sup := { w.sup with waiting := w.sup.waiting.erase id } } :=
    hf.memory hf.notRestarting hf.notReconciling hw
  unfold Replicated.waitRestart
  dsimp only
  split
  · exact h1
  · next x hx =>
    have hxid : x.id = id := hf.keyed id x hx
    split
    · exact h1
    · split
      · exact h1
      · next service _ =>
        obtain ⟨hg, hwait⟩ := restart_grows service x now w.store
          { w.sup with waiting := w.sup.waiting.erase id }
        -- `Restart` queues at most `x` again, which is not `t`
        have hs : t.id ∉ (restart service x now w.store
            { w.sup with waiting := w.sup.waiting.erase id }).1.2.waiting := fun h =>
          (hwait t.id h).elim hw fun h => hne (hxid ▸ h.symm)
        split
        · next st s hr =>
          rw [hr] at hg hs
          exact (h1.memory h1.notRestarting h1.notReconciling hs).commit_grows true hg
            (fun h => hne (hxid ▸ h.symm))
        · next s e hr =>
          rw [hr] at hs
          exact h1.memory h1.notRestarting h1.notReconciling hs

end Forgotten

-- ====================== every step

/-- The steps that take `t`'s node away or make it invalid, or change
`t`'s service. -/
def disturbs (t : Task) : Act → Bool
  | .setNode n => n.id = t.nodeID && invalidNode (some n)
  | .removeNode id => id = t.nodeID
  | .setService s => s.id = t.serviceID
  | _ => false

/-- The world with every step but those that disturb `t`: other tasks
may fail, other nodes and services change, batches be refused. -/
def calmStep (t : Task) (a : Act) (w : World) : Option World :=
  if disturbs t a then none else step a w

theorem Forgotten.nodesKeyed_insert (hf : Forgotten t w) (n : Node) :
    ∀ k n', (w.store.nodes.insert n.id n).lookup k = some n' → n'.id = k := by
  intro k n' hk
  rcases AList.lookup_insert_eq_some hk with ⟨rfl, rfl⟩ | ⟨-, hk⟩
  · rfl
  · exact hf.nodesKeyed k n' hk

/-- Every step that does not disturb `t` keeps it forgotten. -/
theorem forgotten_step {a : Act} (hf : Forgotten t w) (hcalm : disturbs t a = false)
    (h : step a w = some w') : Forgotten t w' := by
  cases a with
  | handle tasksOk servicesOk now => exact hf.handle h
  | run id node =>
      simp only [step] at h
      split at h
      · next x n hx _ =>
        split at h
        · next hc =>
          cases h
          -- the task brought up has not stopped, so it is not `t`
          refine hf.writeTask fun hid => ?_
          have hxt := hf.eq_of_id hx hid
          rw [hxt] at hc
          exact absurd hc.2.1 (Nat.lt_asymm hf.stopped)
        · cases h
      · cases h
  | fail id =>
      simp only [step] at h
      split at h
      · next x hx =>
        split at h
        · next hc =>
          cases h
          refine hf.writeTask fun hid => ?_
          have hxt := hf.eq_of_id hx hid
          rw [hxt] at hc
          exact absurd hc (Nat.not_le.mpr hf.stopped)
        · cases h
      · cases h
  | setNode n =>
      simp only [step] at h
      cases h
      -- an update of `t`'s node keeps it valid
      have hev : n.id ≠ t.nodeID ∨ invalidNode (some n) = false := by
        simp only [disturbs, Bool.and_eq_false_iff, decide_eq_false_iff_not] at hcalm
        exact hcalm
      refine hf.publish rfl (hf.nodesKeyed_insert n) hf.servicesKeyed ?_
      split
      · exact hev
      · exact hev
  | removeNode id =>
      simp only [step] at h
      obtain ⟨n, hn, rfl⟩ := Option.map_eq_some_iff.mp h
      have hid : n.id ≠ t.nodeID := by
        rw [hf.nodesKeyed id n hn]
        simpa [disturbs] using hcalm
      exact hf.publish rfl (fun k n' hk => hf.nodesKeyed k n' (AList.lookup_erase_eq_some hk).2)
        hf.servicesKeyed hid
  | setService s =>
      simp only [step] at h
      cases h
      have hs : s.id ≠ t.serviceID := by simpa [disturbs] using hcalm
      refine hf.publish rfl hf.nodesKeyed (fun k s' hk => ?_) ?_
      · rcases AList.lookup_insert_eq_some hk with ⟨rfl, rfl⟩ | ⟨-, hk⟩
        · rfl
        · exact hf.servicesKeyed k s' hk
      · split
        · exact hs
        · exact hs
  | finishDelay id =>
      simp only [step] at h
      split at h
      · cases h
        exact hf.finishDelay id
      · cases h
  | waitRestart id now =>
      simp only [step] at h
      split at h
      · next hc =>
        cases h
        exact hf.waitRestart hc.1 now
      · cases h

/-- A forgotten task stays forgotten, and stays as it is, on every run
that does not disturb it. -/
theorem forgotten_inductive (hf : Forgotten t w) : Lts.Inductive (calmStep t) w (Forgotten t) := by
  refine ⟨hf, fun hw h => ?_⟩
  unfold calmStep at h
  split at h
  · cases h
  · next hcalm => exact forgotten_step hw (Bool.not_eq_true _ ▸ hcalm) h

-- ========================= the run

/-- Service 1: one replica, restarted on any exit, with no limit. -/
def webService : Service := ⟨1, .replicated 1, none, some 1, 0⟩

/-- Node 2, ready and active. -/
def webNode : Node := ⟨2, .ready, .active, some []⟩

/-- The service's task in slot 1, running on node 2. -/
def webTask : Task :=
  { id := 5, serviceID := 1, slot := 1, nodeID := 2, desiredState := .running, state := .running,
    timestamp := some 0, appliedAt := none, restart := none, specVersion := some 1,
    jobIteration := none, createdAt := some 0 }

/-- The service converged, nothing pending. -/
def webCluster : World where
  store := ⟨(∅ : Table Task).insert 5 webTask, (∅ : Table Node).insert 2 webNode,
    (∅ : Table Service).insert 1 webService, 10⟩
  sup := Supervisor.new
  queue := []
  restartTasks := []
  reconcileServices := ∅

/-- After the task failed and the batch restarting it was refused: the
failed task in the store, the delayed start of a replacement that was
never written, and nothing pending. -/
def webAfterRefusal : World where
  store := ⟨(∅ : Table Task).insert 5 { webTask with state := .failed },
    (∅ : Table Node).insert 2 webNode, (∅ : Table Service).insert 1 webService, 11⟩
  sup := ⟨(∅ : Table DelayedStart).insert 10 ⟨false⟩, fun _ _ => none, []⟩
  queue := []
  restartTasks := []
  reconcileServices := ∅

/-- The task fails, the orchestrator queues it for a restart, and the
tick's batch is refused. From there, on every run that leaves node 2
valid and the service as it is, whatever else fails and whichever
batches are refused, the task stays `FAILED` with desired state
`RUNNING`: slot 1 never holds a running task again. -/
theorem failed_restart_never_retried :
    ∃ w, Lts.run step webCluster
        [.fail 5, .handle true (fun _ => true) 1, .handle false (fun _ => true) 1] = some w ∧
      ∀ w', Lts.Reachable (calmStep { webTask with state := .failed }) w w' →
        w'.store.getTask 5 = some { webTask with state := .failed } := by
  refine ⟨webAfterRefusal, rfl, fun w' hr => ((forgotten_inductive ?_).reachable hr).stored⟩
  have hkeyed : Keyed ((∅ : Table Task).insert 5 { webTask with state := .failed }) :=
    Keyed.insert (fun k x h => by rw [AList.lookup_empty] at h; cases h)
      { webTask with state := .failed }
  refine ⟨rfl, by decide, hkeyed, fun k n h => ?_, fun k s h => ?_, AList.lookup_insert _,
    List.not_mem_nil, fun k s h => ?_, List.not_mem_nil, fun ev h => by cases h⟩
  · change ((∅ : Table Node).insert 2 webNode).lookup k = some n at h
    rcases AList.lookup_insert_eq_some h with ⟨rfl, rfl⟩ | ⟨-, h⟩
    · rfl
    · rw [AList.lookup_empty] at h
      cases h
  · change ((∅ : Table Service).insert 1 webService).lookup k = some s at h
    rcases AList.lookup_insert_eq_some h with ⟨rfl, rfl⟩ | ⟨-, h⟩
    · rfl
    · rw [AList.lookup_empty] at h
      cases h
  · change (∅ : Table Service).lookup k = some s at h
    rw [AList.lookup_empty] at h
    cases h

end SwarmKit.Orchestrator.Replicated

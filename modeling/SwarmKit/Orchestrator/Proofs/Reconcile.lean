import SwarmKit.Orchestrator.Proofs.Slots

/-
How many slots a reconcile leaves desired to run (`Replicated.lean`
`reconcile`).

# Desired to run

A slot is desired to run when it holds a task of the service desired at
most `RUNNING` (`runSlots`). Deleting a task, or setting it to
`REMOVE`, takes that task's ID out of the tasks desired to run and
touches no other (`mem_desiredToRun_deleteTasks`,
`mem_desiredToRun_setRemove`); `addTasks` adds its new tasks, one per
least free slot number, under fresh IDs (`addTasks_spec`).

# The slots `updatableAndDeadSlots` finds

A running slot holds tasks of its own number: all of them desired to
run, unless it has none; a dead slot holds none desired to run
(`SlotSplit`, `sortSlots_spec`). A running slot may be one whose newest
task the restart policy does not restart: then no task of it is desired
to run, and the slot still counts. When no running slot is of that
kind, the slots desired to run are the running ones
(`runSlots_of_split`), and a committed reconcile leaves exactly the
service's replicas of them, branch by branch (`runSlots_scaleUp`,
`runSlots_steady`, `runSlots_scaleDown`, and `reconcile_scales`); when
one is, it leaves fewer (`unrestarted_slot_counted`).
-/

namespace SwarmKit.Orchestrator.Replicated

open SwarmKit.Scheduler (TaskState)

-- ================== desired to run

/-- The service's tasks desired to run. -/
def desiredToRun (st : Store) (serviceID : Nat) : List Task :=
  (st.findTasksByService serviceID).filter fun t => t.desiredState.rank ≤ TaskState.running.rank

/-- The slot numbers of the service that hold a task desired to run. -/
def runSlots (st : Store) (serviceID : Nat) : Finset Nat :=
  ((desiredToRun st serviceID).map (·.slot)).toFinset

section Tables

variable {st : Store} {serviceID : Nat} {x : Task}

theorem Keyed.mem_values_iff {ts : Table Task} (hk : Keyed ts) : x ∈ ts.entries.map (·.2) ↔ ts.lookup x.id = some x := by
  constructor
  · exact hk.lookup_of_mem
  · intro h
    exact List.mem_map.mpr ⟨⟨x.id, x⟩, AList.mem_lookup_iff.mp h, rfl⟩

theorem mem_findTasksByService_iff (hk : Keyed st.tasks) :
    x ∈ st.findTasksByService serviceID ↔ st.tasks.lookup x.id = some x ∧ x.serviceID = serviceID := by
  rw [Store.findTasksByService, List.mem_filter, hk.mem_values_iff, decide_eq_true_iff]

theorem mem_desiredToRun (hk : Keyed st.tasks) :
    x ∈ desiredToRun st serviceID ↔
      st.tasks.lookup x.id = some x ∧ x.serviceID = serviceID ∧ x.desiredState.rank ≤ TaskState.running.rank := by
  rw [desiredToRun, List.mem_filter, mem_findTasksByService_iff hk, decide_eq_true_iff, and_assoc]

theorem mem_runSlots {n : Nat} : n ∈ runSlots st serviceID ↔ ∃ x ∈ desiredToRun st serviceID, x.slot = n := by
  rw [runSlots, List.mem_toFinset, List.mem_map]

theorem runSlots_congr {st' : Store} (h : ∀ x, x ∈ desiredToRun st serviceID ↔ x ∈ desiredToRun st' serviceID) :
    runSlots st serviceID = runSlots st' serviceID := by
  ext n
  simp only [mem_runSlots, h]

end Tables

-- ========================== writes

section Writes

variable {st : Store} (serviceID : Nat)

/-- Deleting the tasks of `ts` takes their IDs out of the tasks desired
to run. -/
theorem mem_desiredToRun_deleteTasks (ts : List Task) (hk : Keyed st.tasks) :
    Keyed (deleteTasks ts st).tasks ∧
      ∀ x, (x ∈ desiredToRun (deleteTasks ts st) serviceID ↔ x ∈ desiredToRun st serviceID ∧ x.id ∉ ts.map (·.id)) := by
  induction ts generalizing st with
  | nil => exact ⟨hk, fun x => by simp [deleteTasks]⟩
  | cons t ts ih =>
      have hk₁ : Keyed { st with tasks := st.tasks.erase t.id }.tasks := hk.erase t.id
      obtain ⟨hk₂, hmem⟩ := ih hk₁
      refine ⟨hk₂, fun x => ?_⟩
      change x ∈ desiredToRun (deleteTasks ts { st with tasks := st.tasks.erase t.id }) serviceID ↔ _
      rw [hmem, mem_desiredToRun hk₁, mem_desiredToRun hk]
      by_cases hx : x.id = t.id
      · rw [hx]
        simp [AList.lookup_erase]
      · simp [AList.lookup_erase_ne hx, hx]

/-- Setting tasks to `REMOVE` takes their IDs out of the tasks desired
to run, whether their update goes through or finds them gone. -/
theorem mem_desiredToRun_setRemove {ts : List Task} (hts : ∀ t ∈ ts, t.desiredState.rank ≤ TaskState.remove.rank)
    (hk : Keyed st.tasks) :
    Keyed (setTasksDesiredState .remove ts st).tasks ∧
      ∀ x, (x ∈ desiredToRun (setTasksDesiredState .remove ts st) serviceID ↔
        x ∈ desiredToRun st serviceID ∧ x.id ∉ ts.map (·.id)) := by
  induction ts generalizing st with
  | nil => exact ⟨hk, fun x => by simp [setTasksDesiredState]⟩
  | cons t ts ih =>
      have hrest := fun {st : Store} (hk : Keyed st.tasks) => ih (fun t' ht' => hts t' (List.mem_cons_of_mem t ht')) hk
      have hle : ¬ t.desiredState.rank > TaskState.remove.rank := Nat.not_lt.mpr (hts t List.mem_cons_self)
      unfold setTasksDesiredState at hrest ⊢
      rw [List.foldl_cons, if_neg hle]
      split
      · next st' hupd =>
          -- the task is written back under its ID, no longer desired to run
          have hupd' := Store.updateTask_tasks hupd
          have hk₁ : Keyed st'.tasks := by rw [hupd']; exact hk.insert _
          obtain ⟨hk₂, hmem⟩ := hrest hk₁
          refine ⟨hk₂, fun x => ?_⟩
          rw [hmem, mem_desiredToRun hk₁, mem_desiredToRun hk, hupd']
          by_cases hx : x.id = t.id
          · rw [hx, AList.lookup_insert]
            constructor
            · rintro ⟨⟨hxt, -, hdr⟩, -⟩
              rw [← Option.some.inj hxt] at hdr
              exact absurd hdr (by decide : ¬ TaskState.remove.rank ≤ TaskState.running.rank)
            · rintro ⟨-, hnotin⟩
              exact absurd (List.mem_map_of_mem List.mem_cons_self) hnotin
          · simp [AList.lookup_insert_ne hx, hx]
      · next e hupd =>
          -- the update finds no task under the ID
          have hnone : t.id ∉ st.tasks := by
            unfold Store.updateTask at hupd
            split at hupd
            · cases hupd
            · assumption
          obtain ⟨hk₂, hmem⟩ := hrest hk
          refine ⟨hk₂, fun x => ?_⟩
          rw [hmem, mem_desiredToRun hk]
          by_cases hx : x.id = t.id
          · rw [hx, AList.lookup_eq_none.mpr hnone]
            simp
          · simp [hx]

/-- Deleting tasks none of which is desired to run leaves the tasks
desired to run as they were. -/
theorem mem_desiredToRun_deleteDead {ds : List Task} (hk : Keyed st.tasks)
    (hds : ∀ d ∈ ds, st.tasks.lookup d.id = some d ∧ ¬ d.desiredState.rank ≤ TaskState.running.rank) :
    Keyed (deleteTasks ds st).tasks ∧
      ∀ x, (x ∈ desiredToRun (deleteTasks ds st) serviceID ↔ x ∈ desiredToRun st serviceID) := by
  obtain ⟨hk', hmem⟩ := mem_desiredToRun_deleteTasks serviceID ds hk
  refine ⟨hk', fun x => ?_⟩
  rw [hmem]
  refine ⟨And.left, fun hx => ⟨hx, fun hid => ?_⟩⟩
  -- a deleted task under the same ID would be the task itself
  obtain ⟨d, hd, hdx⟩ := List.mem_map.mp hid
  obtain ⟨hlook, hdr⟩ := hds d hd
  obtain ⟨hxlook, -, hxdr⟩ := (mem_desiredToRun hk).mp hx
  rw [← hdx, hlook, Option.some.injEq] at hxlook
  exact hdr (hxlook ▸ hxdr)

/-- After `setTasksDesiredState` every key is still there, and every
entry is the one it was or has the state set. -/
theorem lookup_setTasksDesiredState (state : TaskState) (ts : List Task) (st : Store) (k : Nat) :
    (k ∈ st.tasks → k ∈ (setTasksDesiredState state ts st).tasks) ∧
      ∀ y, (setTasksDesiredState state ts st).tasks.lookup k = some y →
        st.tasks.lookup k = some y ∨ y.desiredState = state := by
  induction ts generalizing st with
  | nil => exact ⟨id, fun _ h => .inl h⟩
  | cons t ts ih =>
      unfold setTasksDesiredState at ih ⊢
      rw [List.foldl_cons]
      split
      · exact ih st
      · split
        · next st' hupd =>
            -- the task is written back under its ID with the state set
            obtain ⟨hkeys, hlook⟩ := ih st'
            have hst' := Store.updateTask_tasks hupd
            refine ⟨fun hk => hkeys (by rw [hst']; exact (AList.mem_insert _).mpr (.inr hk)), fun y hy => ?_⟩
            rcases hlook y hy with hy | hy
            · rw [hst'] at hy
              rcases AList.lookup_insert_eq_some hy with ⟨-, rfl⟩ | ⟨-, hy⟩
              · exact .inr rfl
              · exact .inl hy
            · exact .inr hy
        · exact ih st

/-- Every task set to `REMOVE` that is in the table ends up desired to
be removed. -/
theorem setRemove_desiredState {ts : List Task} (hts : ∀ t ∈ ts, t.desiredState.rank ≤ TaskState.remove.rank)
    {t : Task} (ht : t ∈ ts) (hmem : t.id ∈ st.tasks) :
    ∃ y, (setTasksDesiredState .remove ts st).tasks.lookup t.id = some y ∧ y.desiredState = .remove := by
  induction ts generalizing st with
  | nil => exact (nomatch ht)
  | cons t' ts ih =>
      have hrest := fun {st : Store} => @ih st (fun t'' ht'' => hts t'' (List.mem_cons_of_mem t' ht''))
      have hle : ¬ t'.desiredState.rank > TaskState.remove.rank := Nat.not_lt.mpr (hts t' List.mem_cons_self)
      -- the step on `t'`, and the keys it keeps
      have hstep := lookup_setTasksDesiredState .remove [t'] st t.id
      unfold setTasksDesiredState at hrest hstep ⊢
      rw [List.foldl_cons]
      rw [List.foldl_cons, List.foldl_nil] at hstep
      rcases List.mem_cons.mp ht with rfl | ht
      · rw [if_neg hle] at hstep ⊢
        have hupd : st.updateTask { t with desiredState := .remove } =
            .ok { st with tasks := st.tasks.insert t.id { t with desiredState := .remove } } := if_pos hmem
        rw [hupd] at hstep ⊢
        dsimp only at hstep ⊢
        -- the rest of the loop keeps the key, and either the entry or the state
        obtain ⟨hkeys, hlook⟩ := lookup_setTasksDesiredState .remove ts
          { st with tasks := st.tasks.insert t.id { t with desiredState := .remove } } t.id
        unfold setTasksDesiredState at hkeys hlook
        obtain ⟨y, hy⟩ := Option.isSome_iff_exists.mp
          (AList.lookup_isSome.mpr (hkeys ((AList.mem_insert _).mpr (.inl rfl))))
        refine ⟨y, hy, ?_⟩
        rcases hlook y hy with h | h
        · rw [AList.lookup_insert, Option.some.injEq] at h
          rw [← h]
        · exact h
      · exact hrest ht (hstep.1 hmem)

end Writes

-- ======================== scale-up

section AddTasks

variable (service : Service) (now : Int) (running : List Nat)

/-- `addTasks` creates a task for each of the least free slot numbers
above `slot`, of the service, desired to run, under fresh IDs, and
writes nothing else; the dead slots it hands back are some of those it
was given. -/
theorem addTasks_spec : ∀ (count slot : Nat) (dead : List Slot) (st : Store),
    Keyed st.tasks → (∀ k ∈ st.tasks, k < st.nextID) →
    ∃ news : List Task, LeastFree running slot (news.map (·.slot)) ∧ news.length = count ∧
      (∀ x ∈ news, x.serviceID = service.id ∧ x.desiredState = .running ∧ st.nextID ≤ x.id) ∧
      Keyed (addTasks service now running count slot dead st).2.tasks ∧
      (∀ x, (addTasks service now running count slot dead st).2.tasks.lookup x.id = some x ↔
        st.tasks.lookup x.id = some x ∨ x ∈ news) ∧
      ∀ sl ∈ (addTasks service now running count slot dead st).1, sl ∈ dead
  | 0, slot, dead, st, hk, _ =>
      ⟨[], LeastFree.nil running slot, rfl, fun _ h => (nomatch h), hk, by simp [addTasks], fun _ h => h⟩
  | count + 1, slot, dead, st, hk, hfresh => by
      obtain ⟨hlt, hfree, hgap⟩ := nextSlot_spec_length running slot
      -- the task created in the next free number, under the counter's ID
      let x := newTask service (nextSlot running running.length slot) 0 st.nextID now
      let st₁ : Store := { st with tasks := st.tasks.insert x.id x, nextID := st.nextID + 1 }
      have hnew : x.id ∉ st.tasks := fun h => Nat.lt_irrefl _ (hfresh _ h)
      have hfresh₁ : ∀ k ∈ st₁.tasks, k < st₁.nextID := by
        intro k hmem
        rcases (AList.mem_insert _).mp hmem with rfl | hmem
        · exact Nat.lt_succ_self _
        · exact Nat.lt_succ_of_lt (hfresh k hmem)
      obtain ⟨news, hleast, hlen, hnews, hk₂, hlookup, hdead⟩ :=
        addTasks_spec count (nextSlot running running.length slot) (dead.filter (·.1 ≠ nextSlot running running.length slot)) st₁ (hk.insert x) hfresh₁
      have hrun : addTasks service now running (count + 1) slot dead st =
          addTasks service now running count (nextSlot running running.length slot) (dead.filter (·.1 ≠ nextSlot running running.length slot)) st₁ := by
        have hnew' : (newTask service (nextSlot running running.length slot) 0 st.nextID now).id ∉ st.tasks := hnew
        simp only [addTasks, Store.newID, Store.createTask, hnew', ↓reduceIte]
        rfl
      rw [hrun]
      refine ⟨x :: news, hleast.cons hlt hfree hgap, by rw [List.length_cons, hlen], ?_, hk₂, ?_,
        fun sl hsl => (List.mem_filter.mp (hdead sl hsl)).1⟩
      · intro y hy
        rcases List.mem_cons.mp hy with rfl | hy
        · exact ⟨rfl, rfl, le_refl _⟩
        · obtain ⟨hsvc, hdr, hid⟩ := hnews y hy
          exact ⟨hsvc, hdr, Nat.le_of_succ_le hid⟩
      · intro y
        rw [hlookup y, List.mem_cons]
        constructor
        · rintro (hy | hy)
          · rcases AList.lookup_insert_eq_some hy with ⟨-, rfl⟩ | ⟨-, hy⟩
            · exact .inr (.inl rfl)
            · exact .inl hy
          · exact .inr (.inr hy)
        · rintro (hy | rfl | hy)
          · -- an old task keeps its entry: its ID is below the counter
            have hmem : y.id ∈ st.tasks := AList.lookup_isSome.mp (by rw [hy]; rfl)
            have hne : y.id ≠ x.id := fun h => hnew (h ▸ hmem)
            exact .inl (by rw [AList.lookup_insert_ne hne]; exact hy)
          · exact .inl (AList.lookup_insert _)
          · exact .inr hy

end AddTasks

-- ======================= the slots

/-- What `UpdatableTasksInSlot` picks of a slot: its tasks desired to
run, unless it has none. -/
theorem updatableTasksInSlot_spec (slot : List Task) (service : Service) (s : Supervisor) :
    (updatableTasksInSlot slot service s).1 = slot.filter (·.desiredState.rank ≤ TaskState.running.rank) ∨
      ∀ t ∈ slot, ¬ t.desiredState.rank ≤ TaskState.running.rank := by
  unfold updatableTasksInSlot
  split
  · exact .inl rfl
  · next t ts =>
    dsimp only
    split
    · exact .inl rfl
    · next hnone =>
        -- no task of the slot is desired to run: the newest one decides
        right
        intro x hx hdr
        have hemp : ((t :: ts).filter (·.desiredState.rank ≤ TaskState.running.rank)).isEmpty = true := by
          simpa using hnone
        have hmem : x ∈ (t :: ts).filter (·.desiredState.rank ≤ TaskState.running.rank) :=
          List.mem_filter.mpr ⟨hx, decide_eq_true hdr⟩
        rw [List.isEmpty_iff.mp hemp] at hmem
        exact List.not_mem_nil hmem

/-- What the loop of `updatableAndDeadSlots` makes of the slot numbers
`ns` over the service's `tasks`: a running slot holds tasks of its
number, all those desired to run unless none is; a dead slot holds none
desired to run; and a number that is not a running slot has no task
desired to run. -/
structure SlotSplit (tasks : List Task) (ns : List Nat) (up dead : List Slot) : Prop where
  sublist : (up.map (·.1)).Sublist ns
  up_mem : ∀ sl ∈ up, ∀ t ∈ sl.2, t ∈ tasks ∧ t.slot = sl.1
  up_run : ∀ sl ∈ up, sl.2 = (tasks.filter (·.slot = sl.1)).filter (·.desiredState.rank ≤ TaskState.running.rank) ∨
    ∀ t ∈ tasks, t.slot = sl.1 → ¬ t.desiredState.rank ≤ TaskState.running.rank
  dead_mem : ∀ sl ∈ dead, ∀ t ∈ sl.2, t ∈ tasks ∧ ¬ t.desiredState.rank ≤ TaskState.running.rank
  cover : ∀ n ∈ ns, n ∈ up.map (·.1) ∨ ∀ t ∈ tasks, t.slot = n → ¬ t.desiredState.rank ≤ TaskState.running.rank

theorem sortSlots_spec (service : Service) (tasks : List Task) :
    ∀ (ns : List Nat) (s : Supervisor),
      SlotSplit tasks ns (sortSlots service tasks ns s).1.1 (sortSlots service tasks ns s).1.2
  | [], _ => ⟨List.Sublist.slnil, fun _ h => (nomatch h), fun _ h => (nomatch h), fun _ h => (nomatch h),
      fun _ h => (nomatch h)⟩
  | n :: ns, s => by
      have ih := sortSlots_spec service tasks ns (updatableTasksInSlot (tasks.filter (·.slot = n)) service s).2
      have hsub := (updatableTasksInSlot_mem (tasks.filter (·.slot = n)) service s).1
      have hu := updatableTasksInSlot_spec (tasks.filter (·.slot = n)) service s
      -- a task of the slot is a task of the service in slot `n`
      have hslot : ∀ t, t ∈ tasks.filter (·.slot = n) ↔ t ∈ tasks ∧ t.slot = n := fun t => by
        rw [List.mem_filter, decide_eq_true_iff]
      unfold sortSlots
      dsimp only
      split
      · next hemp =>
          -- a dead slot: no task of the slot is desired to run
          have hnone : ∀ t ∈ tasks, t.slot = n → ¬ t.desiredState.rank ≤ TaskState.running.rank := by
            intro t ht htn hdr
            have hmem : t ∈ (tasks.filter (·.slot = n)).filter (·.desiredState.rank ≤ TaskState.running.rank) :=
              List.mem_filter.mpr ⟨(hslot t).mpr ⟨ht, htn⟩, decide_eq_true hdr⟩
            rcases hu with heq | hall
            · rw [← heq, List.isEmpty_iff.mp hemp] at hmem
              exact List.not_mem_nil hmem
            · exact hall t ((hslot t).mpr ⟨ht, htn⟩) hdr
          refine ⟨ih.sublist.cons n, ih.up_mem, ih.up_run, fun sl hsl t ht => ?_, fun m hm => ?_⟩
          · rcases List.mem_cons.mp hsl with rfl | hsl
            · obtain ⟨ht, htn⟩ := (hslot t).mp ht
              exact ⟨ht, hnone t ht htn⟩
            · exact ih.dead_mem sl hsl t ht
          · rcases List.mem_cons.mp hm with rfl | hm
            · exact .inr hnone
            · exact ih.cover m hm
      · -- a running slot, of the tasks `UpdatableTasksInSlot` picked
        refine ⟨ih.sublist.cons_cons n, fun sl hsl t ht => ?_, fun sl hsl => ?_, ih.dead_mem, fun m hm => ?_⟩
        · rcases List.mem_cons.mp hsl with rfl | hsl
          · exact (hslot t).mp (hsub t ht)
          · exact ih.up_mem sl hsl t ht
        · rcases List.mem_cons.mp hsl with rfl | hsl
          · rcases hu with heq | hall
            · exact .inl heq
            · exact .inr fun t ht htn => hall t ((hslot t).mpr ⟨ht, htn⟩)
          · exact ih.up_run sl hsl
        · rcases List.mem_cons.mp hm with rfl | hm
          · exact .inl List.mem_cons_self
          · rcases ih.cover m hm with h | h
            · exact .inl (List.mem_cons_of_mem _ h)
            · exact .inr h

section Counted

variable {tasks : List Task} {ns : List Nat} {up dead : List Slot} (hsplit : SlotSplit tasks ns up dead)
  (hcounted : ∀ sl ∈ up, ∃ x ∈ sl.2, x.desiredState.rank ≤ TaskState.running.rank)
include hsplit hcounted

/-- A running slot that holds a task desired to run holds exactly the
tasks of its number desired to run. -/
theorem SlotSplit.mem_up {sl : Slot} (hsl : sl ∈ up) {x : Task} :
    x ∈ sl.2 ↔ x ∈ tasks ∧ x.slot = sl.1 ∧ x.desiredState.rank ≤ TaskState.running.rank := by
  rcases hsplit.up_run sl hsl with heq | hnone
  · rw [heq, List.mem_filter, List.mem_filter, decide_eq_true_iff, decide_eq_true_iff, and_assoc]
  · obtain ⟨y, hy, hdr⟩ := hcounted sl hsl
    obtain ⟨hyt, hys⟩ := hsplit.up_mem sl hsl y hy
    exact absurd hdr (hnone y hyt hys)

/-- Every task desired to run is in the running slot of its number. -/
theorem SlotSplit.exists_up (hns : ∀ t ∈ tasks, t.slot ∈ ns) {x : Task} (hx : x ∈ tasks)
    (hdr : x.desiredState.rank ≤ TaskState.running.rank) : ∃ sl ∈ up, x ∈ sl.2 := by
  rcases hsplit.cover x.slot (hns x hx) with h | hnone
  · obtain ⟨sl, hsl, hn⟩ := List.mem_map.mp h
    exact ⟨sl, hsl, (hsplit.mem_up hcounted hsl).mpr ⟨hx, hn.symm, hdr⟩⟩
  · exact absurd hdr (hnone x hx rfl)

end Counted

theorem mem_desiredToRun_iff {st : Store} {serviceID : Nat} {x : Task} :
    x ∈ desiredToRun st serviceID ↔
      x ∈ st.findTasksByService serviceID ∧ x.desiredState.rank ≤ TaskState.running.rank := by
  rw [desiredToRun, List.mem_filter, decide_eq_true_iff]

/-- When every running slot holds a task desired to run, the slots
desired to run are the running ones. -/
theorem runSlots_of_split {st : Store} {serviceID : Nat} {ns : List Nat} {up dead : List Slot}
    (hsplit : SlotSplit (st.findTasksByService serviceID) ns up dead)
    (hcounted : ∀ sl ∈ up, ∃ x ∈ sl.2, x.desiredState.rank ≤ TaskState.running.rank)
    (hns : ∀ t ∈ st.findTasksByService serviceID, t.slot ∈ ns) :
    runSlots st serviceID = (up.map (·.1)).toFinset := by
  ext n
  rw [mem_runSlots, List.mem_toFinset, List.mem_map]
  constructor
  · rintro ⟨x, hx, rfl⟩
    obtain ⟨hxt, hdr⟩ := mem_desiredToRun_iff.mp hx
    obtain ⟨sl, hsl, hxsl⟩ := hsplit.exists_up hcounted hns hxt hdr
    exact ⟨sl, hsl, ((hsplit.mem_up hcounted hsl).mp hxsl).2.1.symm⟩
  · rintro ⟨sl, hsl, rfl⟩
    obtain ⟨x, hx, hdr⟩ := hcounted sl hsl
    obtain ⟨hxt, hxs, -⟩ := (hsplit.mem_up hcounted hsl).mp hx
    exact ⟨x, mem_desiredToRun_iff.mpr ⟨hxt, hdr⟩, hxs⟩

-- ======================= reconcile

section Branches

variable {st : Store} {service : Service} {running dead : List Slot} (hk : Keyed st.tasks)
  (hsplit : SlotSplit (st.findTasksByService service.id)
    ((st.findTasksByService service.id).map (·.slot)).dedup running dead)
  (hcounted : ∀ sl ∈ running, ∃ x ∈ sl.2, x.desiredState.rank ≤ TaskState.running.rank)
include hk hsplit hcounted

omit hk in
theorem runSlots_running : runSlots st service.id = (running.map (·.1)).toFinset :=
  runSlots_of_split hsplit hcounted fun _ ht => List.mem_dedup.mpr (List.mem_map_of_mem ht)

omit hk hcounted in
theorem nodup_running : (running.map (·.1)).Nodup :=
  hsplit.sublist.nodup (List.nodup_dedup _)

omit hcounted in
theorem dead_tasks : ∀ d ∈ dead.flatMap (·.2),
    st.tasks.lookup d.id = some d ∧ ¬ d.desiredState.rank ≤ TaskState.running.rank := by
  intro d hd
  obtain ⟨sl, hsl, hd⟩ := List.mem_flatMap.mp hd
  obtain ⟨hdt, hdr⟩ := hsplit.dead_mem sl hsl d hd
  exact ⟨((mem_findTasksByService_iff hk).mp hdt).1, hdr⟩

omit hsplit hcounted in
/-- Two tasks of the service under one ID are one task. -/
theorem eq_of_id_eq {x y : Task} (hx : x ∈ st.findTasksByService service.id)
    (hy : y ∈ st.findTasksByService service.id) (hid : x.id = y.id) : x = y := by
  have hxl := ((mem_findTasksByService_iff hk).mp hx).1
  have hyl := ((mem_findTasksByService_iff hk).mp hy).1
  rw [hid, hyl, Option.some.injEq] at hxl
  exact hxl.symm

/-- Without scaling, the slots desired to run stay the running ones. -/
theorem runSlots_steady :
    runSlots (deleteTasks (dead.flatMap (·.2)) st) service.id = (running.map (·.1)).toFinset := by
  rw [← runSlots_running hsplit hcounted]
  exact runSlots_congr (mem_desiredToRun_deleteDead _ hk (dead_tasks hk hsplit)).2

/-- A scale-up adds to the running slots the least free slot numbers,
one per new task. -/
theorem runSlots_scaleUp (now : Int) (hfresh : ∀ k ∈ st.tasks, k < st.nextID) (count : Nat) :
    ∃ L, LeastFree (running.map (·.1)) 0 L ∧ L.length = count ∧
      runSlots (deleteTasks ((addTasks service now (running.map (·.1)) count 0 dead st).1.flatMap (·.2))
        (addTasks service now (running.map (·.1)) count 0 dead st).2) service.id =
          (running.map (·.1)).toFinset ∪ L.toFinset := by
  obtain ⟨news, hleast, hlen, hnews, hk₁, hlook₁, hdead₁⟩ :=
    addTasks_spec service now (running.map (·.1)) count 0 dead st hk hfresh
  refine ⟨news.map (·.slot), hleast, by rw [List.length_map, hlen], ?_⟩
  -- the dead slots `addTasks` leaves are still in the table as they were
  have hds : ∀ d ∈ (addTasks service now (running.map (·.1)) count 0 dead st).1.flatMap (·.2),
      (addTasks service now (running.map (·.1)) count 0 dead st).2.tasks.lookup d.id = some d ∧
        ¬ d.desiredState.rank ≤ TaskState.running.rank := by
    intro d hd
    obtain ⟨sl, hsl, hd⟩ := List.mem_flatMap.mp hd
    obtain ⟨hlook, hdr⟩ := dead_tasks hk hsplit d (List.mem_flatMap.mpr ⟨sl, hdead₁ sl hsl, hd⟩)
    exact ⟨(hlook₁ d).mpr (.inl hlook), hdr⟩
  have hadd : ∀ x, x ∈ desiredToRun (addTasks service now (running.map (·.1)) count 0 dead st).2 service.id ↔
      x ∈ desiredToRun st service.id ∨ x ∈ news := by
    intro x
    rw [mem_desiredToRun hk₁, hlook₁, mem_desiredToRun hk]
    constructor
    · rintro ⟨hx | hx, hsvc, hdr⟩
      · exact .inl ⟨hx, hsvc, hdr⟩
      · exact .inr hx
    · rintro (⟨hx, hsvc, hdr⟩ | hx)
      · exact ⟨.inl hx, hsvc, hdr⟩
      · obtain ⟨hsvc, hdr, -⟩ := hnews x hx
        exact ⟨.inr hx, hsvc, hdr ▸ le_refl _⟩
  rw [runSlots_congr (mem_desiredToRun_deleteDead _ hk₁ hds).2, ← runSlots_running hsplit hcounted]
  ext n
  simp only [Finset.mem_union, mem_runSlots, List.mem_toFinset, List.mem_map, hadd]
  constructor
  · rintro ⟨x, hx | hx, rfl⟩
    · exact .inl ⟨x, hx, rfl⟩
    · exact .inr ⟨x, hx, rfl⟩
  · rintro (⟨x, hx, rfl⟩ | ⟨x, hx, rfl⟩)
    · exact ⟨x, .inl hx, rfl⟩
    · exact ⟨x, .inr hx, rfl⟩

section ScaleDown

variable {order : List Slot} (hperm : order.Perm running)
include hperm

omit hk hcounted in
theorem nodup_removalOrder : (order.map (·.1)).Nodup :=
  (hperm.map _).nodup_iff.mpr (nodup_running hsplit)

omit hk in
/-- The tasks of the slots a scale-down removes: desired to run, in the
table, and each of its own slot. -/
theorem removed_tasks (R : Nat) {t : Task} (ht : t ∈ (order.drop R).flatMap (·.2)) :
    ∃ sl ∈ order.drop R, t ∈ st.findTasksByService service.id ∧ t.slot = sl.1 ∧
      t.desiredState.rank ≤ TaskState.running.rank := by
  obtain ⟨sl, hsl, hsl2⟩ := List.mem_flatMap.mp ht
  have hrun : sl ∈ running := (hperm).subset (List.mem_of_mem_drop hsl)
  exact ⟨sl, hsl, (hsplit.mem_up hcounted hrun).mp hsl2⟩

/-- A scale-down leaves the first slots of the order desired to run,
and no other. -/
theorem runSlots_scaleDown (R : Nat) :
    runSlots (setTasksDesiredState .remove ((order.drop R).flatMap (·.2))
      (deleteTasks (dead.flatMap (·.2)) st)) service.id = ((order.take R).map (·.1)).toFinset := by
  obtain ⟨hk₁, hmem₁⟩ := mem_desiredToRun_deleteDead service.id hk (dead_tasks hk hsplit)
  have hts : ∀ t ∈ (order.drop R).flatMap (·.2), t.desiredState.rank ≤ TaskState.remove.rank := by
    intro t ht
    obtain ⟨-, -, -, -, hdr⟩ := removed_tasks hsplit hcounted hperm R ht
    exact Nat.le_trans hdr (by decide)
  obtain ⟨-, hmem₂⟩ := mem_desiredToRun_setRemove service.id hts hk₁
  -- the slot numbers of the kept and the removed slots are apart
  have happart : ∀ a ∈ order.take R, ∀ b ∈ order.drop R, a.1 ≠ b.1 := by
    have hnd := nodup_removalOrder hsplit hperm
    rw [← List.take_append_drop R order, List.map_append, List.nodup_append] at hnd
    intro a ha b hb
    exact hnd.2.2 _ (List.mem_map_of_mem ha) _ (List.mem_map_of_mem hb)
  ext n
  simp only [mem_runSlots, hmem₂, hmem₁, List.mem_toFinset, List.mem_map]
  constructor
  · rintro ⟨x, ⟨hx, hxid⟩, rfl⟩
    obtain ⟨hxt, hdr⟩ := mem_desiredToRun_iff.mp hx
    obtain ⟨sl, hsl, hxsl⟩ := hsplit.exists_up hcounted (fun t ht => List.mem_dedup.mpr (List.mem_map_of_mem ht)) hxt hdr
    have hsort : sl ∈ order.take R ++ order.drop R := by
      rw [List.take_append_drop]
      exact (hperm).symm.subset hsl
    rcases List.mem_append.mp hsort with hkept | hdropped
    · exact ⟨sl, hkept, ((hsplit.mem_up hcounted hsl).mp hxsl).2.1.symm⟩
    · -- a task of a removed slot is set to `REMOVE`
      exact absurd ⟨x, List.mem_flatMap.mpr ⟨sl, hdropped, hxsl⟩, rfl⟩ hxid
  · rintro ⟨sl, hsl, rfl⟩
    have hrun : sl ∈ running := (hperm).subset (List.mem_of_mem_take hsl)
    obtain ⟨x, hx, hdr⟩ := hcounted sl hrun
    obtain ⟨hxt, hxs, -⟩ := (hsplit.mem_up hcounted hrun).mp hx
    refine ⟨x, ⟨mem_desiredToRun_iff.mpr ⟨hxt, hdr⟩, fun hid => ?_⟩, hxs⟩
    -- the removed task under `x`'s ID would be `x`, in a removed slot
    obtain ⟨y, hy, hyx⟩ := hid
    obtain ⟨sl', hsl', hyt, hys, -⟩ := removed_tasks hsplit hcounted hperm R hy
    have hxy := eq_of_id_eq hk hyt hxt hyx
    exact happart sl hsl sl' hsl' (by rw [← hxs, ← hxy, hys])

/-- Every task of a slot a scale-down removes is desired to be
removed. -/
theorem removed_desiredState (R : Nat) :
    ∀ sl ∈ order.drop R, ∀ t ∈ sl.2, ∃ y,
      (setTasksDesiredState .remove ((order.drop R).flatMap (·.2))
        (deleteTasks (dead.flatMap (·.2)) st)).tasks.lookup t.id = some y ∧ y.desiredState = .remove := by
  intro sl hsl t ht
  obtain ⟨hk₁, hmem₁⟩ := mem_desiredToRun_deleteDead service.id hk (dead_tasks hk hsplit)
  have hflat : t ∈ (order.drop R).flatMap (·.2) := List.mem_flatMap.mpr ⟨sl, hsl, ht⟩
  have hts : ∀ t ∈ (order.drop R).flatMap (·.2), t.desiredState.rank ≤ TaskState.remove.rank := by
    intro t ht
    obtain ⟨-, -, -, -, hdr⟩ := removed_tasks hsplit hcounted hperm R ht
    exact Nat.le_trans hdr (by decide)
  -- the task survives the deletion of the dead slots
  obtain ⟨-, -, hxt, -, hdr⟩ := removed_tasks hsplit hcounted hperm R hflat
  have hlook := ((mem_desiredToRun hk₁).mp ((hmem₁ t).mpr (mem_desiredToRun_iff.mpr ⟨hxt, hdr⟩))).1
  exact setRemove_desiredState hts hflat (AList.lookup_isSome.mp (by rw [hlook]; rfl))

end ScaleDown

end Branches

section Reconcile

variable {order : List Slot → List Slot} {now : Int} {service : Service} {w : World} {R : Nat}
  {running dead : List Slot} {s : Supervisor}

/-- The store a committed reconcile leaves, branch by branch. -/
theorem reconcile_store (hmode : service.mode = .replicated R)
    (hslots : updatableAndDeadSlots service w.store w.sup = ((running, dead), s)) :
    (reconcileBy order true now service w).store =
      if running.length < R then
        deleteTasks ((addTasks service now (running.map (·.1)) (R - running.length) 0 dead w.store).1.flatMap (·.2))
          (addTasks service now (running.map (·.1)) (R - running.length) 0 dead w.store).2
      else if R < running.length then
        setTasksDesiredState .remove (((order running).drop R).flatMap (·.2))
          (deleteTasks (dead.flatMap (·.2)) w.store)
      else deleteTasks (dead.flatMap (·.2)) w.store := by
  unfold reconcileBy
  rw [hslots, hmode]
  dsimp only
  split_ifs <;> rfl

end Reconcile

/-- A committed reconcile of a replicated service of `R` replicas, from
a table of tasks under their own, fresh IDs in which every slot it
counts as running holds a task desired to run, leaves `R` slots desired
to run, whatever order the unstable sorts leave the slots in. A scale-up
fills the least free slot numbers; a scale-down keeps the first `R`
slots of the order, sets every task of the others to `REMOVE`, removes
the slots with no node first, and keeps the copies on any two nodes
within one of each other, unless the node keeping fewer keeps all of
its own. -/
theorem reconcile_scales (order : List Slot → List Slot) (horder : ∀ slots, RemovalOrder slots (order slots))
    (now : Int) (service : Service) (w : World) (R : Nat)
    (hk : Keyed w.store.tasks) (hfresh : ∀ k ∈ w.store.tasks, k < w.store.nextID)
    (hmode : service.mode = .replicated R)
    (hcounted : ∀ sl ∈ (updatableAndDeadSlots service w.store w.sup).1.1,
      ∃ x ∈ sl.2, x.desiredState.rank ≤ TaskState.running.rank) :
    let running := (updatableAndDeadSlots service w.store w.sup).1.1
    let st := (reconcileBy order true now service w).store
    (runSlots st service.id).card = R ∧
    (running.length < R → ∃ L, LeastFree (running.map (·.1)) 0 L ∧ L.length = R - running.length ∧
        runSlots st service.id = (running.map (·.1)).toFinset ∪ L.toFinset) ∧
    (R < running.length →
        runSlots st service.id = (((order running).take R).map (·.1)).toFinset ∧
        (∀ sl ∈ (order running).drop R, ∀ t ∈ sl.2,
          ∃ y, st.tasks.lookup t.id = some y ∧ y.desiredState = .remove) ∧
        (∀ a ∈ (order running).take R, ∀ b ∈ (order running).drop R,
          slotNode a = none → slotNode b = none) ∧
        ∀ A B, ((order running).take R).countP (fun sl => slotNode sl = some A) ≤
            ((order running).take R).countP (fun sl => slotNode sl = some B) + 1 ∨
          ((order running).take R).countP (fun sl => slotNode sl = some B) =
            running.countP fun sl => slotNode sl = some B) := by
  intro running st
  have hsplit : SlotSplit _ _ running (updatableAndDeadSlots service w.store w.sup).1.2 :=
    sortSlots_spec service (w.store.findTasksByService service.id)
      ((w.store.findTasksByService service.id).map (·.slot)).dedup w.sup
  have hstore := @reconcile_store order now service w R running (updatableAndDeadSlots service w.store w.sup).1.2
    (updatableAndDeadSlots service w.store w.sup).2 hmode rfl
  have hnodup := nodup_running hsplit
  rcases Nat.lt_trichotomy running.length R with hlt | heq | hgt
  · -- scale-up: the running slots and the least free numbers after them
    rw [if_pos hlt] at hstore
    obtain ⟨L, hleast, hL, hrun⟩ := runSlots_scaleUp hk hsplit hcounted now hfresh (R - running.length)
    rw [← hstore] at hrun
    have hdisj : Disjoint (running.map (·.1)).toFinset L.toFinset :=
      Finset.disjoint_left.mpr fun n hn hnL =>
        (hleast.free n (List.mem_toFinset.mp hnL)).2 (List.mem_toFinset.mp hn)
    have hLnd : L.Nodup := hleast.sorted.imp Nat.ne_of_lt
    refine ⟨?_, fun _ => ⟨L, hleast, hL, hrun⟩, fun h => absurd h (by omega)⟩
    rw [hrun, Finset.card_union_of_disjoint hdisj, List.toFinset_card_of_nodup hnodup,
      List.toFinset_card_of_nodup hLnd, List.length_map, hL]
    omega
  · -- no scaling: the running slots
    rw [if_neg (by omega), if_neg (by omega)] at hstore
    have hrun := runSlots_steady hk hsplit hcounted
    rw [← hstore] at hrun
    refine ⟨?_, fun h => absurd h (by omega), fun h => absurd h (by omega)⟩
    rw [hrun, List.toFinset_card_of_nodup hnodup, List.length_map, heq]
  · -- scale-down: the first `R` slots of the order
    rw [if_neg (by omega), if_pos hgt] at hstore
    have hperm := (horder running).perm
    have hrun := runSlots_scaleDown hk hsplit hcounted hperm R
    have hremove := removed_desiredState hk hsplit hcounted hperm R
    rw [← hstore] at hrun hremove
    have hlen : ((order running).take R).length = R := by
      rw [List.length_take, hperm.length_eq]
      omega
    have hnd : (((order running).take R).map (·.1)).Nodup := by
      rw [List.map_take]
      exact (List.take_sublist R _).nodup (nodup_removalOrder hsplit hperm)
    refine ⟨?_, fun h => absurd h (by omega), fun _ => ⟨hrun, hremove,
      fun a ha b hb => (horder running).unindexed_first R ha hb, (horder running).balanced R⟩⟩
    rw [hrun, List.toFinset_card_of_nodup hnd, List.length_map, hlen]

/-- Scaling `webCluster`'s service from one replica to three leaves
three slots desired to run. -/
theorem reconcile_scales_web :
    (runSlots (reconcile true 0 { webService with mode := .replicated 3 } webCluster).store 1).card = 3 :=
  (reconcile_scales sortForRemoval sortForRemoval_removalOrder 0 { webService with mode := .replicated 3 }
    webCluster 3
    (Keyed.insert (fun k x h => by rw [AList.lookup_empty] at h; cases h) webTask)
    (fun k hk => by
      rcases (AList.mem_insert _).mp hk with rfl | hk
      · decide
      · exact absurd hk (AList.notMem_empty k))
    rfl (by decide)).1

-- ================== a counted slot

/-- A service of two replicas whose tasks are never restarted. -/
def pinnedService : Service := ⟨1, .replicated 2, some ⟨.none, none, 0, 0⟩, none, 0⟩

/-- Slot 1 holds a failed task, shut down and not to be restarted; slot
2 a running one. -/
def pinnedWorld : World where
  store := ⟨((∅ : Table Task).insert 1
      { webTask with id := 1, desiredState := .shutdown, state := .failed, restart := pinnedService.restart }).insert 2
      { webTask with id := 2, slot := 2, restart := pinnedService.restart }, ∅, ∅, 3⟩
  sup := Supervisor.new
  queue := []
  restartTasks := []
  reconcileServices := ∅

/-- `updatableAndDeadSlots` counts slot 1 as running for its newest
task, which is not to be restarted: the reconcile sees the two replicas
and changes nothing, and one slot is left desired to run, not two. -/
theorem unrestarted_slot_counted :
    (updatableAndDeadSlots pinnedService pinnedWorld.store pinnedWorld.sup).1.1.length = 2 ∧
      (runSlots (reconcile true 0 pinnedService pinnedWorld).store pinnedService.id).card = 1 := by
  decide

end SwarmKit.Orchestrator.Replicated

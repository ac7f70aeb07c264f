import SwarmKit.Orchestrator.TaskReaper
import Mathlib.Data.List.Sort

/-
What one `tick` of the task reaper deletes (`TaskReaper.lean`).

# The history of one slot

- `historyLoop_deleted`: the loop deletes the first `n - h` tasks of the
  sorted list that will not run again, or all of them when there are
  fewer; the bound it raises per deletion is what stops it there.
- `inspectSlot_deleted`, `inspectSlot_spec`: with a service and a
  retention `h ≥ 0`, the slot's pass deletes `min (n - h) E` of its `E`
  tasks that will not run again, and none of those it keeps is older
  than one it deletes.
- `tick_getTask`: a tick deletes the cleanup list and every dirty
  slot's deletions.

# The retention

`int64(MaxAttempts) + 1` is `MaxAttempts + 1` below `2^63 - 1`
(`serviceTaskHistory_of_lt`), negative from there on, so that nothing is
deleted (`serviceTaskHistory_neg`), and `0` at `2^64 - 1`, the largest
`MaxAttempts` (`serviceTaskHistory_wrap`): a service that asks to keep
that many tasks keeps none of those that will not run again
(`wrapped_retention_clears_history`).
-/

namespace SwarmKit.Orchestrator.TaskReaper

open SwarmKit.Scheduler (TaskState)

-- ======================= the order

theorem timestampLE_total (a b : Task) : timestampLE a b = true ∨ timestampLE b a = true := by
  unfold timestampLE
  cases taskTime a <;> cases taskTime b <;> simp
  omega

theorem timestampLE_trans {a b c : Task} (hab : timestampLE a b = true)
    (hbc : timestampLE b c = true) : timestampLE a c = true := by
  unfold timestampLE at *
  cases ha : taskTime a <;> cases hb : taskTime b <;> cases hc : taskTime c <;>
    simp_all
  omega

instance : Std.Total fun a b : Task => timestampLE a b = true := ⟨timestampLE_total⟩

instance : IsTrans Task fun a b => timestampLE a b = true := ⟨fun _ _ _ => timestampLE_trans⟩

/-- An insertion sort by timestamp: one sort that meets `sort.Sort`'s
guarantee. -/
def sortByTimestamp (ts : List Task) : List Task :=
  ts.insertionSort fun a b => timestampLE a b = true

theorem sortByTimestamp_sorts : SortsByTimestamp sortByTimestamp :=
  ⟨fun ts => List.perm_insertionSort _ ts, fun ts => List.pairwise_insertionSort _ ts⟩

-- =================== the retention

/-- `int64(m) + 1` for a `uint64` `m`, as an integer: `m + 1` reduced to
the signed range. -/
theorem toInt64_succ (m : Nat) :
    ((Nat.toUInt64 m).toInt64 + 1).toInt = ((m : Int) + 1).bmod (2 ^ 64) := by
  rw [Int64.toInt_add]
  simp [Int64.size]

section Override

variable {taskHistory : Int} {service : Service} {p : RestartPolicy}

theorem serviceTaskHistory_of_lt (hp : service.restart = some p) (h0 : 0 < p.maxAttempts)
    (hlt : p.maxAttempts + 1 < 2 ^ 63) :
    serviceTaskHistory taskHistory service = p.maxAttempts + 1 := by
  simp only [serviceTaskHistory, hp, h0, if_true, toInt64_succ]
  apply Int.bmod_eq_of_le <;> omega

/-- From `MaxAttempts = 2^63 - 1` the conversion is negative, and the
service's history is never cleaned. -/
theorem serviceTaskHistory_neg (hp : service.restart = some p) (hge : 2 ^ 63 ≤ p.maxAttempts + 1)
    (hlt : p.maxAttempts + 1 < 2 ^ 64) : serviceTaskHistory taskHistory service < 0 := by
  have h0 : 0 < p.maxAttempts := by omega
  simp only [serviceTaskHistory, hp, h0, if_true, toInt64_succ]
  have hmod : ((p.maxAttempts : Int) + 1) % ((2 ^ 64 : Nat) : Int) = p.maxAttempts + 1 :=
    Int.emod_eq_of_lt (by omega) (by omega)
  rw [Int.bmod_def, hmod, if_neg (by omega)]
  omega

/-- At `MaxAttempts = 2^64 - 1` the conversion wraps to `-1`, and the
retention is `0`. -/
theorem serviceTaskHistory_wrap (hp : service.restart = some p) (hmax : p.maxAttempts = 2 ^ 64 - 1) :
    serviceTaskHistory taskHistory service = 0 := by
  have h0 : 0 < p.maxAttempts := by omega
  simp only [serviceTaskHistory, hp, h0, if_true, toInt64_succ]
  rw [hmax]
  decide

end Override

-- ================ the history loop

/-- The loop deletes the first `n - taskHistory` tasks that will not run
again: each deletion raises the bound by one, and the loop stops when
the bound reaches `n`. -/
theorem historyLoop_deleted (n : Nat) (ts : List Task) (taskHistory : Int) (hlt : taskHistory < n) :
    (historyLoop n ts taskHistory).1 =
      ((ts.filter reapable).take (n - taskHistory).toNat).map Task.id := by
  induction ts generalizing taskHistory with
  | nil => simp [historyLoop]
  | cons t ts ih =>
    by_cases hr : reapable t = true
    · by_cases hstop : (n : Int) ≤ taskHistory + 1
      · -- the last deletion
        have hk : (n - taskHistory).toNat = 0 + 1 := by omega
        simp only [historyLoop, hr, hstop, if_true, List.filter_cons_of_pos hr, hk,
          List.take_succ_cons, List.take_zero, List.map_cons, List.map_nil]
      · have hk : (n - taskHistory).toNat = (n - (taskHistory + 1)).toNat + 1 := by omega
        simp only [historyLoop, hr, hstop, if_true, if_false, ih (taskHistory + 1) (by omega),
          List.filter_cons_of_pos hr, hk, List.take_succ_cons, List.map_cons]
    · have hr' : reapable t = false := by simpa using hr
      simp only [historyLoop, hr', Bool.false_eq_true, if_false, ih taskHistory hlt,
        List.filter_cons_of_neg (by simpa using hr)]

-- ======================== one slot

section Slot

variable {sortTasks : List Task → List Task} {st : Store} {taskHistory : Int} {d : SlotTuple}
  {service : Service}

/-- With a retention `h ≥ 0`, a slot of `n` tasks loses the first
`n - h` of its sorted tasks that will not run again; at or below the
retention that is none. -/
theorem inspectSlot_deleted (hsvc : st.services.lookup d.serviceID = some service)
    (hh : 0 ≤ serviceTaskHistory taskHistory service) :
    (inspectSlot sortTasks st taskHistory d).1 =
      (((sortTasks (historicTasks st service d)).filter reapable).take
        ((historicTasks st service d).length - serviceTaskHistory taskHistory service).toNat).map
          Task.id := by
  simp only [inspectSlot, hsvc, Int.not_lt.2 hh, if_false]
  split
  · -- at or below the retention
    rename_i hle
    have hk : ((historicTasks st service d).length - serviceTaskHistory taskHistory service).toNat = 0 := by
      omega
    rw [hk, List.take_zero, List.map_nil]
  · rename_i hgt
    exact historyLoop_deleted _ _ _ (by omega)

/-- What a slot's pass deletes: the IDs of `min (n - h) E` of its `E`
tasks that will not run again, none of which is later than one it
keeps. -/
theorem inspectSlot_spec (hsort : SortsByTimestamp sortTasks)
    (hsvc : st.services.lookup d.serviceID = some service)
    (hh : 0 ≤ serviceTaskHistory taskHistory service) :
    ∃ deleted kept : List Task,
      (inspectSlot sortTasks st taskHistory d).1 = deleted.map Task.id ∧
      ((historicTasks st service d).filter reapable).Perm (deleted ++ kept) ∧
      deleted.length =
        min ((historicTasks st service d).length - serviceTaskHistory taskHistory service).toNat
          ((historicTasks st service d).filter reapable).length ∧
      ∀ x ∈ deleted, ∀ y ∈ kept, timestampLE x y = true := by
  set k := ((historicTasks st service d).length - serviceTaskHistory taskHistory service).toNat
  set sorted := (sortTasks (historicTasks st service d)).filter reapable
  have hperm : ((historicTasks st service d).filter reapable).Perm sorted :=
    ((hsort.perm _).filter reapable).symm
  refine ⟨sorted.take k, sorted.drop k, inspectSlot_deleted hsvc hh, ?_, ?_, ?_⟩
  · rw [List.take_append_drop]
    exact hperm
  · rw [List.length_take, hperm.length_eq]
  · -- the sorted list's order survives the filter
    intro x hx y hy
    exact ((hsort.sorted _).filter reapable).rel_of_mem_take_of_mem_drop hx hy

end Slot

-- ======================== the tick

theorem lookup_foldl_deleteTask (ids : List Nat) (st : Store) (k : Nat) :
    (ids.foldl Store.deleteTask st).tasks.lookup k =
      if k ∈ ids then none else st.tasks.lookup k := by
  induction ids generalizing st with
  | nil => simp
  | cons id ids ih =>
    rw [List.foldl_cons, ih]
    by_cases hk : k = id
    · subst hk
      simp [Store.deleteTask, AList.lookup_erase]
    · simp [Store.deleteTask, AList.lookup_erase_ne hk, hk]

section Tick

variable (sortTasks : List Task → List Task) (tr : TaskReaper) (st : Store)

/-- A tick deletes exactly the cleanup list and the tasks the dirty
slots' passes chose. -/
theorem tick_getTask (k : Nat) :
    (tick sortTasks tr st).2.getTask k =
      if k ∈ tr.cleanup ∨ ∃ d ∈ tr.dirty, k ∈ (inspectSlot sortTasks st tr.taskHistory d).1
      then none else st.getTask k := by
  unfold tick
  split
  · rename_i hempty
    rw [hempty.1, hempty.2]
    simp
  · dsimp only
    rw [Store.getTask, Store.getTask, lookup_foldl_deleteTask]
    -- the IDs to delete: the cleanup list, then each dirty slot's
    have hmem : k ∈ tr.cleanup ++ (tr.dirty.map fun d =>
          (d, inspectSlot sortTasks st tr.taskHistory d)).flatMap (·.2.1) ↔
        k ∈ tr.cleanup ∨ ∃ d ∈ tr.dirty, k ∈ (inspectSlot sortTasks st tr.taskHistory d).1 := by
      simp
    exact if_congr hmem rfl rfl

end Tick

-- =========== the wrapped retention

/-- A policy of `2^64 - 1` attempts, the largest `MaxAttempts`. -/
def wrapPolicy : RestartPolicy := ⟨.onFailure, none, 2 ^ 64 - 1, 0⟩

def wrapService : Service := ⟨1, .replicated 1, some wrapPolicy, some 0, 0⟩

/-- A failed task of the service's slot 1. -/
def failedTask (id : Nat) (time : Int) : Task :=
  ⟨id, 1, 1, 0, .shutdown, .failed, some time, none, some wrapPolicy, some 0, none, none⟩

/-- The slot's two failed tasks, at times 1 and 2. -/
def wrapStore : Store :=
  ⟨((∅ : Table Task).insert 10 (failedTask 10 1)).insert 11 (failedTask 11 2), ∅,
    (∅ : Table Service).insert 1 wrapService, 12⟩

/-- The slot dirty, with a cluster limit of 5. -/
def wrapReaper : TaskReaper := ⟨5, [⟨1, 1, 0⟩], []⟩

theorem wrapped_retention_clears_history {sortTasks : List Task → List Task}
    (hsort : SortsByTimestamp sortTasks) :
    (wrapStore.findTasksBySlot 1 1).length < wrapPolicy.maxAttempts + 1 ∧
      ∀ t ∈ wrapStore.findTasksBySlot 1 1, (tick sortTasks wrapReaper wrapStore).2.getTask t.id = none := by
  have hslot : wrapStore.findTasksBySlot 1 1 = [failedTask 11 2, failedTask 10 1] := by decide
  refine ⟨by rw [hslot]; decide, ?_⟩
  have hsvc : wrapStore.services.lookup 1 = some wrapService := by decide
  have hzero : serviceTaskHistory 5 wrapService = 0 := serviceTaskHistory_wrap rfl rfl
  have hhist : historicTasks wrapStore wrapService ⟨1, 1, 0⟩ = wrapStore.findTasksBySlot 1 1 := rfl
  -- with a retention of 0 the pass deletes every failed task of the slot
  have hdel := @inspectSlot_deleted sortTasks wrapStore 5 ⟨1, 1, 0⟩ wrapService hsvc
    (by rw [hzero])
  rw [hzero, hhist, hslot] at hdel
  have hall : (sortTasks [failedTask 11 2, failedTask 10 1]).filter reapable =
      sortTasks [failedTask 11 2, failedTask 10 1] := by
    refine List.filter_eq_self.2 fun t ht => ?_
    have hmem := (hsort.perm _).subset ht
    simp only [List.mem_cons, List.not_mem_nil, or_false] at hmem
    rcases hmem with rfl | rfl <;> decide
  have hlen := (hsort.perm [failedTask 11 2, failedTask 10 1]).length_eq
  rw [hall, List.take_of_length_le (by simp at hlen ⊢; omega)] at hdel
  intro t ht
  rw [tick_getTask, if_pos]
  refine .inr ⟨⟨1, 1, 0⟩, List.mem_singleton_self _, ?_⟩
  change t.id ∈ (inspectSlot sortTasks wrapStore 5 ⟨1, 1, 0⟩).1
  rw [hdel]
  exact List.mem_map_of_mem ((hsort.perm _).symm.subset (hslot ▸ ht))

theorem sorted_wrapped_retention_clears_history :
    (wrapStore.findTasksBySlot 1 1).length < wrapPolicy.maxAttempts + 1 ∧
      ∀ t ∈ wrapStore.findTasksBySlot 1 1,
        (tick sortByTimestamp wrapReaper wrapStore).2.getTask t.id = none :=
  wrapped_retention_clears_history sortByTimestamp_sorts

end SwarmKit.Orchestrator.TaskReaper

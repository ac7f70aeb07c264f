import SwarmKit.Agent.Reporter
import SwarmKit.Lib.AListTotal
import SwarmKit.Lib.Lts

/-
What the status reporter sends upstream (`Reporter.lean`).

# The check sees pending statuses only

`UpdateTaskStatus` compares a status with the map's entry for its task,
and the run loop deletes the entry before it sends it. So a status of a
task with no entry, one whose status is being sent or has been sent, is
taken whatever its state (`updateTaskStatus_lookup_of_none`), and the
loop sends it later.

# Monotone callers, monotone upstream

What the reporter does keep is order: when the statuses submitted for
each task never go down, neither do those it sends upstream, through
any interleaving of the calls with the loop and any upstream failures
(`upstream_monotone`). The invariant `MonoInv` says that the statuses
sent for a task are sorted, that the entry and the status in flight are
at least each of them, and that each is at most some status submitted.

# A stale status during the send

The run at the end submits `RUNNING`, lets the loop send it, and submits
`STARTING` while the call is in flight: the reporter sends `RUNNING`
then `STARTING`, and goes back to waiting with nothing left to send
(`stale_status_sent_last`).
-/

namespace SwarmKit.Agent.Reporter

open SwarmKit.Scheduler (TaskState)

-- ======================= the check

theorem StatusReporter.signal_statuses (r : StatusReporter) : r.signal.statuses = r.statuses := by
  unfold StatusReporter.signal
  split <;> rfl

theorem StatusReporter.signal_upstream (r : StatusReporter) : r.signal.upstream = r.upstream := by
  unfold StatusReporter.signal
  split <;> rfl

theorem StatusReporter.signal_submitted (r : StatusReporter) : r.signal.submitted = r.submitted := by
  unfold StatusReporter.signal
  split <;> rfl

/-- A signal only wakes a waiting loop. -/
theorem StatusReporter.signal_loop {r : StatusReporter} {l : Loop} (h : r.signal.loop = l) :
    r.loop = l ∨ (r.loop = .waiting ∧ l = .woken) := by
  unfold StatusReporter.signal at h
  split at h
  · next hw => exact .inr ⟨hw, h.symm⟩
  · exact .inl h

/-- With no entry for the task, `UpdateTaskStatus` takes the status,
whatever its state. -/
theorem updateTaskStatus_lookup_of_none {r : StatusReporter} {taskID : Nat} (status : TaskStatus)
    (h : r.statuses.lookup taskID = none) :
    (r.updateTaskStatus taskID status).statuses.lookup taskID = some status := by
  unfold StatusReporter.updateTaskStatus
  rw [h]
  rw [StatusReporter.signal_statuses, AList.lookup_insert]

/-- `UpdateTaskStatus` leaves the entry, or puts the status in its place. -/
theorem updateTaskStatus_statuses (r : StatusReporter) (taskID : Nat) (status : TaskStatus) :
    (r.updateTaskStatus taskID status).statuses = r.statuses ∨
      (r.updateTaskStatus taskID status).statuses = r.statuses.insert taskID status := by
  unfold StatusReporter.updateTaskStatus
  split
  · split
    · exact .inl rfl
    · split
      · exact .inl rfl
      · exact .inr (StatusReporter.signal_statuses _)
  · exact .inr (StatusReporter.signal_statuses _)

-- ============= the ranks of a task

/-- The ranks of the states of a task's statuses in a log, in order. -/
def ranksFor (log : List (Nat × TaskStatus)) (taskID : Nat) : List Nat :=
  (log.filter (·.1 = taskID)).map (·.2.state.rank)

theorem ranksFor_append_self (log : List (Nat × TaskStatus)) (taskID : Nat) (status : TaskStatus) :
    ranksFor (log ++ [(taskID, status)]) taskID = ranksFor log taskID ++ [status.state.rank] := by
  simp [ranksFor, List.filter_append]

theorem ranksFor_append_of_ne (log : List (Nat × TaskStatus)) {taskID id : Nat} (status : TaskStatus)
    (h : id ≠ taskID) : ranksFor (log ++ [(taskID, status)]) id = ranksFor log id := by
  simp [ranksFor, List.filter_append, Ne.symm h]

theorem mem_ranksFor_append {log : List (Nat × TaskStatus)} {taskID id x : Nat} {status : TaskStatus}
    (h : x ∈ ranksFor log id) : x ∈ ranksFor (log ++ [(taskID, status)]) id := by
  unfold ranksFor at h ⊢
  rw [List.filter_append, List.map_append]
  exact List.mem_append_left _ h

-- ======================= invariant

/-- The upstream statuses of each task are sorted; the entry and the
status in flight are at least each of them; each of them, and the
entry, is at most some status submitted. -/
structure MonoInv (r : StatusReporter) : Prop where
  sorted : ∀ id, (ranksFor r.upstream id).Pairwise (· ≤ ·)
  entry : ∀ id st, r.statuses.lookup id = some st → ∀ x ∈ ranksFor r.upstream id, x ≤ st.state.rank
  sending : ∀ u id st, r.loop = .sending u id st →
    st.state.rank ∈ ranksFor r.upstream id ∧ ∀ x ∈ ranksFor r.upstream id, x ≤ st.state.rank
  upBound : ∀ id, ∀ x ∈ ranksFor r.upstream id, ∃ y ∈ ranksFor r.submitted id, x ≤ y
  entryBound : ∀ id st, r.statuses.lookup id = some st → ∃ y ∈ ranksFor r.submitted id, st.state.rank ≤ y

theorem MonoInv.init : MonoInv StatusReporter.init where
  sorted _ := List.Pairwise.nil
  entry _ _ h := nomatch h
  sending _ _ _ h := nomatch h
  upBound _ _ h := nomatch h
  entryBound _ _ h := nomatch h

/-- A step that moves the loop elsewhere than into a send, and touches
neither the map nor the logs, keeps the invariant. -/
theorem MonoInv.of_frame {r r' : StatusReporter} (h : MonoInv r) (hs : r'.statuses = r.statuses)
    (hu : r'.upstream = r.upstream) (hsub : r'.submitted = r.submitted)
    (hl : ∀ u id st, r'.loop = .sending u id st → r.loop = .sending u id st) : MonoInv r' where
  sorted id := hu ▸ h.sorted id
  entry id st hst := hu ▸ h.entry id st (hs ▸ hst)
  sending u id st hsend := hu ▸ h.sending u id st (hl u id st hsend)
  upBound id x hx := hsub ▸ h.upBound id x (hu ▸ hx)
  entryBound id st hst := hsub ▸ h.entryBound id st (hs ▸ hst)

theorem MonoInv.signal {r : StatusReporter} (h : MonoInv r) : MonoInv r.signal :=
  h.of_frame r.signal_statuses r.signal_upstream r.signal_submitted fun u id st hl => by
    rcases StatusReporter.signal_loop hl with hl | ⟨-, hw⟩
    · exact hl
    · cases hw

/-- A submission of a status at least each one submitted before for its
task. -/
theorem MonoInv.updateTaskStatus {r : StatusReporter} (h : MonoInv r) {taskID : Nat} {status : TaskStatus}
    (hmono : ∀ y ∈ ranksFor r.submitted taskID, y ≤ status.state.rank) :
    MonoInv { r.updateTaskStatus taskID status with submitted := r.submitted ++ [(taskID, status)] } := by
  -- the statuses and the logs, then the loop, as `UpdateTaskStatus` leaves them
  have hup : (r.updateTaskStatus taskID status).upstream = r.upstream := by
    unfold StatusReporter.updateTaskStatus
    split
    · split
      · rfl
      · split
        · rfl
        · exact StatusReporter.signal_upstream _
    · exact StatusReporter.signal_upstream _
  have hloop : ∀ u id st, (r.updateTaskStatus taskID status).loop = .sending u id st → r.loop = .sending u id st := by
    intro u id st hl
    unfold StatusReporter.updateTaskStatus at hl
    split at hl
    · split at hl
      · exact hl
      · split at hl
        · exact hl
        · rcases StatusReporter.signal_loop hl with hl | ⟨-, hw⟩
          · exact hl
          · cases hw
    · rcases StatusReporter.signal_loop hl with hl | ⟨-, hw⟩
      · exact hl
      · cases hw
  -- a status submitted now bounds itself; one submitted before bounds what it bounded
  have hsub : ∀ id, ∀ y ∈ ranksFor r.submitted id, y ∈ ranksFor (r.submitted ++ [(taskID, status)]) id :=
    fun id y hy => mem_ranksFor_append hy
  have hself : status.state.rank ∈ ranksFor (r.submitted ++ [(taskID, status)]) taskID := by
    rw [ranksFor_append_self]
    exact List.mem_append_right _ (List.mem_singleton_self _)
  refine ⟨fun id => hup ▸ h.sorted id, fun id st hst x hx => ?_, fun u id st hl => hup ▸ h.sending u id st (hloop u id st hl),
    fun id x hx => ?_, fun id st hst => ?_⟩
  · rw [hup] at hx
    rcases updateTaskStatus_statuses r taskID status with hs | hs
    · exact h.entry id st (hs ▸ hst) x hx
    · rw [hs] at hst
      rcases AList.lookup_insert_eq_some hst with ⟨rfl, rfl⟩ | ⟨-, hst⟩
      · obtain ⟨y, hy, hxy⟩ := h.upBound id x hx
        exact hxy.trans (hmono y hy)
      · exact h.entry id st hst x hx
  · obtain ⟨y, hy, hxy⟩ := h.upBound id x (hup ▸ hx)
    exact ⟨y, hsub id y hy, hxy⟩
  · rcases updateTaskStatus_statuses r taskID status with hs | hs
    · obtain ⟨y, hy, hle⟩ := h.entryBound id st (hs ▸ hst)
      exact ⟨y, hsub id y hy, hle⟩
    · rw [hs] at hst
      rcases AList.lookup_insert_eq_some hst with ⟨rfl, rfl⟩ | ⟨-, hst⟩
      · exact ⟨_, hself, Nat.le_refl _⟩
      · obtain ⟨y, hy, hle⟩ := h.entryBound id st hst
        exact ⟨y, hsub id y hy, hle⟩

/-- The loop visits an entry: it leaves the map and goes upstream. -/
theorem MonoInv.sendStatus {r : StatusReporter} (h : MonoInv r) (u : List Nat) {taskID : Nat}
    {status : TaskStatus} (hst : r.statuses.lookup taskID = some status) :
    MonoInv { r with statuses := r.statuses.erase taskID, loop := .sending (u.erase taskID) taskID status,
                     upstream := r.upstream ++ [(taskID, status)] } := by
  have hle := h.entry taskID status hst
  -- the other tasks' ranks are as they were
  have hother : ∀ id, id ≠ taskID → ranksFor (r.upstream ++ [(taskID, status)]) id = ranksFor r.upstream id :=
    fun id hid => ranksFor_append_of_ne r.upstream status hid
  have hself := ranksFor_append_self r.upstream taskID status
  refine ⟨fun id => ?_, fun id st hst' x hx => ?_, fun u' id st hl => ?_, fun id x hx => ?_, fun id st hst' => ?_⟩
  · by_cases hid : id = taskID
    · subst hid
      rw [hself, List.pairwise_append]
      exact ⟨h.sorted id, List.pairwise_singleton _ _, fun x hx y hy => List.mem_singleton.mp hy ▸ hle x hx⟩
    · rw [hother id hid]
      exact h.sorted id
  · have hid : id ≠ taskID := by
      rintro rfl
      simp [AList.lookup_erase] at hst'
    rw [AList.lookup_erase_ne hid] at hst'
    rw [hother id hid] at hx
    exact h.entry id st hst' x hx
  · cases hl
    rw [hself]
    refine ⟨List.mem_append_right _ (List.mem_singleton_self _), fun x hx => ?_⟩
    rcases List.mem_append.mp hx with hx | hx
    · exact hle x hx
    · rw [List.mem_singleton.mp hx]
  · by_cases hid : id = taskID
    · subst hid
      rw [hself] at hx
      rcases List.mem_append.mp hx with hx | hx
      · exact h.upBound id x hx
      · rw [List.mem_singleton.mp hx]
        exact h.entryBound id status hst
    · rw [hother id hid] at hx
      exact h.upBound id x hx
  · have hid : id ≠ taskID := by
      rintro rfl
      simp [AList.lookup_erase] at hst'
    rw [AList.lookup_erase_ne hid] at hst'
    exact h.entryBound id st hst'

/-- The upstream call returns; a failed status goes back unless a new
one came in. -/
theorem MonoInv.returned {r : StatusReporter} (h : MonoInv r) {u : List Nat} {taskID : Nat}
    {status : TaskStatus} (hl : r.loop = .sending u taskID status) (ok : Bool) :
    MonoInv { r with statuses := if !ok ∧ r.statuses.lookup taskID = none then r.statuses.insert taskID status
                                 else r.statuses, loop := .statuses u } := by
  obtain ⟨hmem, hle⟩ := h.sending u taskID status hl
  refine ⟨h.sorted, fun id st hst x hx => ?_, fun u' id st hl' => (nomatch hl'), h.upBound, fun id st hst => ?_⟩
  · dsimp only at hst
    split at hst
    · rcases AList.lookup_insert_eq_some hst with ⟨rfl, rfl⟩ | ⟨-, hst⟩
      · exact hle x hx
      · exact h.entry id st hst x hx
    · exact h.entry id st hst x hx
  · dsimp only at hst
    split at hst
    · rcases AList.lookup_insert_eq_some hst with ⟨rfl, rfl⟩ | ⟨-, hst⟩
      · exact h.upBound id _ hmem
      · exact h.entryBound id st hst
    · exact h.entryBound id st hst

-- ======================== the runs

/-- The steps of callers that never submit a status below one submitted
before for the same task. -/
def monoStep : Act → StatusReporter → Option StatusReporter
  | .updateTaskStatus taskID status, r =>
    if ∀ y ∈ ranksFor r.submitted taskID, y ≤ status.state.rank then step (.updateTaskStatus taskID status) r
    else none
  | a, r => step a r

theorem monoInv_step {a : Act} {r r' : StatusReporter} (h : MonoInv r) (hs : monoStep a r = some r') :
    MonoInv r' := by
  cases a with
  | updateTaskStatus taskID status =>
      simp only [monoStep, step] at hs
      split at hs
      · next hmono =>
          split at hs
          · cases hs
          · cases hs
            exact h.updateTaskStatus hmono
      · cases hs
  | reportVolumeUnpublished volumeID =>
      simp only [monoStep, step] at hs
      split at hs
      · cases hs
      · cases hs
        unfold StatusReporter.reportVolumeUnpublished
        exact MonoInv.signal (h.of_frame rfl rfl rfl fun _ _ _ hl => hl)
  | close =>
      simp only [monoStep, step] at hs
      split at hs
      · cases hs
      · cases hs
        unfold StatusReporter.close
        exact MonoInv.signal (h.of_frame rfl rfl rfl fun _ _ _ hl => hl)
  | lock =>
      simp only [monoStep, step] at hs
      split at hs
      · cases hs
        exact h.of_frame rfl rfl rfl fun _ _ _ hl => nomatch hl
      · cases hs
  | check =>
      simp only [monoStep, step] at hs
      split at hs
      · cases hs
        refine h.of_frame rfl rfl rfl fun _ _ _ hl => ?_
        -- the loop waits or goes on to the closed check
        dsimp only at hl
        split at hl <;> exact nomatch hl
      · cases hs
  | resume =>
      simp only [monoStep, step] at hs
      split at hs
      · cases hs
        exact h.of_frame rfl rfl rfl fun _ _ _ hl => nomatch hl
      · cases hs
  | enter =>
      simp only [monoStep, step] at hs
      split at hs
      · cases hs
        refine h.of_frame rfl rfl rfl fun _ _ _ hl => ?_
        dsimp only at hl
        split at hl <;> exact nomatch hl
      · cases hs
  | endStatuses =>
      simp only [monoStep, step] at hs
      split at hs
      · cases hs
        exact h.of_frame rfl rfl rfl fun _ _ _ hl => nomatch hl
      · cases hs
  | endVolumes =>
      simp only [monoStep, step] at hs
      split at hs
      · cases hs
        exact h.of_frame rfl rfl rfl fun _ _ _ hl => nomatch hl
      · cases hs
  | sendStatus taskID =>
      simp only [monoStep, step] at hs
      split at hs
      · next u status _ hst =>
          cases hs
          exact h.sendStatus u hst
      · cases hs
  | returned ok =>
      simp only [monoStep, step] at hs
      split at hs
      · next u taskID status hl =>
          split at hs
          · cases hs
            exact h.of_frame rfl rfl rfl fun _ _ _ hl' => nomatch hl'
          · cases hs
            exact h.returned hl ok
      · cases hs
  | sendVolume volumeID =>
      simp only [monoStep, step] at hs
      split at hs
      · split at hs
        · cases hs
          exact h.of_frame rfl rfl rfl fun _ _ _ hl => nomatch hl
        · cases hs
      · cases hs
  | returnedVolume ok =>
      simp only [monoStep, step] at hs
      split at hs
      · split at hs
        · cases hs
          exact h.of_frame rfl rfl rfl fun _ _ _ hl => nomatch hl
        · cases hs
          exact h.of_frame rfl rfl rfl fun _ _ _ hl => nomatch hl
      · cases hs

/-- Callers that never submit a status of a lower state than one
submitted before for the same task get, through every interleaving with
the loop and any failures upstream, the statuses of each task sent
upstream in non-decreasing state. -/
theorem upstream_monotone {r : StatusReporter} (hr : Lts.Reachable monoStep StatusReporter.init r)
    (taskID : Nat) : (ranksFor r.upstream taskID).Pairwise (· ≤ ·) := by
  have hind : Lts.Inductive monoStep StatusReporter.init MonoInv := ⟨MonoInv.init, monoInv_step⟩
  exact (hind.reachable hr).sorted taskID

-- ========================= the run

/-- A task's status at `RUNNING`. -/
def runningStatus : TaskStatus := ⟨.running, 0⟩

/-- An older status of the same task, at `STARTING`. -/
def startingStatus : TaskStatus := ⟨.starting, 0⟩

/-- `RUNNING` is submitted and sent; while the call is in flight the
older `STARTING` is submitted; the loop then sends it too and, the map
empty again, goes back to waiting. -/
def staleCalls : List Act :=
  [.lock, .check, .updateTaskStatus 1 runningStatus, .resume, .enter, .sendStatus 1,
    .updateTaskStatus 1 startingStatus, .returned true, .sendStatus 1, .returned true, .endStatuses, .endVolumes,
    .check]

theorem stale_status_sent_last :
    ∃ r, Lts.run step StatusReporter.init staleCalls = some r ∧
      r.upstream = [(1, runningStatus), (1, startingStatus)] ∧ r.closed = false ∧
      r.loop = .waiting ∧ r.statuses.entries = [] ∧ r.volumes = [] := by
  refine ⟨_, rfl, ?_⟩
  decide

end SwarmKit.Agent.Reporter

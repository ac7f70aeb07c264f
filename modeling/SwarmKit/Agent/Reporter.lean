import Mathlib.Data.List.AList
import SwarmKit.Scheduler.Scheduler

/-
The agent's status reporter (agent/reporter.go `statusReporter`:
`UpdateTaskStatus`, `ReportVolumeUnpublished`, `Close`, `run`).

# The map and the loop

Callers put the latest status of each task into a map, dropping one
equal to the entry or with a lower state than it, and put volumes into a
set; each signals the condition variable. The run loop takes the mutex,
waits on the condition while both are empty, and otherwise ranges over
the map: it deletes an entry, releases the mutex for the upstream call,
and on a failure puts the status back unless a new one came in
meanwhile. The volumes go the same way. `Close` marks the reporter
closed, and the loop returns at its next check.

# Reading the source

The loop is written position by position, each label of `Act` one step
between two points of the source; the callers run only while the loop
does not hold the mutex. A range over a Go map visits each entry present
when it starts unless deleted, in any order, and may or may not visit an
entry created during it; here the loop may send any entry present, and
ends a range once every entry of its start has been visited (nothing but
the loop deletes one). `upstream` and `volumesUpstream` are the calls
the loop makes upstream, in order; `submitted` the calls of
`UpdateTaskStatus`. The goroutine that closes the reporter when the
context ends is a call of `Close`.
-/

namespace SwarmKit.Agent.Reporter

open SwarmKit.Scheduler (TaskState)

-- =========================== state

/-- `api.TaskStatus`: its state, and the rest that `reflect.DeepEqual`
compares. -/
structure TaskStatus where
  state : TaskState
  message : Nat
  deriving DecidableEq, Repr

/-- Where the run loop is. -/
inductive Loop
  /-- The goroutine has not taken the mutex yet. -/
  | start
  /-- At the top of the `for`, holding the mutex. -/
  | top
  /-- In `cond.Wait`, the mutex released. -/
  | waiting
  /-- Signalled, waiting for the mutex. -/
  | woken
  /-- At `if sr.closed`, holding the mutex. -/
  | checkClosed
  /-- In the range over the statuses; the entries of its start not yet
  visited. -/
  | statuses (unvisited : List Nat)
  /-- In the upstream `UpdateTaskStatus` call, the mutex released. -/
  | sending (unvisited : List Nat) (taskID : Nat) (status : TaskStatus)
  /-- In the range over the volumes. -/
  | volumes (unvisited : List Nat)
  /-- In the upstream `ReportVolumeUnpublished` call. -/
  | sendingVolume (unvisited : List Nat) (volumeID : Nat)
  /-- Returned. -/
  | exited
  deriving DecidableEq, Repr

/-- The positions at which the loop holds the mutex. -/
def Loop.holdsLock : Loop → Bool
  | .top | .checkClosed | .statuses _ | .volumes _ => true
  | _ => false

/-- `statusReporter`, with the calls it made and took. -/
structure StatusReporter where
  statuses : AList fun _ : Nat => TaskStatus
  volumes : List Nat
  closed : Bool
  loop : Loop
  upstream : List (Nat × TaskStatus)
  volumesUpstream : List Nat
  submitted : List (Nat × TaskStatus)

/-- `newStatusReporter`. -/
def StatusReporter.init : StatusReporter := ⟨∅, [], false, .start, [], [], []⟩

-- ========================= callers

/-- `sr.cond.Signal()`: wakes the loop if it waits. -/
def StatusReporter.signal (r : StatusReporter) : StatusReporter :=
  match r.loop with
  | .waiting => { r with loop := .woken }
  | _ => r

/-- `UpdateTaskStatus`: an equal status or one of a lower state than the
entry is dropped ("ignore old updates"). -/
def StatusReporter.updateTaskStatus (r : StatusReporter) (taskID : Nat) (status : TaskStatus) : StatusReporter :=
  match r.statuses.lookup taskID with
  | some current =>
    if current = status then r
    else if status.state.rank < current.state.rank then r
    else { r with statuses := r.statuses.insert taskID status }.signal
  | none => { r with statuses := r.statuses.insert taskID status }.signal

/-- `ReportVolumeUnpublished`. -/
def StatusReporter.reportVolumeUnpublished (r : StatusReporter) (volumeID : Nat) : StatusReporter :=
  { r with volumes := if volumeID ∈ r.volumes then r.volumes else r.volumes ++ [volumeID] }.signal

/-- `Close`. -/
def StatusReporter.close (r : StatusReporter) : StatusReporter := { r with closed := true }.signal

-- =========================== steps

/-- A caller's call, or the loop's next step. -/
inductive Act
  | updateTaskStatus (taskID : Nat) (status : TaskStatus)
  | reportVolumeUnpublished (volumeID : Nat)
  | close
  /-- `sr.mu.Lock()` at the start of `run`. -/
  | lock
  /-- The emptiness check at the top: wait, or go on. -/
  | check
  /-- `cond.Wait` returns with the mutex. -/
  | resume
  /-- `if sr.closed`, then the range over the statuses. -/
  | enter
  /-- The range visits this task's entry: deleted, and sent upstream. -/
  | sendStatus (taskID : Nat)
  | endStatuses
  /-- The upstream call returns, failed or not. -/
  | returned (ok : Bool)
  | sendVolume (volumeID : Nat)
  | endVolumes
  | returnedVolume (ok : Bool)

/-- One step; `none` when it is not enabled. -/
def step : Act → StatusReporter → Option StatusReporter
  | .updateTaskStatus taskID status, r =>
    if r.loop.holdsLock then none
    else some { r.updateTaskStatus taskID status with submitted := r.submitted ++ [(taskID, status)] }
  | .reportVolumeUnpublished volumeID, r => if r.loop.holdsLock then none else some (r.reportVolumeUnpublished volumeID)
  | .close, r => if r.loop.holdsLock then none else some r.close
  | .lock, r =>
    match r.loop with
    | .start => some { r with loop := .top }
    | _ => none
  | .check, r =>
    match r.loop with
    | .top => some { r with loop := if r.statuses.entries = [] ∧ r.volumes = [] then .waiting else .checkClosed }
    | _ => none
  | .resume, r =>
    match r.loop with
    | .woken => some { r with loop := .checkClosed }
    | _ => none
  | .enter, r =>
    match r.loop with
    | .checkClosed => some { r with loop := if r.closed then .exited else .statuses r.statuses.keys }
    | _ => none
  | .sendStatus taskID, r =>
    match r.loop, r.statuses.lookup taskID with
    | .statuses unvisited, some status =>
      -- "delete the entry, while trying to send"
      some { r with statuses := r.statuses.erase taskID, loop := .sending (unvisited.erase taskID) taskID status,
                    upstream := r.upstream ++ [(taskID, status)] }
    | _, _ => none
  | .endStatuses, r =>
    match r.loop with
    | .statuses [] => some { r with loop := .volumes r.volumes }
    | _ => none
  | .returned ok, r =>
    match r.loop with
    | .sending unvisited taskID status =>
      if r.closed then some { r with loop := .exited }
      else
        -- a failed status goes back, unless a new one came in while it was sent
        let statuses :=
          if !ok ∧ r.statuses.lookup taskID = none then r.statuses.insert taskID status else r.statuses
        some { r with statuses, loop := .statuses unvisited }
    | _ => none
  | .sendVolume volumeID, r =>
    match r.loop with
    | .volumes unvisited =>
      if volumeID ∈ r.volumes then
        some { r with volumes := r.volumes.erase volumeID, loop := .sendingVolume (unvisited.erase volumeID) volumeID,
                      volumesUpstream := r.volumesUpstream ++ [volumeID] }
      else none
    | _ => none
  | .endVolumes, r =>
    match r.loop with
    | .volumes [] => some { r with loop := .top }
    | _ => none
  | .returnedVolume ok, r =>
    match r.loop with
    | .sendingVolume unvisited volumeID =>
      if r.closed then some { r with loop := .exited }
      else
        let volumes := if ok ∨ volumeID ∈ r.volumes then r.volumes else r.volumes ++ [volumeID]
        some { r with volumes, loop := .volumes unvisited }
    | _ => none

end SwarmKit.Agent.Reporter

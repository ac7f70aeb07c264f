import SwarmKit.Orchestrator.Restart

/-
The task reaper's history cleanup (manager/orchestrator/taskreaper
task_reaper.go `Run`, `taskInTerminalState`, `taskWillNeverRun`,
`tick`; orchestrator/task.go `TasksByTimestamp`).

# The pass

`Run` marks dirty the slot of every task created, and collects for
cleanup the serviceless orphaned tasks and the removed tasks that are
not running. `tick` reads, for every dirty slot, the tasks of the slot:
by slot number for a replicated service, by node for a global one, and
none for a job. When there are more than the slot's retention, it sorts
them by timestamp and deletes, oldest first, those that will not run
again, until the slot would hold no more than the retention. The
retention is the cluster's `TaskHistoryRetentionLimit`, or one more than
the restart policy's `MaxAttempts` when that is set; a negative one
keeps everything. A slot stays dirty only when the loop counted more
than one task that may still run.

# Reading the source

The retention is an `int64` and `MaxAttempts` a `uint64`. The override
converts with `int64(...)` and adds one in `int64`, so it is computed
in `Int64` here and wraps as the source's does. `sort.Sort` is given by
what it guarantees (`SortsByTimestamp`): a reordering in which no task
stands after a later one, the tasks without a timestamp first.
`TasksByTimestamp.Less` also says that a task without a timestamp is
less than another one without; the sort then reorders such tasks among
themselves only, which the guarantee allows.

The dirty set is a list of slot tuples in the map's iteration order.
Every slot is read in one snapshot and the deletions wait for the end of
the pass, so that order changes nothing. `deleteTasks` is a list of IDs,
where the source's is a set: deleting a task twice deletes it once.
-/

namespace SwarmKit.Orchestrator

open SwarmKit.Scheduler (TaskState)

-- ======================= the store

namespace Store

/-- `FindTasks(tx, BySlot(serviceID, slot))`, in the table's order. -/
def findTasksBySlot (st : Store) (serviceID slot : Nat) : List Task :=
  (st.tasks.entries.map (·.2)).filter fun t => t.serviceID = serviceID ∧ t.slot = slot

/-- `DeleteTask(tx, id)`: a missing task fails the update alone, and the
batch goes on. -/
def deleteTask (st : Store) (id : Nat) : Store := { st with tasks := st.tasks.erase id }

end Store

-- ======================= the state

/-- What the reaper keeps between ticks. -/
structure TaskReaper where
  /-- `taskHistory`, the cluster's `TaskHistoryRetentionLimit`. -/
  taskHistory : Int
  dirty : List SlotTuple
  cleanup : List Nat
  deriving DecidableEq, Repr

namespace TaskReaper

-- ============= what may be deleted

/-- `taskInTerminalState`. -/
def taskInTerminalState (t : Task) : Bool := decide (TaskState.running.rank < t.state.rank)

/-- `taskWillNeverRun`. -/
def taskWillNeverRun (t : Task) : Bool :=
  decide (t.state.rank < TaskState.assigned.rank) &&
    decide (TaskState.running.rank < t.desiredState.rank)

/-- The history loop's condition: a task that will not run again. -/
def reapable (t : Task) : Bool := taskInTerminalState t || taskWillNeverRun t

-- ======================= the order

/-- `TasksByTimestamp.Less`, on `taskTimestamp`: a task without a
timestamp is less than every task, one without a timestamp included. -/
def tasksByTimestampLess (a b : Task) : Bool :=
  match taskTime a, taskTime b with
  | none, _ => true
  | some _, none => false
  | some x, some y => decide (x < y)

/-- The order the sort leaves the tasks in: those without a timestamp
first, then by time. -/
def timestampLE (a b : Task) : Bool :=
  match taskTime a, taskTime b with
  | none, _ => true
  | some _, none => false
  | some x, some y => decide (x ≤ y)

/-- What `sort.Sort(TasksByTimestamp(ts))` guarantees. -/
structure SortsByTimestamp (sortTasks : List Task → List Task) : Prop where
  perm : ∀ ts, (sortTasks ts).Perm ts
  sorted : ∀ ts, (sortTasks ts).Pairwise fun a b => timestampLE a b = true

-- ====================== the events

/-- The events `Run` watches. -/
inductive Event
  | createTask (t : Task)
  | updateTask (t : Task)
  | updateCluster (taskHistoryRetentionLimit : Int)
  deriving DecidableEq, Repr

/-- `maxDirty`. -/
def maxDirty : Nat := 1000

/-- `Run`'s handling of one event. A serviceless task has service ID
`0`. -/
def handleEvent (tr : TaskReaper) : Event → TaskReaper
  | .createTask t =>
    let d : SlotTuple := ⟨t.slot, t.serviceID, t.nodeID⟩
    { tr with dirty := if d ∈ tr.dirty then tr.dirty else tr.dirty ++ [d] }
  | .updateTask t =>
    -- the two checks are separate: a task may be added twice
    let orphaned :=
      if TaskState.orphaned.rank ≤ t.state.rank ∧ t.serviceID = 0 then [t.id] else []
    let removed :=
      if t.desiredState = .remove ∧
          (t.state.rank < TaskState.assigned.rank ∨ TaskState.complete.rank ≤ t.state.rank)
      then [t.id] else []
    { tr with cleanup := tr.cleanup ++ orphaned ++ removed }
  | .updateCluster limit => { tr with taskHistory := limit }

-- ======================== the pass

/-- The retention of a service's slots: `int64(MaxAttempts) + 1` when
the restart policy sets `MaxAttempts`, in `int64` arithmetic. -/
def serviceTaskHistory (taskHistory : Int) (service : Service) : Int :=
  match service.restart with
  | some p =>
    if 0 < p.maxAttempts then ((Nat.toUInt64 p.maxAttempts).toInt64 + 1).toInt
    else taskHistory
  | none => taskHistory

/-- The tasks of a dirty slot, by the service's mode. -/
def historicTasks (st : Store) (service : Service) (dirty : SlotTuple) : List Task :=
  match service.mode with
  | .replicated _ => st.findTasksBySlot dirty.serviceID dirty.slot
  | .global => (st.findTasksByNode dirty.nodeID).filter (·.serviceID = dirty.serviceID)
  | _ => []

/-- The loop over the sorted tasks of a slot of `n` tasks: the IDs it
deletes, and the tasks it counted as running before it stopped. -/
def historyLoop (n : Nat) : List Task → Int → List Nat × Nat
  | [], _ => ([], 0)
  | t :: ts, taskHistory =>
    if reapable t then
      if (n : Int) ≤ taskHistory + 1 then ([t.id], 0)
      else
        let r := historyLoop n ts (taskHistory + 1)
        (t.id :: r.1, r.2)
    else
      let r := historyLoop n ts taskHistory
      (r.1, r.2 + 1)

/-- The body of `tick`'s loop for one dirty slot: the IDs to delete, and
whether the slot stays dirty. -/
def inspectSlot (sortTasks : List Task → List Task) (st : Store) (taskHistory : Int)
    (dirty : SlotTuple) : List Nat × Bool :=
  match st.services.lookup dirty.serviceID with
  | none => ([], false)
  | some service =>
    let taskHistory := serviceTaskHistory taskHistory service
    if taskHistory < 0 then ([], false)
    else
      let historicTasks := historicTasks st service dirty
      if (historicTasks.length : Int) ≤ taskHistory then ([], false)
      else
        let r := historyLoop historicTasks.length (sortTasks historicTasks) taskHistory
        (r.1, decide (1 < r.2))

/-- `tick`: the cleanup list and every dirty slot's deletions, then the
deletions in one batch. -/
def tick (sortTasks : List Task → List Task) (tr : TaskReaper) (st : Store) :
    TaskReaper × Store :=
  if tr.dirty = [] ∧ tr.cleanup = [] then (tr, st)
  else
    let slots := tr.dirty.map fun d => (d, inspectSlot sortTasks st tr.taskHistory d)
    let deleteTasks := tr.cleanup ++ slots.flatMap (·.2.1)
    ({ tr with dirty := (slots.filter (·.2.2)).map (·.1), cleanup := [] },
      deleteTasks.foldl Store.deleteTask st)

/-- One event of `Run`'s loop: handled, then a tick at once when the
dirty slots and the cleanup list together exceed `maxDirty`; otherwise
the batching timer ticks later. -/
def onEvent (sortTasks : List Task → List Task) (tr : TaskReaper) (st : Store) (e : Event) :
    TaskReaper × Store :=
  let tr := handleEvent tr e
  if maxDirty < tr.dirty.length + tr.cleanup.length then tick sortTasks tr st else (tr, st)

end TaskReaper

end SwarmKit.Orchestrator

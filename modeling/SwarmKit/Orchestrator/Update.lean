import SwarmKit.Orchestrator.Restart
import SwarmKit.Lib.Lts

/-
A rolling update (manager/orchestrator/update updater.go `Updater.Run`,
`worker`, `updateTask`, `useExistingTask`, `removeOldTasks`,
`isSlotDirty`; restart.go `DelayStart`, `StartNow`; api/defaults
service.go `Service.Update`, `Service.Rollback`).

# The run

`Run` keeps the dirty slots, picks the update or the rollback config,
and starts `Parallelism` workers (one per dirty slot when it is zero)
on an unbuffered queue. It hands the slots over one at a time until
they are gone, `stopChan` is closed, or the failure watch triggers the
failure action; then it closes the queue and waits for the workers.

A worker keeps a clean task of its slot when there is one, the first
desired `RUNNING`, else the last desired short of it
(`useExistingTask`): in one batch it shuts the slot's other tasks down
and, for a task not yet desired `RUNNING`, asks for a delayed start
after the old task stops; it waits for that start and returns. With no
clean task it creates a task desired `READY` (`updateTask`), and in the
same batch either shuts the old tasks down and delays the start until
they stop (`STOP_FIRST`), or starts it at once (`START_FIRST`); it then
waits for the start and for the first event of the new task at or past
`RUNNING`, and under `START_FIRST`, if that state is `RUNNING`, shuts
the old tasks down. After each slot it sleeps `Delay` if that is set.

# Reading the source

- Each worker is a program counter (`WorkerPc`) at one of its blocking
  points. What it does with a slot from the receive up to its first
  wait is one step: its only store access is one `Batch`, which
  commits or aborts whole (`commitOk`).
- The worker reads the slot's tasks as `Run` was given them;
  `removeOldTasks` and the choice of a clean task look at those copies,
  and each shutdown re-reads the task.
- A `DelayStart` goroutine (`Starter`) waits, when the old task had not
  stopped, for an event of that task past `RUNNING`; the task timeout
  and the node's events are the environment's choice (`timer`). It then
  runs `StartNow` in a store update.
- The watch of `updateTask` is opened before the task exists and skips
  events short of `RUNNING`; observed states only grow, so it sees the
  first state at or past `RUNNING` that a status report (`report`)
  wrote (`up`).
- Whether `failureTriggersAction` fires is the environment's choice
  (`failureAction`, enabled unless the action is `CONTINUE`). The
  writes to the service's `UpdateStatus` are not kept: no modelled step
  reads them.
- `removed` records the slots whose old tasks the updater shut down,
  with the task meant to replace them, for the statements about the run.
-/

namespace SwarmKit.Orchestrator.Update

open SwarmKit.Scheduler (TaskState)
open SwarmKit.Store (Err)

-- ====================== the config

/-- `api.UpdateConfig_UpdateOrder`. -/
inductive UpdateOrder
  | stopFirst | startFirst
  deriving DecidableEq, Repr

/-- `api.UpdateConfig_FailureAction`. -/
inductive FailureAction
  | pause | continue | rollback
  deriving DecidableEq, Repr

/-- What `Run` and the workers read of `api.UpdateConfig`. -/
structure UpdateConfig where
  parallelism : Nat
  /-- `Delay` in nanoseconds; the workers read only whether it is zero. -/
  delay : Nat
  failureAction : FailureAction
  order : UpdateOrder
  deriving DecidableEq, Repr

/-- `api.UpdateStatus_UpdateState`. -/
inductive UpdateState
  | unknown | updating | paused | completed
  | rollbackStarted | rollbackPaused | rollbackCompleted
  deriving DecidableEq, Repr

/-- `defaults.Service.Update`. -/
def defaultUpdate : UpdateConfig := ⟨1, 0, .pause, .stopFirst⟩

/-- `defaults.Service.Rollback`. -/
def defaultRollback : UpdateConfig := ⟨1, 0, .pause, .stopFirst⟩

/-- What `Run` reads of the updater and of `u.newService`. -/
structure Params where
  newService : Service
  updateStatus : Option UpdateState
  /-- `Spec.Update`. -/
  update : Option UpdateConfig
  /-- `Spec.Rollback`. -/
  rollback : Option UpdateConfig
  isTaskDirty : Task → Bool

/-- The config of the run: the rollback one while a rollback is under
way, the update one otherwise, each defaulted when nil. -/
def Params.updateConfig (p : Params) : UpdateConfig :=
  if p.updateStatus = some .rollbackStarted then p.rollback.getD defaultRollback
  else p.update.getD defaultUpdate

/-- `orchestrator.Slot`: the tasks of a slot, as `Run` was given them. -/
abbrev Slot := List Task

/-- `isSlotDirty`. -/
def isSlotDirty (isTaskDirty : Task → Bool) (slot : Slot) : Bool :=
  match slot with
  | [] => false
  | [t] => isTaskDirty t
  | _ :: _ :: _ => true

-- =================== the run state

/-- Where a worker goroutine is blocked. -/
inductive WorkerPc
  /-- `for slot := range queue`. -/
  | receive
  /-- `<-delayStartCh` for the start of task `id`. In `updateTask`
  (`watch = some (startThenStop, up)`) the watch of the task is already
  open; in `useExistingTask` (`watch = none`) there is none. -/
  | awaitStart (slot : Slot) (id : Nat) (watch : Option (Bool × Option TaskState))
  /-- `updateTask`'s loop over the events of task `id`; `up` is the
  first state at or past `RUNNING` its watch delivered. -/
  | awaitRunning (slot : Slot) (id : Nat) (startThenStop : Bool) (up : Option TaskState)
  /-- `time.After(updateConfig.Delay)` after a slot. -/
  | pause
  /-- The worker returned. -/
  | exit
  deriving DecidableEq, Repr

/-- Where a worker goes after a slot: the sleep of `Delay`, or back to
the queue. -/
def Params.afterPc (p : Params) : WorkerPc :=
  if p.updateConfig.delay ≠ 0 then .pause else .receive

/-- A `DelayStart` goroutine with zero delay: the task it starts and,
when `waitForTask` held, the old task whose stop it waits for. -/
structure Starter where
  taskID : Nat
  waitFor : Option Nat
  deriving DecidableEq, Repr

/-- A run of `Updater.Run`. -/
structure State where
  store : Store
  /-- The dirty slots the loop has not yet handed to a worker. -/
  pending : List Slot
  workers : List WorkerPc
  starters : List Starter
  /-- `stopChan` is closed. -/
  stopped : Bool
  /-- The slots whose old tasks the updater shut down, each with the
  task meant to replace them. -/
  removed : List (Slot × Nat)

/-- The errors of the updater's batches. -/
inductive UpdateErr
  /-- "service was deleted" -/
  | serviceDeleted
  /-- "task %s not found while trying to shut it down" -/
  | notFound (id : Nat)
  /-- "task %s was already shut down when reached by updater (state: %v)" -/
  | alreadyShutDown (id : Nat)
  | store (e : Err)
  deriving DecidableEq, Repr

-- ============== the worker's parts

/-- The loop of `worker` over the slot: the first clean task desired
`RUNNING`, else the last clean task desired short of it. -/
def findExisting (isTaskDirty : Task → Bool) : Slot → Option Task → Option Task
  | [], cleanTask => cleanTask
  | t :: slot, cleanTask =>
    if isTaskDirty t then findExisting isTaskDirty slot cleanTask
    else if t.desiredState = .running then some t
    else if t.desiredState.rank < TaskState.running.rank then findExisting isTaskDirty slot (some t)
    else findExisting isTaskDirty slot cleanTask

/-- The update of the batch that shuts one task down: the task is
re-read, and one gone or already desired past `RUNNING` is an error. -/
def shutdownTask (id : Nat) (tx : Store) : Except UpdateErr Store :=
  match tx.getTask id with
  | none => .error (.notFound id)
  | some t =>
    if TaskState.running.rank < t.desiredState.rank then .error (.alreadyShutDown id)
    else
      match tx.updateTask { t with desiredState := .shutdown } with
      | .ok tx => .ok tx
      | .error e => .error (.store e)

/-- The loop of `removeOldTasks`, with its `lastErr` and `removedTask`:
a task whose copy is desired past `RUNNING` is skipped, and a failed
update leaves the batch as it was. -/
def removeOldTasksLoop : List Task → Option UpdateErr → Option Task → Store →
    Option UpdateErr × Option Task × Store
  | [], lastErr, removedTask, batch => (lastErr, removedTask, batch)
  | original :: rest, lastErr, removedTask, batch =>
    if TaskState.running.rank < original.desiredState.rank then
      removeOldTasksLoop rest lastErr removedTask batch
    else
      match shutdownTask original.id batch with
      | .error e => removeOldTasksLoop rest (some e) removedTask batch
      | .ok batch => removeOldTasksLoop rest lastErr (some original) batch

/-- `removeOldTasks`: one of the tasks shut down, or, when none was, the
last error; nothing to do is no error. -/
def removeOldTasks (removeTasks : List Task) (batch : Store) : Except UpdateErr (Option Task × Store) :=
  match removeOldTasksLoop removeTasks none none batch with
  | (some e, none, _) => .error e
  | (_, removedTask, batch) => .ok (removedTask, batch)

/-- The shutdowns of `useExistingTask`'s batch, when there is anything
to remove. -/
def removeOthers (removeTasks : List Task) (batch : Store) : Except UpdateErr (Option Task × Store) :=
  if removeTasks = [] then .ok (none, batch) else removeOldTasks removeTasks batch

/-- `DelayStart(ctx, nil, oldTask, newTaskID, 0, waitStop)`: an earlier
delay of the same task is cancelled, and the new goroutine waits for the
old task only if that task's copy had not stopped. -/
def delayStart (oldTask : Option Task) (newTaskID : Nat) (waitStop : Bool)
    (starters : List Starter) : List Starter :=
  let waitFor :=
    if waitStop then (oldTask.filter (·.state.rank ≤ TaskState.running.rank)).map (·.id) else none
  starters.filter (·.taskID ≠ newTaskID) ++ [⟨newTaskID, waitFor⟩]

/-- The task `updateTask` creates: `NewTask` in the slot (on the slot's
node for a global service), desired `READY`. A dirty slot is never
empty, so `slot[0]` is there. -/
def updatedTask (service : Service) (slot : Slot) (id : Nat) (now : Int) : Task :=
  let slotNumber := (slot.head?.map (·.slot)).getD 0
  let nodeID := if service.isGlobalService then (slot.head?.map (·.nodeID)).getD 0 else 0
  { newTask service slotNumber nodeID id now with desiredState := .ready }

/-- The first update of `updateTask`'s batch. -/
def createUpdated (service : Service) (updated : Task) (tx : Store) : Except UpdateErr Store :=
  if service.id ∈ tx.services then
    match tx.createTask updated with
    | .ok tx => .ok tx
    | .error e => .error (.store e)
  else .error .serviceDeleted

-- ================= the transitions

namespace State

variable (p : Params)

/-- Worker `w` is at `pc`. -/
def setWorker (w : Nat) (pc : WorkerPc) (s : State) : State :=
  { s with workers := s.workers.set w pc }

/-- The end of a slot: the sleep of `Delay`, or back to the queue. -/
def afterSlot (w : Nat) (s : State) : State :=
  s.setWorker w p.afterPc

/-- A committed batch that shut `oldTask` down records the slot with
the task meant to replace it. -/
def recordRemoved (slot : Slot) (replacement : Nat) (oldTask : Option Task) (s : State) : State :=
  if oldTask.isSome then { s with removed := s.removed ++ [(slot, replacement)] } else s

/-- `useExistingTask(ctx, slot, existing)` by worker `w`: a failed
batch is logged and ends the slot; the delayed start, once asked for,
runs whether the batch commits or not. -/
def useExistingTask (w : Nat) (slot : Slot) (existing : Task) (commitOk : Bool) (s : State) : State :=
  let removeTasks := slot.filter (· != existing)
  let start := existing.desiredState ≠ .running
  if removeTasks = [] ∧ ¬start then s.afterSlot p w
  else
    match removeOthers removeTasks s.store with
    | .error _ => s.afterSlot p w
    | .ok (oldTask, batch) =>
      let starters := if start then delayStart oldTask existing.id true s.starters else s.starters
      let s := { s with starters }
      if commitOk then
        let s := recordRemoved slot existing.id oldTask { s with store := batch }
        if start then s.setWorker w (.awaitStart slot existing.id none) else s.afterSlot p w
      else s.afterSlot p w

/-- `updateTask(ctx, slot, updated, order)` by worker `w`, up to the
wait for the start; the new ID is drawn before the batch. -/
def updateTask (w : Nat) (slot : Slot) (now : Int) (commitOk : Bool) (s : State) : State :=
  let (id, store) := s.store.newID
  let s := { s with store }
  let updated := updatedTask p.newService slot id now
  match createUpdated p.newService updated s.store with
  | .error _ => s.afterSlot p w
  | .ok batch =>
    match p.updateConfig.order with
    | .startFirst =>
      let s := { s with starters := delayStart none id false s.starters }
      if commitOk then { s with store := batch }.setWorker w (.awaitStart slot id (some (true, none)))
      else s.afterSlot p w
    | .stopFirst =>
      match removeOldTasks slot batch with
      | .error _ => s.afterSlot p w
      | .ok (oldTask, batch) =>
        let s := { s with starters := delayStart oldTask id true s.starters }
        if commitOk then
          (recordRemoved slot id oldTask { s with store := batch }).setWorker w
            (.awaitStart slot id (some (false, none)))
        else s.afterSlot p w

/-- The body of `worker` for a slot it received, up to its first wait. -/
def work (w : Nat) (slot : Slot) (now : Int) (commitOk : Bool) (s : State) : State :=
  match findExisting p.isTaskDirty slot none with
  | some existing => s.useExistingTask p w slot existing commitOk
  | none => s.updateTask p w slot now commitOk

/-- `START_FIRST`'s end of `updateTask`: the old tasks are shut down in
a batch whose errors are logged. -/
def stopOld (slot : Slot) (id : Nat) (commitOk : Bool) (s : State) : State :=
  match removeOldTasks slot s.store with
  | .ok (oldTask, batch) =>
    if commitOk then recordRemoved slot id oldTask { s with store := batch } else s
  | .error _ => s

/-- A status report of task `id` in state `st`: the store takes it, and
the watches of the task keep the first state at or past `RUNNING`. -/
def watchReport (id : Nat) (st : TaskState) : WorkerPc → WorkerPc
  | .awaitStart slot i (some (sts, none)) =>
    if i = id ∧ TaskState.running.rank ≤ st.rank then .awaitStart slot i (some (sts, some st))
    else .awaitStart slot i (some (sts, none))
  | .awaitRunning slot i sts none =>
    if i = id ∧ TaskState.running.rank ≤ st.rank then .awaitRunning slot i sts (some st)
    else .awaitRunning slot i sts none
  | pc => pc

end State

/-- `StartNow` in a store update; an error is logged and commits
nothing, as does a failed commit. -/
def startNowUpdate (taskID : Nat) (commitOk : Bool) (st : Store) : Store :=
  if commitOk then
    match startNow taskID st with
    | .ok st' => st'
    | .error _ => st
  else st

/-- One atomic step of the run and what the environment chose in it. -/
inductive Act
  /-- `slotQueue <- slot` taken by worker `w`, which runs its batch at
  clock reading `now`. -/
  | hand (w : Nat) (now : Int) (commitOk : Bool)
  /-- `Stop()` closes `stopChan`. -/
  | stop
  /-- The loop of `Run` sees `stopChan` closed and leaves. -/
  | abort
  /-- `failureTriggersAction` fires and the loop leaves. -/
  | failureAction
  /-- Worker `w`'s `range` ends on the closed queue. -/
  | exit (w : Nat)
  /-- Delayed start `i` runs `StartNow`: its old task stopped, or
  `timer` (the task timeout, or the old task's node down or deleted). -/
  | fire (i : Nat) (timer : Bool) (commitOk : Bool)
  /-- Worker `w`'s `delayStartCh` is closed. -/
  | started (w : Nat)
  /-- Worker `w` reads its task's first event at or past `RUNNING`. -/
  | observe (w : Nat) (commitOk : Bool)
  /-- Worker `w`'s `Delay` elapsed. -/
  | wake (w : Nat)
  /-- Worker `w` sees `stopChan` closed. -/
  | interrupt (w : Nat)
  /-- A status report moves task `id` forward to `st`. -/
  | report (id : Nat) (st : TaskState)

/-- The delayed start may run: it waits for nothing, its timer or node
event fired, or its old task is past `RUNNING`. -/
def Starter.ready (st : Store) (timer : Bool) (d : Starter) : Bool :=
  match d.waitFor with
  | none => true
  | some old => timer || (st.getTask old).any (TaskState.running.rank < ·.state.rank)

/-- The step function of a run. -/
def step (p : Params) : Act → State → Option State
  | .hand w now commitOk, s =>
    match s.pending, s.workers[w]? with
    | slot :: rest, some .receive => some ({ s with pending := rest }.work p w slot now commitOk)
    | _, _ => none
  | .stop, s => some { s with stopped := true }
  | .abort, s => if s.stopped then some { s with pending := [] } else none
  | .failureAction, s =>
    if p.updateConfig.failureAction ≠ .continue then some { s with pending := [] } else none
  | .exit w, s =>
    if s.pending = [] ∧ s.workers[w]? = some .receive then some (s.setWorker w .exit) else none
  | .fire i timer commitOk, s =>
    match s.starters[i]? with
    | some d =>
      if d.ready s.store timer then
        some { s with store := startNowUpdate d.taskID commitOk s.store, starters := s.starters.eraseIdx i }
      else none
    | none => none
  | .started w, s =>
    match s.workers[w]? with
    | some (.awaitStart slot id watch) =>
      if s.starters.any (·.taskID = id) then none
      else
        match watch with
        | none => some (s.afterSlot p w)
        | some (sts, up) => some (s.setWorker w (.awaitRunning slot id sts up))
    | _ => none
  | .observe w commitOk, s =>
    match s.workers[w]? with
    | some (.awaitRunning slot id sts (some st)) =>
      if sts ∧ st = .running then some ((s.stopOld slot id commitOk).afterSlot p w)
      else some (s.afterSlot p w)
    | _ => none
  | .wake w, s =>
    if s.workers[w]? = some .pause then some (s.setWorker w .receive) else none
  | .interrupt w, s =>
    if s.stopped then
      match s.workers[w]? with
      | some (.awaitStart ..) | some (.awaitRunning ..) => some (s.afterSlot p w)
      | some .pause => some (s.setWorker w .exit)
      | _ => none
    else none
  | .report id st, s =>
    match s.store.getTask id with
    | some t =>
      if t.state.rank < st.rank then
        match s.store.updateTask { t with state := st } with
        | .ok store => some { s with store, workers := s.workers.map (State.watchReport id st) }
        | .error _ => none
      else none
    | none => none

/-- `Run` up to its loop: nothing when the update is paused or no slot
is dirty, else the dirty slots and the workers. -/
def start (p : Params) (st : Store) (slots : List Slot) : Option State :=
  if p.updateStatus = some .paused ∨ p.updateStatus = some .rollbackPaused then none
  else
    let dirtySlots := slots.filter (isSlotDirty p.isTaskDirty)
    if dirtySlots = [] then none
    else
      let parallelism :=
        if p.updateConfig.parallelism = 0 then dirtySlots.length else p.updateConfig.parallelism
      some ⟨st, dirtySlots, List.replicate parallelism .receive, [], false, []⟩

-- ================= what is counted

/-- Task `id` has not reached `RUNNING` or a terminal state (or is not
there at all). -/
def notUp (st : Store) (id : Nat) : Bool :=
  (st.getTask id).all (·.state.rank < TaskState.running.rank)

/-- The slots the updater has taken out of service: an old task of the
slot was shut down and the task meant to replace it is not up. -/
def State.outOfService (s : State) : List (Slot × Nat) :=
  s.removed.filter fun e => notUp s.store e.2

end SwarmKit.Orchestrator.Update

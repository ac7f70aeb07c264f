import SwarmKit.Scheduler.Scheduler

/-
The agent's task manager (agent/task.go `taskManager`: `run`, `Update`,
`Close`; agent/helpers.go `runctx`).

# The loop and its operations

`run` is one `select` over its channels. A token on `run` dispatches an
operation goroutine: `ctlr.Update` when the task was updated, then
`exec.Do`; the goroutine hands the status back on `statusq`, reports it,
and sends its error on `errs` through `runctx`. The loop keeps the one
cancel function of the operation it last dispatched in `cancel`: an
update cancels that operation, or pumps `run` when `cancel` is nil. On
an error the loop clears `cancel` and decides whether to pump `run`
again; on `ErrTaskRetry` it arms a timer that sends nil on `errs` a
second later. Shutdown cancels the operation of `cancel` and waits for
its error, or, with `cancel` nil, closes `tm.closed`; the loop then
returns, cancelling its context.

# Reading the source

Each label of `Act` is one branch of the `select`, one step of a
goroutine (an operation, a retry timer), or a caller's `Update` or
`Close`. An operation is `running` from its dispatch until `exec.Do`
returns, with whatever status and error the controller gives; what the
controller does with a cancelled context is its choice too. The parent
context stays live: its `Done` branch is not taken. The task is what
`TasksEqualStable` compares (its ID, desired state and spec) and the
state of its status.
-/

namespace SwarmKit.Agent.Task

open SwarmKit.Scheduler (TaskState)

-- =========================== state

/-- What `TasksEqualStable` compares of an `api.Task`: its ID, desired
state, and the rest of it but the status. -/
structure TaskView where
  id : Nat
  desiredState : TaskState
  spec : Nat
  deriving DecidableEq, Repr

/-- The error an operation returns: nil, `exec.ErrTaskNoop`,
`exec.ErrTaskRetry`, `context.Canceled` (or `DeadlineExceeded`), or
another. -/
inductive OpErr
  | ok
  | taskNoop
  | taskRetry
  | canceled
  | other
  deriving DecidableEq, Repr

/-- Where an operation goroutine is. -/
inductive OpPhase
  /-- In `ctlr.Update` and `exec.Do`. -/
  | running
  /-- At `statusqLocal <- status`. -/
  | sendingStatus (status : TaskState) (err : OpErr)
  /-- In `runctx`, at `errs <- err`. -/
  | returning (err : OpErr)
  deriving DecidableEq, Repr

/-- `taskManager` and the goroutines of its `run`. -/
structure TaskManager where
  task : TaskView
  status : TaskState
  /-- `cancel`: the operation whose cancel function it holds, or nil. -/
  cancel : Option Nat
  updated : Bool
  /-- The one slot of the `run` channel. -/
  runPending : Bool
  /-- The loop's `shutdown`, `statusq` and `errs` are not nil. -/
  shutdownOn : Bool
  statusqOn : Bool
  errsOn : Bool
  /-- `tm.shutdown` and `tm.closed` are closed. -/
  shutdownClosed : Bool
  closed : Bool
  /-- `run` returned, its context cancelled. -/
  exited : Bool
  closeReturned : Bool
  ops : List (Nat × OpPhase)
  nextOp : Nat
  /-- Retry timers not yet gone off, and those blocked at `errs <- nil`. -/
  timersPending : Nat
  timersFired : Nat
  /-- The statuses the operations reported, in order. -/
  reported : List TaskState

/-- `newTaskManager`: the pump primed. -/
def TaskManager.init (task : TaskView) (status : TaskState) : TaskManager :=
  ⟨task, status, none, false, true, true, true, true, false, false, false, false, [], 0, 0, 0, []⟩

/-- The operations in `ctlr.Update` or `exec.Do`. -/
def TaskManager.inFlight (tm : TaskManager) : List Nat :=
  (tm.ops.filter fun o => o.2 = .running).map (·.1)

/-- The operation with this ID, and where it is. -/
def TaskManager.phase (tm : TaskManager) (op : Nat) : Option OpPhase := tm.ops.lookup op

/-- The operation moved on, or gone when `none`. -/
def TaskManager.setPhase (tm : TaskManager) (op : Nat) (phase : Option OpPhase) : TaskManager :=
  { tm with ops := match phase with
      | some p => tm.ops.map fun o => if o.1 = op then (op, p) else o
      | none => tm.ops.filter fun o => o.1 ≠ op }

-- ======================== branches

/-- `select { case run <- struct{}{}: default: }`. -/
def TaskManager.pump (tm : TaskManager) : TaskManager := { tm with runPending := true }

/-- The `<-run` branch: with shutdown or close pending, nothing;
otherwise an operation dispatched with the task as it is now. -/
def TaskManager.onRun (tm : TaskManager) : TaskManager :=
  let tm := { tm with runPending := false }
  if tm.shutdownClosed then { tm with shutdownOn := true }
  else if tm.closed then tm
  else
    { tm with cancel := some tm.nextOp, updated := false, ops := tm.ops ++ [(tm.nextOp, .running)],
              nextOp := tm.nextOp + 1 }

/-- The `err := <-errs` branch: `cancel` cleared, then a re-dispatch
unless shut down, a no-op without an update, or a retry, which arms the
timer instead. -/
def TaskManager.onErr (tm : TaskManager) (err : OpErr) : TaskManager :=
  let tm := { tm with cancel := none }
  if tm.shutdownClosed then { tm with shutdownOn := true }
  else
    match err with
    | .taskNoop => if !tm.updated then tm else tm.pump
    | .taskRetry => { tm with timersPending := tm.timersPending + 1 }
    | _ => tm.pump

/-- The `task := <-tm.updateq` branch: a task equal but for its status,
or of a lower desired state, is ignored; else it is taken, and the
operation of `cancel` cancelled, or `run` pumped when there is none. -/
def TaskManager.onUpdate (tm : TaskManager) (task : TaskView) : TaskManager :=
  if task = tm.task then tm
  else if task.id ≠ tm.task.id then tm
  else if task.desiredState.rank < tm.task.desiredState.rank then tm
  else
    let tm := { tm with task, updated := true }
    match tm.cancel with
    | some _ => tm
    | none => tm.pump

/-- The `<-shutdown` branch: cancel the operation and wait for it, or,
with `cancel` nil, turn everything off and close `tm.closed`. -/
def TaskManager.onShutdown (tm : TaskManager) : TaskManager :=
  match tm.cancel with
  | some _ => { tm with shutdownOn := false }
  | none => { tm with statusqOn := false, errsOn := false, shutdownOn := false, closed := true }

-- =========================== steps

/-- A branch of the loop, a goroutine's step, or a caller. -/
inductive Act
  | run
  /-- `<-errs` takes this operation's error. -/
  | errsFromOp (op : Nat)
  /-- `<-errs` takes a retry timer's nil. -/
  | errsFromTimer
  /-- `<-statusq` takes this operation's status. -/
  | statusq (op : Nat)
  /-- `Update`, handed over on `updateq`. -/
  | update (task : TaskView)
  | shutdown
  /-- `<-tm.closed`: `run` returns. -/
  | closedBranch
  /-- `Close`: `tm.shutdown` closed. -/
  | close
  /-- `Close` returns at `<-tm.closed`. -/
  | closeReturns
  /-- An operation's `exec.Do` returns. -/
  | finish (op : Nat) (status : Option TaskState) (err : OpErr)
  /-- An operation's `statusqLocal <- status` gives up at `ctx.Done()`. -/
  | statusCtxDone (op : Nat)
  /-- `runctx` returns at `<-closed` or `<-ctx.Done()`. -/
  | opExit (op : Nat)
  /-- A retry timer goes off. -/
  | fire

/-- One step; `none` when it is not enabled. -/
def step : Act → TaskManager → Option TaskManager
  | .run, tm => if !tm.exited ∧ tm.runPending then some tm.onRun else none
  | .errsFromOp op, tm =>
    match tm.phase op with
    | some (.returning err) =>
      if !tm.exited ∧ tm.errsOn then some ((tm.setPhase op none).onErr err) else none
    | _ => none
  | .errsFromTimer, tm =>
    if !tm.exited ∧ tm.errsOn ∧ 0 < tm.timersFired then
      some ({ tm with timersFired := tm.timersFired - 1 }.onErr .ok)
    else none
  | .statusq op, tm =>
    match tm.phase op with
    | some (.sendingStatus status err) =>
      if !tm.exited ∧ tm.statusqOn then
        some { tm.setPhase op (some (.returning err)) with status, reported := tm.reported ++ [status] }
      else none
    | _ => none
  | .update task, tm =>
    -- handed over while the loop runs; otherwise `Update` returns at `<-tm.closed` or `ctx.Done()`
    if !tm.exited then some (tm.onUpdate task) else none
  | .shutdown, tm => if !tm.exited ∧ tm.shutdownOn ∧ tm.shutdownClosed then some tm.onShutdown else none
  | .closedBranch, tm => if !tm.exited ∧ tm.closed then some { tm with exited := true } else none
  | .close, tm => some { tm with shutdownClosed := true }
  | .closeReturns, tm => if tm.shutdownClosed ∧ tm.closed then some { tm with closeReturned := true } else none
  | .finish op status err, tm =>
    match tm.phase op with
    | some .running =>
      match status with
      | some status => some (tm.setPhase op (some (.sendingStatus status err)))
      | none => some (tm.setPhase op (some (.returning err)))
    | _ => none
  | .statusCtxDone op, tm =>
    match tm.phase op with
    | some (.sendingStatus status err) =>
      if tm.exited then some { tm.setPhase op (some (.returning err)) with reported := tm.reported ++ [status] }
      else none
    | _ => none
  | .opExit op, tm =>
    match tm.phase op with
    | some (.returning _) => if tm.closed ∨ tm.exited then some (tm.setPhase op none) else none
    | _ => none
  | .fire, tm =>
    if 0 < tm.timersPending then
      some { tm with timersPending := tm.timersPending - 1, timersFired := tm.timersFired + 1 }
    else none

end SwarmKit.Agent.Task

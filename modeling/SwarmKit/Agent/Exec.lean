import SwarmKit.Scheduler.Scheduler
import SwarmKit.Lib.Lts

/-
How the agent moves a task through its states (agent/exec/controller.go
`Resolve` and `Do`; agent/exec/errors.go).

# One operation a call

`Do` looks at the task's desired state and the state of its status and
performs at most one controller operation: `Shutdown` once the task is
desired at or past SHUTDOWN and has not completed; otherwise, unless
the state is past the desired one, `Prepare`, `Start` or `Wait` from
PREPARING, STARTING or RUNNING, which may go past the desired state;
otherwise, below the desired state, a move with no operation (to
ACCEPTED, PREPARING or STARTING). A failed operation goes through
`fatal`: a cancelled context or a temporary error asks for a retry, any
other error rejects a task that has not started and fails one that has.
`Resolve` gets the controller: a task it cannot get one for is rejected
before STARTING and failed up to RUNNING; one below ACCEPTED is
accepted.

# The deferred functions

Two functions run as `Do` returns, the later registered first. For a
status at or past STARTING the first collects the container status (the
failing error's, the controller's, or a copy of the task's), sets the
exit code a failure reported, and then the port status. The second
stamps the status with the time when it differs from the task's but for
its timestamp.

# Calls in turn

The task manager (agent/task.go `run`) calls `Do` again and again on its
copy of the task, puts the status each call returns back on it
(`tm.task.Status = *status`), and takes the desired state from the
updates it accepts between calls. `calls` is that loop seen from the
task: what each call is given, and what it returns.

# Reading the source

An error is what `Do` asks of it: the two sentinel errors, or any other
with its text, whether its cause is a done context, whether it is
temporary, and what it answers as an `ExitCoder` and a
`ContainerStatuser`. A controller is what each of its calls returns;
`Do` makes one call of each kind at most. A panic is `none`: `transition`
panics on a move to a lower state, and `fatal` on a nil error, which
`Do` never passes it. `AppliedBy` and `AppliedAt` of the status are
copied and compared unchanged, and left out.
-/

namespace SwarmKit.Agent.Exec

open SwarmKit.Scheduler (TaskState)

-- ====================== the status

/-- `api.ContainerStatus`. -/
structure ContainerStatus where
  containerID : String
  pid : Int32
  exitCode : Int32
  deriving DecidableEq, Repr

/-- `new(api.ContainerStatus)`. -/
def ContainerStatus.empty : ContainerStatus := ⟨"", 0, 0⟩

/-- `api.PortStatus`: the ports the controller publishes. -/
structure PortStatus where
  ports : List Nat
  deriving DecidableEq, Repr

/-- `api.TaskStatus`; the container status is the one kind of
`RuntimeStatus`. -/
structure TaskStatus where
  timestamp : Option Int
  state : TaskState
  message : String
  err : String
  container : Option ContainerStatus
  portStatus : Option PortStatus
  deriving DecidableEq, Repr

/-- What `Do` and `Resolve` read of an `api.Task`. -/
structure Task where
  desiredState : TaskState
  status : TaskStatus
  deriving DecidableEq, Repr

-- ====================== the errors

/-- An error a controller operation returns. -/
inductive OpError
  /-- `ErrTaskPrepared` -/
  | taskPrepared
  /-- `ErrTaskStarted` -/
  | taskStarted
  /-- Another error: its text, whether `errors.Cause` of it is
  `context.Canceled` or `context.DeadlineExceeded`, whether `IsTemporary`
  holds of it, its exit code if it is an `ExitCoder`, and what its
  `ContainerStatus` returns if it is a `ContainerStatuser`. -/
  | other (text : String) (contextDone temporary : Bool) (exitCode : Option Int)
      (containerStatus : Option (Option ContainerStatus))
  deriving DecidableEq, Repr

/-- `err.Error()`. -/
def OpError.text : OpError → String
  | .taskPrepared => "exec: task already prepared"
  | .taskStarted => "exec: task already started"
  | .other text .. => text

def OpError.contextDone : OpError → Bool
  | .other _ contextDone .. => contextDone
  | _ => false

/-- `IsTemporary(err)`. -/
def OpError.temporary : OpError → Bool
  | .other _ _ temporary .. => temporary
  | _ => false

def OpError.exitCode : OpError → Option Int
  | .other _ _ _ exitCode _ => exitCode
  | _ => none

def OpError.containerStatus : OpError → Option (Option ContainerStatus)
  | .other _ _ _ _ containerStatus => containerStatus
  | _ => none

/-- What each call of a controller returns: `none` for a nil error. Of
`ContainerStatus` and `PortStatus`, `none` when the controller does not
implement the interface, else the pointer the call returns. -/
structure Controller where
  prepare : Option OpError
  start : Option OpError
  wait : Option OpError
  shutdown : Option OpError
  containerStatus : Option (Option ContainerStatus)
  portStatus : Option (Option PortStatus)
  deriving DecidableEq, Repr

/-- The errors `Do` returns. -/
inductive DoErr
  /-- `ErrTaskNoop` -/
  | taskNoop
  /-- `ErrTaskRetry` -/
  | taskRetry
  deriving DecidableEq, Repr

-- ========================= Resolve

/-- `Resolve(ctx, task, executor)`, given what `executor.Controller(task)`
returns: the controller, or the text of its error. -/
def resolve (task : Task) (controller : Except String Controller) :
    Option Controller × TaskStatus × Option String :=
  let status := task.status
  match controller with
  | .error err =>
    let status := { status with message := "resolving controller failed", err }
    if task.status.state.rank < TaskState.starting.rank then
      (none, { status with state := .rejected }, some err)
    else if task.status.state.rank ≤ TaskState.running.rank then
      (none, { status with state := .failed }, some err)
    else (none, status, some err)
  | .ok ctlr =>
    if task.status.state.rank < TaskState.accepted.rank then
      (some ctlr, { status with message := "accepted", state := .accepted, err := "" }, none)
    else (some ctlr, status, none)

-- ============================== Do

/-- What the body of `Do` leaves its deferred functions: the status, the
error it returns, and the container status and exit code `fatal` read
off a failure. -/
structure Outcome where
  status : TaskStatus
  err : Option DoErr
  containerStatus : Option ContainerStatus
  exitCode : Int
  deriving DecidableEq, Repr

/-- `noop()`: stay in the current state. -/
def noop (status : TaskStatus) : Outcome := ⟨status, some .taskNoop, none, 0⟩

/-- `transition(state, msg)`, which panics on a lower state. -/
def transition (status : TaskStatus) (state : TaskState) (msg : String) : Option Outcome :=
  if state.rank < status.state.rank then none
  else some ⟨{ status with state, message := msg, err := "" }, none, none, 0⟩

/-- `fatal(err)`. -/
def fatal (status : TaskStatus) (err : OpError) : Outcome :=
  let containerStatus := err.containerStatus.join
  let exitCode := err.exitCode.getD 0
  if err.contextDone then ⟨status, some .taskRetry, containerStatus, exitCode⟩
  else
    -- the text is kept on a retry too
    let status := { status with err := err.text }
    if err.temporary then ⟨status, some .taskRetry, containerStatus, exitCode⟩
    else
      let state := if status.state.rank < TaskState.starting.rank then TaskState.rejected else .failed
      ⟨{ status with state }, none, containerStatus, exitCode⟩

/-- The outcome of an operation that is done when it returns nil or the
sentinel `done`. -/
def proceed (status : TaskStatus) (result : Option OpError) (done : Option OpError)
    (state : TaskState) (msg : String) : Option Outcome :=
  match result with
  | some err => if some err ≠ done then some (fatal status err) else transition status state msg
  | none => transition status state msg

/-- The branch of a task desired at or past SHUTDOWN, the largest state
the agent moves a task to: a shutdown unless it has completed. -/
def stop (status : TaskStatus) (ctlr : Controller) : Option Outcome :=
  if TaskState.complete.rank ≤ status.state.rank then some (noop status)
  else
    match ctlr.shutdown with
    | some err => some (fatal status err)
    | none => transition status .shutdown "shutdown"

/-- The pause states, which move with no operation and only below the
desired state. -/
def advance (desired : TaskState) (status : TaskStatus) : Option Outcome :=
  if desired.rank ≤ status.state.rank then some (noop status)
  else
    match status.state with
    | .new | .pending | .assigned => transition status .accepted "accepted"
    | .accepted => transition status .preparing "preparing"
    | .ready => transition status .starting "starting"
    | _ => some (noop status)

/-- The body of `Do`, up to its `return`. -/
def body (task : Task) (ctlr : Controller) : Option Outcome :=
  if TaskState.shutdown.rank ≤ task.desiredState.rank then stop task.status ctlr
  else if task.desiredState.rank < task.status.state.rank then some (noop task.status)
  else
    -- these states may proceed past the desired state
    match task.status.state with
    | .preparing => proceed task.status ctlr.prepare (some .taskPrepared) .ready "prepared"
    | .starting => proceed task.status ctlr.start (some .taskStarted) .running "started"
    | .running => proceed task.status ctlr.wait none .complete "finished"
    | _ => advance task.desiredState task.status

/-- The deferred collection of the container and port status, for a
status at or past STARTING. -/
def collectStatus (task : Task) (ctlr : Controller) (o : Outcome) : TaskStatus :=
  if o.status.state.rank < TaskState.starting.rank then o.status
  else
    let containerStatus : Option ContainerStatus :=
      match o.containerStatus with
      | some cs => some cs
      | none =>
        match ctlr.containerStatus with
        | none => none
        | some (some cs) => some cs
        | some none => some (task.status.container.getD .empty)
    match containerStatus with
    -- a controller that is no `ContainerStatuser` ends the function here
    | none => o.status
    | some cs =>
      let cs := if o.exitCode ≠ 0 then { cs with exitCode := o.exitCode.toInt32 } else cs
      let status := { o.status with container := some cs }
      match ctlr.portStatus with
      | none => status
      | some ps => { status with portStatus := ps }

/-- The deferred timestamp: `now` when the status differs from the
task's but for the timestamp. -/
def stamp (now : Int) (task : Task) (status : TaskStatus) : TaskStatus :=
  if { status with timestamp := none } = { task.status with timestamp := none } then status
  else { status with timestamp := some now }

/-- `Do(ctx, task, ctlr)` at the time `now`: the status to report and the
error, `none` when it panics. -/
def execDo (now : Int) (task : Task) (ctlr : Controller) : Option (TaskStatus × Option DoErr) :=
  (body task ctlr).map fun o => (stamp now task (collectStatus task ctlr o), o.err)

-- =================== calls in turn

/-- One call of `Do` by the task manager: its time, the desired state the
task has then, and what the controller answers. -/
structure Call where
  now : Int
  desired : TaskState
  ctlr : Controller
  deriving DecidableEq, Repr

/-- A call on the task manager's task: `Do` with the call's desired
state, the status it returns put back on the task. -/
def callStep (c : Call) (task : Task) : Option (Task × Option DoErr) :=
  (execDo c.now { task with desiredState := c.desired } c.ctlr).map fun r =>
    ({ task with desiredState := c.desired, status := r.1 }, r.2)

/-- Calls one after another: the task at the end, and the error each call
returned. -/
def calls (task : Task) (cs : List Call) : Option (Task × List (Option DoErr)) :=
  Lts.runOut callStep task cs

end SwarmKit.Agent.Exec

import Mathlib.Data.List.AList
import SwarmKit.Scheduler.Scheduler

/-
The agent's worker (agent/worker.go `worker`: `Init`, `Assign`,
`Update`, `reconcileTaskState`, `startTask`, `taskManager`,
`newTaskManager`, `updateTaskStatus`; agent/storage.go; agent/exec/
controller.go `Resolve`).

# The database and the task managers

The worker keeps one bucket per task in its database: the task with its
status blanked, the task's status, and a mark that it is assigned. Next
to it, in memory, a task manager per task it runs. A full assignment
set (`Assign`) stores and marks each task of the set and starts a
manager for each that has none, then removes the tasks of the managers
it did not assign; an incremental one (`Update`) stores the updated
tasks the same way and removes the removed ones. Starting a manager
resolves the task's controller first, and the executor may refuse it:
the task is then stored, assigned, with a rejected or failed status,
and no manager. `Init`, on a new worker over the same database, starts
a manager for every task stored as assigned.

# Reading the source

Each call is one step, and a call that fails is no step (what a failing
call leaves behind is not modelled). The calls to the managers themselves (their
`Update` and `Close`, the controller's `Remove`) are not modelled: the
map's keys are. Whether the executor resolves a task's controller is the
environment's choice, one per task and call. The map is iterated in any
order; nothing here depends on it.
-/

namespace SwarmKit.Agent.Assignments

open SwarmKit.Scheduler (TaskState)

-- ========================= storage

/-- What the worker reads of an `api.Task`. -/
structure AgentTask where
  id : Nat
  desiredState : TaskState
  status : TaskState
  deriving DecidableEq, Repr

/-- A task's bucket: the task as `PutTask` stores it, its status, and
whether it is assigned. -/
structure TaskBucket where
  data : AgentTask
  status : Option TaskState
  assigned : Bool
  deriving DecidableEq, Repr

inductive WorkerError
  /-- `ErrClosed`. -/
  | closed
  /-- `errTaskUnknown`: no bucket, or no status in it. -/
  | taskUnknown
  /-- bolt's `ErrBucketNotFound`. -/
  | bucketNotFound
  deriving DecidableEq, Repr

/-- The tasks bucket, by task ID. -/
abbrev TaskDb := AList fun _ : Nat => TaskBucket

/-- `PutTask`: the bucket is created if missing, and the task put in it
with a blank status; the status and the mark stay. -/
def putTask (db : TaskDb) (task : AgentTask) : TaskDb :=
  let data := { task with status := .new }
  match db.lookup task.id with
  | some bkt => db.insert task.id { bkt with data }
  | none => db.insert task.id ⟨data, none, false⟩

def putTaskStatus (db : TaskDb) (id : Nat) (status : TaskState) : Except WorkerError TaskDb :=
  match db.lookup id with
  | some bkt => .ok (db.insert id { bkt with status := some status })
  | none => .error .taskUnknown

def setTaskAssignment (db : TaskDb) (id : Nat) (assigned : Bool) : Except WorkerError TaskDb :=
  match db.lookup id with
  | some bkt => .ok (db.insert id { bkt with assigned })
  | none => .error .taskUnknown

def getTaskStatus (db : TaskDb) (id : Nat) : Except WorkerError TaskState :=
  match db.lookup id with
  | some ⟨_, some status, _⟩ => .ok status
  | _ => .error .taskUnknown

def taskAssigned (db : TaskDb) (id : Nat) : Bool :=
  match db.lookup id with
  | some bkt => bkt.assigned
  | none => false

/-- `DeleteTask`: `DeleteBucket` fails on a task with no bucket. -/
def deleteTask (db : TaskDb) (id : Nat) : Except WorkerError TaskDb :=
  if id ∈ db then .ok (db.erase id) else .error .bucketNotFound

/-- `exec.Resolve`: the status a controller resolution leaves, when the
executor's `Controller` resolved the task or failed. -/
def resolve (task : AgentTask) (resolved : Bool) : TaskState :=
  if !resolved then
    -- "before the task has been started, we consider it a rejection"
    if task.status.rank < TaskState.starting.rank then .rejected
    else if task.status.rank ≤ TaskState.running.rank then .failed
    else task.status
  else if task.status.rank < TaskState.accepted.rank then .accepted
  else task.status

-- ========================== worker

structure Worker where
  db : TaskDb
  /-- The keys of `taskManagers`. -/
  taskManagers : List Nat
  closed : Bool

def newWorker (db : TaskDb) : Worker := ⟨db, [], false⟩

/-- `updateTaskStatus`: the status of a task already removed is
dropped. -/
def Worker.updateTaskStatus (w : Worker) (id : Nat) (status : TaskState) : Worker :=
  match putTaskStatus w.db id status with
  | .ok db => { w with db }
  | .error _ => w

/-- `startTask`, through `taskManager` and `newTaskManager`: a task with
no manager is resolved and its status stored; a manager is started only
when the controller resolved. -/
def Worker.startTask (executor : AgentTask → Bool) (w : Worker) (task : AgentTask) : Worker :=
  if task.id ∈ w.taskManagers then w
  else
    let resolved := executor task
    let w := w.updateTaskStatus task.id (resolve task resolved)
    if resolved then { w with taskManagers := task.id :: w.taskManagers } else w

inductive AssignmentAction
  | update
  | remove
  deriving DecidableEq, Repr

structure AssignmentChange where
  action : AssignmentAction
  /-- `Assignment.GetTask()`: nil for a secret, a config or a volume. -/
  task : Option AgentTask
  deriving DecidableEq, Repr

def updatedTasks (assignments : List AssignmentChange) : List AgentTask :=
  assignments.filterMap fun a => if a.action = .update then a.task else none

def removedTasks (assignments : List AssignmentChange) : List AgentTask :=
  assignments.filterMap fun a => if a.action = .remove then a.task else none

-- ======================= reconcile

/-- One task of the updated set: stored and marked assigned; its manager
takes it, or, without one, it is started from its stored status (the
given one, for a task never seen). -/
def Worker.assignTask (executor : AgentTask → Bool) (w : Worker) (task : AgentTask) :
    Except WorkerError Worker := do
  let db ← setTaskAssignment (putTask w.db task) task.id true
  let w := { w with db }
  if task.id ∈ w.taskManagers then pure w
  else
    match getTaskStatus w.db task.id with
    | .ok status => pure (w.startTask executor { task with status })
    | .error .taskUnknown => do
      let db ← putTaskStatus w.db task.id task.status
      pure ({ w with db }.startTask executor task)
    | .error e => throw e

def Worker.assignTasks (executor : AgentTask → Bool) : Worker → List AgentTask → Except WorkerError Worker
  | w, [] => pure w
  | w, task :: tasks => do
    let w ← w.assignTask executor task
    w.assignTasks executor tasks

/-- `removeTaskAssignment`, and the manager dropped: when the delete
fails, the task and its manager stay. -/
def Worker.removeTask (w : Worker) (id : Nat) : Worker :=
  match deleteTask w.db id with
  | .ok db => { w with db, taskManagers := w.taskManagers.erase id }
  | .error _ => w

/-- The full snapshot's removal: the tasks of the managers the set did
not assign. -/
def Worker.removeUnassigned (assigned : List Nat) (w : Worker) : Worker :=
  (w.taskManagers.filter fun id => id ∉ assigned).foldl Worker.removeTask w

/-- The incremental removal: the removed set. -/
def Worker.removeTasks (removed : List AgentTask) (w : Worker) : Worker :=
  (removed.map (·.id)).foldl Worker.removeTask w

def Worker.reconcileTaskState (executor : AgentTask → Bool) (w : Worker) (assignments : List AssignmentChange)
    (fullSnapshot : Bool) : Except WorkerError Worker := do
  let updated := updatedTasks assignments
  let w ← w.assignTasks executor updated
  if fullSnapshot then pure (w.removeUnassigned (updated.map (·.id)))
  else pure (w.removeTasks (removedTasks assignments))

/-- `Assign`: a full set of assignments. -/
def Worker.assign (executor : AgentTask → Bool) (w : Worker) (assignments : List AssignmentChange) :
    Except WorkerError Worker :=
  if w.closed then throw .closed else w.reconcileTaskState executor assignments true

/-- `Update`: an incremental set. -/
def Worker.update (executor : AgentTask → Bool) (w : Worker) (assignments : List AssignmentChange) :
    Except WorkerError Worker :=
  if w.closed then throw .closed else w.reconcileTaskState executor assignments false

/-- One stored task at `Init`: removed when not assigned, skipped
without a status, and otherwise started from its status. -/
def Worker.initTask (executor : AgentTask → Bool) (w : Worker) (task : AgentTask) : Worker :=
  if !taskAssigned w.db task.id then
    match deleteTask w.db task.id with
    | .ok db => { w with db }
    | .error _ => w
  else
    match getTaskStatus w.db task.id with
    | .ok status => w.startTask executor { task with status }
    | .error _ => w

/-- `Init`: `WalkTasks` over the stored tasks. -/
def Worker.init (executor : AgentTask → Bool) (w : Worker) : Worker :=
  (w.db.entries.map (·.2.data)).foldl (Worker.initTask executor) w

-- =========================== steps

inductive Act
  | assign (assignments : List AssignmentChange) (executor : AgentTask → Bool)
  | update (assignments : List AssignmentChange) (executor : AgentTask → Bool)
  | close
  /-- The agent restarts: a new worker over the same database, and
  `Init`. -/
  | restart (executor : AgentTask → Bool)

/-- One successful call; `none` when the call fails. -/
def step : Act → Worker → Option Worker
  | .assign assignments executor, w => (w.assign executor assignments).toOption
  | .update assignments executor, w => (w.update executor assignments).toOption
  | .close, w => some { w with closed := true }
  | .restart executor, w => some ((newWorker w.db).init executor)

end SwarmKit.Agent.Assignments

import SwarmKit.Orchestrator.Restart
import SwarmKit.Lib.Lts

/-
The jobs orchestrator (manager/orchestrator/jobs: orchestrator.go
`handleEvent`; replicated/reconciler.go and global/reconciler.go
`ReconcileService`).

# Reconciling a job

Both reconcilers read the service and its tasks, sort the tasks of the
current job iteration into those that hold a slot (replicated) or a
node (global) and those to hand to `Restart`, mark the tasks of older
iterations for removal, and then run one `store.Batch`: create the
missing tasks, restart the failed ones, remove the old ones. A task
holds its slot or node while its desired state is at most `Completed`;
the replicated reconciler also counts a task whose observed state is
`Completed`. `Restart` shuts the failed task down, so once it declines
to replace it, nothing holds the slot or node any more.

The replicated reconciler counts in `uint64`, as the source does, so its
subtractions wrap; the source guards the result against the wrap.

# The batch

Each step of the batch is a `batch.Update`; the first error ends the
callback, and `MemoryStore.Batch` then aborts the transaction. The
batches here stay below `MaxChangesPerTransaction`, so nothing of them
was committed by then: the store is left as it was, while what `Restart`
did to the supervisor's memory stays.

# The run

The world is the store's tables and the supervisor. Its steps are the
calls the orchestrator makes on events (`ReconcileService`), status
updates the agents report, the end of a delayed start, a pending
`waitRestart`, and service updates that keep the job iteration; which
of them happens next is the environment's choice. Placement constraints
are a predicate `nodeMatches` the reconciler is given.
-/

namespace SwarmKit.Orchestrator.Jobs

open SwarmKit.Scheduler (TaskState)
open SwarmKit.Scheduler.Fit (Node)
open SwarmKit.Store (Err)

-- ========================= batches

/-- One `batch.Update` of a reconciler: the tables and supervisor
afterwards, and the error. -/
abbrev Update := Store → Supervisor → (Store × Supervisor) × Option RestartErr

/-- The updates of a batch callback in order, up to the first error. -/
def batchLoop : List Update → Store → Supervisor → (Store × Supervisor) × Option RestartErr
  | [], st, s => ((st, s), none)
  | u :: us, st, s =>
    match u st s with
    | ((st', s'), none) => batchLoop us st' s'
    | (r, some e) => (r, some e)

/-- `store.Batch(cb)`: on an error the store is left as it was. -/
def batch (us : List Update) (st : Store) (s : Supervisor) :
    (Store × Supervisor) × Option RestartErr :=
  match batchLoop us st s with
  | ((st', s'), none) => ((st', s'), none)
  | ((_, s'), some e) => ((st, s'), some e)

/-- A store write as a batch update. -/
def write (w : Except Err Store) (st : Store) (s : Supervisor) :
    (Store × Supervisor) × Option RestartErr :=
  match w with
  | .ok st' => ((st', s), none)
  | .error e => ((st, s), some (.store e))

/-- The restart step of both reconcilers for one task ID: the task as the
transaction sees it, restarted unless it is gone or already shut down. -/
def restartUpdate (service : Service) (now : Int) (taskID : Nat) : Update := fun st s =>
  match st.getTask taskID with
  | none => ((st, s), none)
  | some t =>
    if t.desiredState.rank > TaskState.complete.rank then ((st, s), none)
    else restart service t now st s

/-- The removal step of both reconcilers for one task ID of an older
iteration. -/
def removeUpdate (taskID : Nat) : Update := fun st s =>
  match st.getTask taskID with
  | none => ((st, s), none)
  | some t =>
    if t.desiredState = .remove then ((st, s), none)
    else write (st.updateTask { t with desiredState := .remove }) st s

/-- The creation step of both reconcilers: a new task of the current
iteration, desired to complete, in `slot` on `nodeID`. -/
def createUpdate (service : Service) (now : Int) (slot nodeID : Nat) : Update := fun st s =>
  let (id, st) := st.newID
  let task := { newTask service slot nodeID id now with
    jobIteration := some service.jobIteration, desiredState := .complete }
  write (st.createTask task) st s

/-- The errors of `ReconcileService`. -/
inductive ReconcileErr
  /-- "uint64 underflow, we're not going to create %v tasks" -/
  | underflow (actualNewTasks : UInt64)
  | batch (e : RestartErr)
  deriving DecidableEq, Repr

-- ================= replicated jobs

/-- What the counting loop of the replicated job reconciler gathers. -/
structure ReplicatedCount where
  runningTasks : UInt64
  completeTasks : UInt64
  restartTasks : List Nat
  removeTasks : List Nat
  /-- The slot numbers marked in `slots`. -/
  slots : List Nat
  deriving DecidableEq, Repr

/-- One task of the counting loop. -/
def countReplicated (jobVersion : Nat) (c : ReplicatedCount) (task : Task) : ReplicatedCount :=
  match task.jobIteration with
  | none => c
  | some it =>
    if it = jobVersion then
      let c := if task.state = .complete then
        { c with completeTasks := c.completeTasks + 1, slots := c.slots ++ [task.slot] } else c
      if task.state ≠ .complete ∧ task.desiredState.rank ≤ TaskState.complete.rank then
        { c with
          runningTasks := c.runningTasks + 1, slots := c.slots ++ [task.slot],
          restartTasks :=
            if task.state.rank > TaskState.complete.rank then c.restartTasks ++ [task.id]
            else c.restartTasks }
      else c
    else if task.state.rank ≤ TaskState.running.rank ∧ task.desiredState ≠ .remove then
      { c with removeTasks := c.removeTasks ++ [task.id] }
    else c

/-- The slots the creation loop picks for `n` new tasks: the first slot
below `totalCompletions` not marked yet, which is then marked, or slot 0
when every one is marked. -/
def chooseSlots (totalCompletions : Nat) : Nat → List Nat → List Nat
  | 0, _ => []
  | n + 1, slots =>
    match (List.range totalCompletions).find? (· ∉ slots) with
    | some slot => slot :: chooseSlots totalCompletions n (slots ++ [slot])
    | none => 0 :: chooseSlots totalCompletions n slots

/-- How many tasks the replicated job reconciler creates: the smaller of
the room under `MaxConcurrent` and under `TotalCompletions`. -/
def actualNewTasks (maxConcurrent totalCompletions : UInt64) (c : ReplicatedCount) : UInt64 :=
  let possibleNewTasks := maxConcurrent - c.runningTasks
  let allowedNewTasks := totalCompletions - c.completeTasks - c.runningTasks
  if possibleNewTasks < allowedNewTasks then possibleNewTasks else allowedNewTasks

/-- The replicated job reconciler's work on a service it has read. -/
def reconcileReplicatedJob (service : Service) (maxConcurrent totalCompletions : UInt64)
    (now : Int) (st : Store) (s : Supervisor) : (Store × Supervisor) × Option ReconcileErr :=
  let c := (st.findTasksByService service.id).foldl
    (countReplicated service.jobIteration) ⟨0, 0, [], [], []⟩
  let n := actualNewTasks maxConcurrent totalCompletions c
  if n > totalCompletions then ((st, s), some (.underflow n))
  else
    let creates := (chooseSlots totalCompletions.toNat n.toNat c.slots).map fun slot =>
      createUpdate service now slot 0
    let (r, e) := batch (creates ++ c.restartTasks.map (restartUpdate service now) ++
      c.removeTasks.map removeUpdate) st s
    (r, e.map .batch)

-- ===================== global jobs

/-- What the counting loop of the global job reconciler gathers. -/
structure GlobalCount where
  /-- `nodeToTask`: the last task of the iteration seen on each node. -/
  nodeToTask : Table Nat
  restartTasks : List Nat
  removeTasks : List Nat

/-- One task of the counting loop. -/
def countGlobal (jobVersion : Nat) (c : GlobalCount) (task : Task) : GlobalCount :=
  match task.jobIteration with
  | none => c
  | some it =>
    let c := if it = jobVersion ∧ task.desiredState.rank ≤ TaskState.complete.rank then
      { c with
        restartTasks :=
          if task.state.rank > TaskState.complete.rank then c.restartTasks ++ [task.id]
          else c.restartTasks,
        nodeToTask := c.nodeToTask.insert task.nodeID task.id }
      else c
    if it ≠ jobVersion ∧ task.desiredState ≠ .remove then
      { c with removeTasks := c.removeTasks ++ [task.id] }
    else c

/-- The nodes a global job should run on, and the invalid ones among
those its constraints match. -/
def sortNodes (nodeMatches : Node → Bool) (nodes : List Node) : List Nat × List Nat :=
  nodes.foldl (fun (candidates, invalid) node =>
    if !nodeMatches node then (candidates, invalid)
    else if invalidNode (some node) then (candidates, invalid ++ [node.id])
    else if node.availability ≠ .active then (candidates, invalid)
    else if node.state ≠ .ready then (candidates, invalid)
    else (candidates ++ [node.id], invalid)) ([], [])

/-- The last step of the global job reconciler for an invalid node: its
task is shut down unless it is already desired complete and done. -/
def shutdownUpdate (nodeToTask : Table Nat) (nodeID : Nat) : Update := fun st s =>
  match nodeToTask.lookup nodeID with
  | none => ((st, s), none)
  | some taskID =>
    match st.getTask taskID with
    | none => ((st, s), none)
    | some t =>
      if t.desiredState.rank > TaskState.complete.rank ∨ t.state.rank ≤ TaskState.running.rank then
        write (st.updateTask { t with desiredState := .shutdown }) st s
      else ((st, s), none)

/-- The global job reconciler's work on a service it has read. -/
def reconcileGlobalJob (nodeMatches : Service → Node → Bool) (service : Service) (now : Int)
    (st : Store) (s : Supervisor) : (Store × Supervisor) × Option ReconcileErr :=
  let (candidates, invalid) := sortNodes (nodeMatches service) (st.nodes.entries.map (·.2))
  let c := (st.findTasksByService service.id).foldl (countGlobal service.jobIteration) ⟨∅, [], []⟩
  let creates := (candidates.filter (· ∉ c.nodeToTask)).map fun node =>
    createUpdate service now 0 node
  let (r, e) := batch (creates ++ c.restartTasks.map (restartUpdate service now) ++
    c.removeTasks.map removeUpdate ++ invalid.map (shutdownUpdate c.nodeToTask)) st s
  (r, e.map .batch)

-- ========================= the run

/-- The store's tables and the supervisor's memory. -/
structure World where
  store : Store
  sup : Supervisor

/-- What happens next. -/
inductive Act
  /-- `ReconcileService` of a service, as `handleEvent` calls it. -/
  | reconcile (serviceID : Nat) (now : Int)
  /-- An agent's status update reaches the store. -/
  | setState (taskID : Nat) (state : TaskState)
  /-- A delayed start's goroutine ends. -/
  | finishDelay (taskID : Nat)
  /-- A `waitRestart` goroutine whose delay has ended runs. -/
  | waitRestart (taskID : Nat) (now : Int)
  /-- A service update that keeps the job iteration. -/
  | updateService (service : Service)

/-- `ReconcileService(id)`, dispatched on the service's mode as
`handleEvent` does. -/
def reconcileService (nodeMatches : Service → Node → Bool) (id : Nat) (now : Int) (w : World) :
    World :=
  match w.store.services.lookup id with
  | none => w
  | some service =>
    match service.mode with
    | .replicatedJob mc tc =>
      let ((st, s), _) := reconcileReplicatedJob service mc tc now w.store w.sup
      ⟨st, s⟩
    | .globalJob =>
      let ((st, s), _) := reconcileGlobalJob nodeMatches service now w.store w.sup
      ⟨st, s⟩
    | _ => w

/-- `waitRestart(ctx, oldDelay, cluster, taskID)` once its delay is over:
in a store update, the task, if it still exists and is desired at most
running, is restarted; an error aborts the update. -/
def waitRestart (taskID : Nat) (now : Int) (w : World) : World :=
  let s := { w.sup with waiting := w.sup.waiting.erase taskID }
  match w.store.getTask taskID with
  | none => { w with sup := s }
  | some t =>
    if t.desiredState.rank > TaskState.running.rank then { w with sup := s }
    else
      match w.store.services.lookup t.serviceID with
      | none => { w with sup := s }
      | some service =>
        match restart service t now w.store s with
        | ((st, s'), none) => ⟨st, s'⟩
        | ((_, s'), some _) => { w with sup := s' }

/-- One step of the jobs orchestrator's world. -/
def step (nodeMatches : Service → Node → Bool) : Act → World → Option World
  | .reconcile id now, w => some (reconcileService nodeMatches id now w)
  | .setState taskID state, w =>
    match w.store.getTask taskID with
    | none => none
    | some t =>
      match w.store.updateTask { t with state := state } with
      | .ok st => some { w with store := st }
      | .error _ => none
  | .finishDelay taskID, w =>
    if taskID ∈ w.sup.delays then
      let (st, s) := finishDelay taskID w.store w.sup
      some ⟨st, s⟩
    else none
  | .waitRestart taskID now, w =>
    if taskID ∈ w.sup.waiting ∧ taskID ∉ w.sup.delays then some (waitRestart taskID now w)
    else none
  | .updateService service, w =>
    match w.store.services.lookup service.id with
    | some old =>
      if old.jobIteration = service.jobIteration then
        some { w with store := { w.store with services := w.store.services.insert service.id service } }
      else none
    | none => none

end SwarmKit.Orchestrator.Jobs

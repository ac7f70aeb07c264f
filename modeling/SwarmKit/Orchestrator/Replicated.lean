import SwarmKit.Orchestrator.Restart
import SwarmKit.Lib.Lts

/-
The replicated orchestrator (manager/orchestrator/replicated:
replicated.go `Run`, `tick`; tasks.go `handleTaskEvent`, `tickTasks`,
`restartTasksByNodeID`, `handleNodeChange`, `handleTaskChange`;
services.go `handleServiceEvent`, `tickServices`, `reconcile`,
`addTasks`, `setTasksDesiredState`, `deleteTasksMap`; slot.go
`updatableAndDeadSlots` and its sort orders; restart/restart.go
`UpdatableTasksInSlot`, `waitRestart`).

# Events and ticks

The orchestrator acts only on the events of its watch queue. A task or
node event may put a task into `restartTasks`; a service event, or the
deletion of a task that was to run, puts the service into
`reconcileServices`. On `EventCommit` it ticks: `tickTasks` restarts the
tasks of `restartTasks` in one `Batch`, and `tickServices` reconciles
each service of `reconcileServices` in a `Batch` of its own. Either
empties its map afterwards, whatever became of the batches.

# Transactions

A batch that commits writes the store and publishes one event per task
it created, updated or deleted, then `EventCommit`; one that is refused
(a failed proposal, a lost leadership) writes nothing and publishes
nothing. Whether each batch commits is the environment's choice. An
error of one `batch.Update` in `tickTasks` is logged: what it wrote
before the error stays in the transaction, and the loop goes on. Task
IDs are random in the source; here they come from the store's counter,
which a refused transaction still advances, so no ID is handed out
twice.

# Left out

The updater: the service updates here change the replica count only, so
no task is ever dirty and `updater.Update` has nothing to do; likewise
no rollback is in progress. Service deletion, the cluster object, and
the task reaper, which acts on a slot only after a task was created in
it.
-/

namespace SwarmKit.Orchestrator.Replicated

open SwarmKit.Scheduler (TaskState)
open SwarmKit.Scheduler.Fit (Node)

-- ========================== events

/-- The store events the orchestrator's handlers look at. -/
inductive Event
  | createTask (t : Task)
  | updateTask (t : Task)
  | deleteTask (t : Task)
  | createNode (n : Node)
  | updateNode (n : Node)
  | deleteNode (n : Node)
  | createService (s : Service)
  | updateService (s : Service)
  | commit
  deriving DecidableEq, Repr

/-- The events of a committed transaction that took the task table from
`old` to `new`: the tasks created or updated, in the table's order, the
tasks deleted, and `EventCommit`; nothing if no task changed. -/
def commitEvents (old new : Table Task) : List Event :=
  let changes :=
    new.entries.filterMap (fun e =>
      match old.lookup e.1 with
      | none => some (.createTask e.2)
      | some x => if x = e.2 then none else some (.updateTask e.2)) ++
    old.entries.filterMap (fun e => if e.1 ∈ new then none else some (.deleteTask e.2))
  if changes.isEmpty then [] else changes ++ [.commit]

-- ======================= the world

/-- The store, the restart supervisor, and the orchestrator's memory. -/
structure World where
  store : Store
  sup : Supervisor
  /-- The events published and not handled yet. -/
  queue : List Event
  /-- `r.restartTasks`. -/
  restartTasks : List Nat
  /-- `r.reconcileServices`. -/
  reconcileServices : Table Service

namespace World

/-- The end of a batch that wrote `st`: committed, or refused. -/
def commit (ok : Bool) (st : Store) (w : World) : World :=
  if ok then { w with store := st, queue := w.queue ++ commitEvents w.store.tasks st.tasks }
  else { w with store := { w.store with nextID := st.nextID } }

/-- A committed change to nodes or services by another component. -/
def publish (st : Store) (ev : Event) (w : World) : World :=
  { w with store := st, queue := w.queue ++ [ev, .commit] }

/-- A committed write of one task by another component. -/
def writeTask (t : Task) (w : World) : World :=
  w.commit true { w.store with tasks := w.store.tasks.insert t.id t }

end World

-- ===================== task events

/-- `IsReplicatedService` of a service that may be missing. -/
def isReplicated : Option Service → Bool
  | some s => s.isReplicatedService
  | none => false

/-- `restartTasksByNodeID(nodeID)`: every task on the node desired at
most running, of a replicated service, is to be restarted. -/
def restartTasksByNodeID (nodeID : Nat) (w : World) : World :=
  let ids := ((w.store.tasks.entries.map (·.2)).filter fun t =>
      t.nodeID = nodeID ∧ t.desiredState.rank ≤ TaskState.running.rank ∧
        isReplicated (w.store.services.lookup t.serviceID)).map (·.id)
  { w with restartTasks := ids.foldl (fun acc id => acc.insert id) w.restartTasks }

/-- `handleNodeChange(n)`: a node gone invalid has its tasks restarted. -/
def handleNodeChange (n : Node) (w : World) : World :=
  if invalidNode (some n) then restartTasksByNodeID n.id w else w

/-- `handleTaskChange(t)`: a task desired at most running, of a
replicated service, that has stopped or whose node is invalid is to be
restarted. -/
def handleTaskChange (t : Task) (w : World) : World :=
  if t.desiredState.rank > TaskState.running.rank then w
  else
    let n := if t.nodeID ≠ 0 then w.store.nodes.lookup t.nodeID else none
    let service := if t.serviceID ≠ 0 then w.store.services.lookup t.serviceID else none
    if !isReplicated service then w
    else if t.state.rank > TaskState.running.rank ∨ (t.nodeID ≠ 0 ∧ invalidNode n) then
      { w with restartTasks := w.restartTasks.insert t.id }
    else w

/-- `resolveService(task)`. -/
def resolveService (t : Task) (st : Store) : Option Service :=
  if t.serviceID = 0 then none else st.services.lookup t.serviceID

/-- `restarts.Cancel(taskID)`: the delayed start is cancelled, and its
goroutine takes it out of the map. -/
def cancel (taskID : Nat) (w : World) : World :=
  { w with sup := { w.sup with delays := w.sup.delays.erase taskID } }

/-- `handleTaskEvent(event)`. -/
def handleTaskEvent : Event → World → World
  | .deleteNode n, w => restartTasksByNodeID n.id w
  | .createNode n, w => handleNodeChange n w
  | .updateNode n, w => handleNodeChange n w
  | .deleteTask t, w =>
    if t.desiredState.rank ≤ TaskState.running.rank then
      match resolveService t w.store with
      | some s =>
        if s.isReplicatedService then
          cancel t.id { w with reconcileServices := w.reconcileServices.insert s.id s }
        else w
      | none => w
    else cancel t.id w
  | .updateTask t, w => handleTaskChange t w
  | .createTask t, w => handleTaskChange t w
  | _, w => w

/-- `handleServiceEvent(event)`, service deletion apart. -/
def handleServiceEvent : Event → World → World
  | .createService s, w | .updateService s, w =>
    if s.isReplicatedService then
      { w with reconcileServices := w.reconcileServices.insert s.id s }
    else w
  | _, w => w

-- ======================= tickTasks

/-- The `batch.Update` of `tickTasks` for one task ID: the task as the
transaction sees it is restarted if it is desired at most running and of
a replicated service. -/
def restartUpdate (now : Int) (taskID : Nat) (st : Store) (s : Supervisor) :
    (Store × Supervisor) × Option RestartErr :=
  match st.getTask taskID with
  | none => ((st, s), none)
  | some t =>
    if t.desiredState.rank > TaskState.running.rank then ((st, s), none)
    else
      match st.services.lookup t.serviceID with
      | some service =>
        if service.isReplicatedService then restart service t now st s else ((st, s), none)
      | none => ((st, s), none)

/-- `tickTasks`' batch callback: each update in turn; an update's error
is logged, and what it wrote stays. -/
def restartAll (now : Int) : List Nat → Store → Supervisor → Store × Supervisor
  | [], st, s => (st, s)
  | id :: ids, st, s =>
    let ((st, s), _) := restartUpdate now id st s
    restartAll now ids st s

/-- `tickTasks`, with `ok` whether its batch commits. -/
def tickTasks (ok : Bool) (now : Int) (w : World) : World :=
  if w.restartTasks.isEmpty then w
  else
    let (st, s) := restartAll now w.restartTasks w.store w.sup
    { ({ w with sup := s }.commit ok st) with restartTasks := [] }

-- =========================== slots

/-- `TasksByTimestamp.Less`: a task without a time comes first. -/
def timestampLess (a b : Task) : Bool :=
  match taskTime a, taskTime b with
  | none, _ => true
  | _, none => false
  | some x, some y => decide (x < y)

/-- The newest task of a slot, as `UpdatableTasksInSlot`'s loop finds it. -/
def newestTask (newest : Task) : List Task → Task
  | [] => newest
  | t :: ts => newestTask (if timestampLess newest t then t else newest) ts

/-- `UpdatableTasksInSlot(slot, service)`, with no rollback in progress:
the tasks desired at most running; failing those, the newest task if it
is not to be restarted. -/
def updatableTasksInSlot (slot : List Task) (service : Service) (s : Supervisor) :
    List Task × Supervisor :=
  match slot with
  | [] => ([], s)
  | t :: ts =>
    let updatable := slot.filter (·.desiredState.rank ≤ TaskState.running.rank)
    if !updatable.isEmpty then (updatable, s)
    else
      let newest := newestTask t ts
      match shouldRestart newest service s with
      | (false, s) => ([newest], s)
      | (true, s) => ([], s)

/-- A slot number and its tasks. -/
abbrev Slot := Nat × List Task

/-- The loop of `updatableAndDeadSlots` over the slot numbers: the
updatable slots, with their updatable tasks, and the dead ones. -/
def sortSlots (service : Service) (tasks : List Task) :
    List Nat → Supervisor → (List Slot × List Slot) × Supervisor
  | [], s => (([], []), s)
  | n :: ns, s =>
    let slot := tasks.filter (·.slot = n)
    let (u, s) := updatableTasksInSlot slot service s
    let ((up, dead), s) := sortSlots service tasks ns s
    if u.isEmpty then ((up, (n, slot) :: dead), s) else (((n, u) :: up, dead), s)

/-- `updatableAndDeadSlots(service)`. -/
def updatableAndDeadSlots (service : Service) (st : Store) (s : Supervisor) :
    (List Slot × List Slot) × Supervisor :=
  let tasks := st.findTasksByService service.id
  sortSlots service tasks (tasks.map (·.slot)).dedup s

/-- Whether a slot has a task observed running. -/
def slotRunning (slot : Slot) : Bool := slot.2.any (·.state = .running)

/-- `slotsByRunningState.Less`: running slots first, then by slot number. -/
def runningStateLess (a b : Slot) : Bool :=
  (slotRunning a && !slotRunning b) || (slotRunning a == slotRunning b && decide (a.1 < b.1))

/-- The indices `reconcile` gives the slots in order: a slot of one task
on a node is that node's n-th copy of the service; any other slot has
none (`-1`). -/
def slotIndices (counts : Nat → Nat) : List Slot → List (Slot × Option Nat)
  | [] => []
  | slot :: rest =>
    match slot.2 with
    | [t] =>
      if t.nodeID ≠ 0 then
        let c := counts t.nodeID + 1
        (slot, some c) :: slotIndices (Function.update counts t.nodeID c) rest
      else (slot, none) :: slotIndices counts rest
    | _ => (slot, none) :: slotIndices counts rest

/-- `slotsByIndex.Less`: the slots without an index go last. -/
def indexLess : Option Nat → Option Nat → Bool
  | none, _ => false
  | some _, none => true
  | some i, some j => decide (i < j)

/-- The slots of a scale-down in the order `reconcile` keeps them from
the front: by running state, then by index. `sort.Sort` is not stable,
and `reconcileBy` takes any order it may leave; this one resolves the
ties in the order the slots come. -/
def sortForRemoval (slots : List Slot) : List Slot :=
  let byState := slots.mergeSort fun a b => !runningStateLess b a
  ((slotIndices (fun _ => 0) byState).mergeSort fun a b => !indexLess b.2 a.2).map (·.1)

-- ======================= reconcile

/-- `deleteTasksMap`: each task is deleted; a failed delete is logged. -/
def deleteTasks (ts : List Task) (st : Store) : Store :=
  ts.foldl (fun st t => { st with tasks := st.tasks.erase t.id }) st

/-- `setTasksDesiredState(slots, state)`: each task not desired past the
state gets it; a failed update is logged. -/
def setTasksDesiredState (state : TaskState) (ts : List Task) (st : Store) : Store :=
  ts.foldl (fun st t =>
    if t.desiredState.rank > state.rank then st
    else
      match st.updateTask { t with desiredState := state } with
      | .ok st' => st'
      | .error _ => st) st

/-- The loop of `addTasks` for the next slot number after `slot` that
holds no running slot. It needs at most as many steps as there are
running slots, which is the fuel it is given. -/
def nextSlot (running : List Nat) : Nat → Nat → Nat
  | 0, slot => slot + 1
  | fuel + 1, slot => if slot + 1 ∈ running then nextSlot running fuel (slot + 1) else slot + 1

/-- `addTasks(service, runningSlots, deadSlots, count)`: each new task
goes into the next free slot number, which stops being a dead slot. -/
def addTasks (service : Service) (now : Int) (running : List Nat) :
    Nat → Nat → List Slot → Store → List Slot × Store
  | 0, _, dead, st => (dead, st)
  | count + 1, slot, dead, st =>
    let slot := nextSlot running running.length slot
    let dead := dead.filter (·.1 ≠ slot)
    let (id, st) := st.newID
    let st := match st.createTask (newTask service slot 0 id now) with
      | .ok st' => st'
      | .error _ => st
    addTasks service now running count slot dead st

/-- `reconcile(service)`, with `ok` whether its batch commits and `order`
the order the two sorts leave the running slots in: scale up into free
slot numbers, scale down by marking the last slots of the order for
removal, and delete the tasks of dead slots. -/
def reconcileBy (order : List Slot → List Slot) (ok : Bool) (now : Int) (service : Service) (w : World) :
    World :=
  let ((running, dead), s) := updatableAndDeadSlots service w.store w.sup
  let w := { w with sup := s }
  match service.mode with
  | .replicated specified =>
    let numSlots := running.length
    if numSlots < specified then
      let (dead, st) := addTasks service now (running.map (·.1)) (specified - numSlots) 0 dead w.store
      w.commit ok (deleteTasks (dead.flatMap (·.2)) st)
    else if specified < numSlots then
      let st := deleteTasks (dead.flatMap (·.2)) w.store
      let remove := (order running).drop specified
      w.commit ok (setTasksDesiredState .remove (remove.flatMap (·.2)) st)
    else w.commit ok (deleteTasks (dead.flatMap (·.2)) w.store)
  | _ => w

/-- `reconcile(service)`, its ties resolved by `sortForRemoval`. -/
def reconcile (ok : Bool) (now : Int) (service : Service) (w : World) : World :=
  reconcileBy sortForRemoval ok now service w

/-- `tickServices`, with `ok` whether the batch of each service commits. -/
def tickServices (ok : Nat → Bool) (now : Int) (w : World) : World :=
  let w' := w.reconcileServices.entries.foldl (fun w e => reconcile (ok e.1) now e.2 w) w
  { w' with reconcileServices := ∅ }

-- ========================= the run

/-- The event loop on the next event: `handleTaskEvent`,
`handleServiceEvent`, and on `EventCommit` a `tick`. -/
def handle (tasksOk : Bool) (servicesOk : Nat → Bool) (now : Int) (w : World) : Option World :=
  match w.queue with
  | [] => none
  | ev :: rest =>
    let w := handleServiceEvent ev (handleTaskEvent ev { w with queue := rest })
    match ev with
    | .commit => some (tickServices servicesOk now (tickTasks tasksOk now w))
    | _ => some w

/-- `waitRestart(taskID)` once the old delay is over: in a store update,
the task, if it is still there and desired at most running, is
restarted; an error aborts the update. -/
def waitRestart (taskID : Nat) (now : Int) (w : World) : World :=
  let w := { w with sup := { w.sup with waiting := w.sup.waiting.erase taskID } }
  match w.store.getTask taskID with
  | none => w
  | some t =>
    if t.desiredState.rank > TaskState.running.rank then w
    else
      match w.store.services.lookup t.serviceID with
      | none => w
      | some service =>
        match restart service t now w.store w.sup with
        | ((st, s), none) => { w with sup := s }.commit true st
        | ((_, s), some _) => { w with sup := s }

/-- What happens next. -/
inductive Act
  /-- The orchestrator handles its next event; a tick's batches commit as
  given. -/
  | handle (tasksOk : Bool) (servicesOk : Nat → Bool) (now : Int)
  /-- The scheduler and the agent bring a task desired running to
  `RUNNING` on a valid node. -/
  | run (taskID nodeID : Nat)
  /-- The agent reports a task failed. -/
  | fail (taskID : Nat)
  /-- A node is created or updated: it fails, recovers or is drained. -/
  | setNode (n : Node)
  | removeNode (nodeID : Nat)
  /-- A service is created or scaled. -/
  | setService (s : Service)
  /-- A delayed start's goroutine ends. -/
  | finishDelay (taskID : Nat)
  /-- A `waitRestart` goroutine whose delay has ended runs. -/
  | waitRestart (taskID : Nat) (now : Int)

/-- One step. -/
def step : Act → World → Option World
  | .handle tasksOk servicesOk now, w => handle tasksOk servicesOk now w
  | .run id node, w =>
    match w.store.getTask id, w.store.nodes.lookup node with
    | some t, some n =>
      if t.desiredState = .running ∧ t.state.rank < TaskState.running.rank ∧
          (t.nodeID = 0 ∨ t.nodeID = node) ∧ invalidNode (some n) = false then
        some (w.writeTask { t with nodeID := node, state := .running })
      else none
    | _, _ => none
  | .fail id, w =>
    match w.store.getTask id with
    | some t =>
      if t.state.rank ≤ TaskState.running.rank then some (w.writeTask { t with state := .failed })
      else none
    | none => none
  | .setNode n, w =>
    let ev := if n.id ∈ w.store.nodes then Event.updateNode n else .createNode n
    some (w.publish { w.store with nodes := w.store.nodes.insert n.id n } ev)
  | .removeNode id, w =>
    (w.store.nodes.lookup id).map fun n =>
      w.publish { w.store with nodes := w.store.nodes.erase id } (.deleteNode n)
  | .setService s, w =>
    let ev := if s.id ∈ w.store.services then Event.updateService s else .createService s
    some (w.publish { w.store with services := w.store.services.insert s.id s } ev)
  | .finishDelay id, w =>
    if id ∈ w.sup.delays then
      let (st, s) := finishDelay id w.store w.sup
      some ({ w with sup := s }.commit true st)
    else none
  | .waitRestart id now, w =>
    if id ∈ w.sup.waiting ∧ id ∉ w.sup.delays then some (waitRestart id now w) else none

end SwarmKit.Orchestrator.Replicated

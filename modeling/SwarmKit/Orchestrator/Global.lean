import SwarmKit.Orchestrator.Replicated
import SwarmKit.Orchestrator.Update

/-
The global orchestrator's reconciliation of one node
(manager/orchestrator/global/global.go `reconcileOneNode`,
`foreachTaskFromNode`, `shutdownTask`, `shutdownTasks`, `addTask`;
restart/restart.go `UpdatableTasksInSlot`).

# The pass

A node that is drained or down has the tasks of every global service on
it shut down; a paused node is left alone; a node the orchestrator does
not know is left alone. Otherwise the pass has two loops.

- The first loop walks the global services. For each it appends the
  service's tasks on the node to the service's entry of a map `tasks`,
  and then filters every entry of the map again, its own and those of
  the services before it, with `UpdatableTasksInSlot` of the service
  the loop is at; an entry filtered to nothing is deleted.
- The second loop, one store batch, walks the services again. A service
  whose constraints reject the node gets nothing. When the whole map is
  empty the service gets a new task. Otherwise the service's entry is
  split into dirty and clean tasks: with no clean task a new task is
  added and the dirty ones shut down; with one, every task but the first
  clean one is shut down.

# Reading the source

Go maps are ranged in no fixed order: `g.globalServices` is a list
here, and a result over every list is a result over every order. The
map `tasks` is a table by service ID, ranged over a snapshot of its
entries, which is what ranging a Go map while writing its visited keys
does. `UpdatableTasksInSlot` reads the
service's `UpdateStatus`, and `shouldRestart` prunes the restart history
it reads, so the first loop threads the supervisor through. A write of
the batch that fails is logged and changes nothing. `constraint.NodeMatches`
and `IsTaskDirty` are the predicates `nodeMatches` and `isTaskDirty`
the pass is given.
-/

namespace SwarmKit.Orchestrator.Global

open SwarmKit.Scheduler (TaskState)
open SwarmKit.Scheduler.Fit (Node)
open Update (UpdateState)

-- ======================= the state

/-- `globalService`: a service of mode global, with the state its
`UpdateStatus` reports (`none` for a nil status). -/
structure GlobalService where
  service : Service
  updateStatus : Option UpdateState
  global : service.isGlobalService = true

/-- What `reconcileOneNode` reads and writes of the orchestrator. The
services are the keys of a map, so no ID comes twice. -/
structure World where
  store : Store
  restarts : Supervisor
  /-- `g.nodes`. -/
  nodes : Table Node
  /-- `g.globalServices`, in the order a range over the map takes. -/
  globalServices : List GlobalService
  nodup : (globalServices.map (·.service.id)).Nodup

-- ================= updatable tasks

/-- `UpdatableTasksInSlot(slot, service)`: during a rollback a slot with
no task desired to run keeps nothing; otherwise as with no rollback. -/
def updatableTasksInSlot (slot : List Task) (service : GlobalService) (s : Supervisor) :
    List Task × Supervisor :=
  if service.updateStatus = some .rollbackStarted ∧
      slot.filter (·.desiredState.rank ≤ TaskState.running.rank) = [] then ([], s)
  else Replicated.updatableTasksInSlot slot service.service s

-- ====================== first loop

/-- `tasks[serviceID] = append(tasks[serviceID], t)` for the service's
tasks on the node. -/
def appendTasks (serviceID : Nat) (tasksOnNode : List Task) (tasks : Table (List Task)) :
    Table (List Task) :=
  tasksOnNode.foldl (fun tasks t =>
    if t.serviceID ≠ serviceID then tasks
    else tasks.insert serviceID ((tasks.lookup serviceID).getD [] ++ [t])) tasks

/-- The inner loop's body on one entry: the entry replaced by its
updatable tasks, or deleted when there are none. -/
def refilterSlot (service : GlobalService) (acc : Table (List Task) × Supervisor)
    (e : Σ _ : Nat, List Task) : Table (List Task) × Supervisor :=
  let (updatable, s) := updatableTasksInSlot e.2 service acc.2
  (if updatable.isEmpty then acc.1.erase e.1 else acc.1.insert e.1 updatable, s)

/-- The outer loop's body on one service. -/
def gatherService (tasksOnNode : List Task) (acc : Table (List Task) × Supervisor)
    (service : GlobalService) : Table (List Task) × Supervisor :=
  let tasks := appendTasks service.service.id tasksOnNode acc.1
  tasks.entries.foldl (refilterSlot service) (tasks, acc.2)

/-- The first loop: the map `tasks` and the supervisor it leaves. -/
def gatherTasks (tasksOnNode : List Task) (services : List GlobalService) (s : Supervisor) :
    Table (List Task) × Supervisor :=
  services.foldl (gatherService tasksOnNode) (∅, s)

-- ======================= the batch

/-- `shutdownTask`: the task read again and, unless it is already, made
desired to shut down. -/
def shutdownTask (st : Store) (t : Task) : Store :=
  match st.getTask t.id with
  | none => st
  | some t =>
    if t.desiredState.rank < TaskState.shutdown.rank then
      match st.updateTask { t with desiredState := .shutdown } with
      | .ok st' => st'
      | .error _ => st
    else st

/-- `shutdownTasks`. -/
def shutdownTasks (st : Store) (ts : List Task) : Store := ts.foldl shutdownTask st

/-- `addTask`: a new task of the service on the node, created only while
the service is in the store. -/
def addTask (now : Int) (service : Service) (nodeID : Nat) (st : Store) : Store :=
  let (id, st) := st.newID
  if service.id ∉ st.services then st
  else
    match st.createTask (newTask service 0 nodeID id now) with
    | .ok st' => st'
    | .error _ => st

/-- The batch's body on one service. -/
def reconcileServiceOnNode (isTaskDirty : Service → Task → Node → Bool)
    (nodeMatches : Service → Node → Bool) (now : Int) (node : Node) (tasks : Table (List Task))
    (st : Store) (service : GlobalService) : Store :=
  if !nodeMatches service.service node then st
  else if tasks.entries.isEmpty then addTask now service.service node.id st
  else
    let slot := (tasks.lookup service.service.id).getD []
    let dirtyTasks := slot.filter (isTaskDirty service.service · node)
    let cleanTasks := slot.filter (!isTaskDirty service.service · node)
    if cleanTasks.isEmpty then shutdownTasks (addTask now service.service node.id st) dirtyTasks
    else shutdownTasks st (dirtyTasks ++ cleanTasks.tail)

-- ================== the whole pass

/-- `foreachTaskFromNode(node, shutdownTask)`: the tasks of global
services on the node shut down. -/
def shutdownTasksFromNode (g : World) (nodeID : Nat) : Store :=
  (g.store.findTasksByNode nodeID).foldl (fun st t =>
    if g.globalServices.any (·.service.id = t.serviceID) then shutdownTask st t else st) g.store

/-- `reconcileOneNode(node)`. -/
def reconcileOneNode (isTaskDirty : Service → Task → Node → Bool)
    (nodeMatches : Service → Node → Bool) (now : Int) (node : Node) (g : World) :
    World :=
  if node.availability = .drain then { g with store := shutdownTasksFromNode g node.id }
  else if node.state = .down then { g with store := shutdownTasksFromNode g node.id }
  else if node.availability = .pause then g
  else
    match g.nodes.lookup node.id with
    | none => g
    | some node =>
      let (tasks, restarts) := gatherTasks (g.store.findTasksByNode node.id) g.globalServices g.restarts
      { g with
        store := g.globalServices.foldl (reconcileServiceOnNode isTaskDirty nodeMatches now node tasks) g.store
        restarts }

end SwarmKit.Orchestrator.Global

import SwarmKit.Dispatcher.Assignments

/-
What the dispatcher writes to the store for its nodes
(manager/dispatcher/dispatcher.go `UpdateTaskStatus`,
`UpdateVolumeStatus`, `processUpdates`, and the `EventUpdateVolume` case
of the `Assignments` session loop).

# The buffers

The RPCs do not write the store. `UpdateTaskStatus` checks each reported
status against the store and, when every one names a task of the
calling node (or no task at all), keeps the last status per task;
`UpdateVolumeStatus` appends the calling node to the list of each volume
it reports unpublished, without looking the volume up. Node status
changes are buffered by the heartbeat and registration paths, given
here as the buffer's contents.

# The batch

`processUpdates` takes the three buffers, leaves empty ones behind, and
applies them in one store batch, each object in its own transaction. A
task or node that is gone is skipped. A task's status is written unless
it is the same as the stored one or its state is lower. A volume that is
gone is logged and then read through the nil pointer: its publish
statuses in the loop, or its name in `UpdateVolume` for an empty list.
A panic is `none`.

# Reading the source

IDs are strings, as in `Assignments.lean`, whose volumes and publish
statuses these are. `task.Status == *status` compares the statuses'
pointer fields by address in Go and here by value: either way an equal
status is skipped, and a skipped write leaves the task as it was. The
clock read for `AppliedAt` is one value for the batch. Store writes of
an object read in the same transaction succeed.
-/

namespace SwarmKit.Dispatcher.Updates

open SwarmKit.Scheduler (TaskState)
open SwarmKit.Scheduler.Fit (NodeState)
open SwarmKit.Csi (PublishState)
open Assignments (PublishStatus Volume AssignmentSet ReadTx)

-- ======================== the data

/-- `api.TaskStatus`. -/
structure TaskStatus where
  timestamp : Option Int
  state : TaskState
  message : String
  err : String
  appliedBy : String
  appliedAt : Option Int
  deriving DecidableEq, Repr

/-- What the dispatcher reads and writes of an `api.Task`. -/
structure Task where
  id : String
  nodeID : String
  status : TaskStatus
  deriving DecidableEq, Repr

/-- `api.NodeStatus`. -/
structure NodeStatus where
  state : NodeState
  message : String
  addr : String
  deriving DecidableEq, Repr

/-- What `processUpdates` writes of an `api.Node`; the description is
replaced whole, and stands as a value. -/
structure Node where
  id : String
  status : NodeStatus
  description : Option Nat
  deriving DecidableEq, Repr

/-- `nodeUpdate`. -/
structure NodeUpdate where
  status : Option NodeStatus
  description : Option Nat
  deriving DecidableEq, Repr

/-- The store's task, node and volume tables. -/
structure Store where
  tasks : AList fun _ : String => Task
  nodes : AList fun _ : String => Node
  volumes : AList fun _ : String => Volume

/-- The dispatcher's three buffers. -/
structure Buffers where
  taskUpdates : AList fun _ : String => TaskStatus
  nodeUpdates : AList fun _ : String => NodeUpdate
  unpublishedVolumes : AList fun _ : String => List String

/-- Buffers with nothing in them. -/
def Buffers.empty : Buffers := ⟨∅, ∅, ∅⟩

-- ======================== the RPCs

/-- `api.UpdateTaskStatusRequest_TaskStatusUpdate`: a nil status is
`none`. -/
structure TaskStatusUpdate where
  taskID : String
  status : Option TaskStatus
  deriving DecidableEq, Repr

/-- The validation loop of `UpdateTaskStatus`: the updates to buffer, or
the error of the first one that names another node's task. -/
def validTaskUpdates (st : Store) (nodeID : String) :
    List TaskStatusUpdate → Except String (List (String × TaskStatus))
  | [] => .ok []
  | u :: us =>
    match u.status with
    | none => validTaskUpdates st nodeID us
    | some status =>
      match st.tasks.lookup u.taskID with
      -- the task may have been deleted
      | none => validTaskUpdates st nodeID us
      | some t =>
        if t.nodeID ≠ nodeID then .error "cannot update a task not assigned this node"
        else (validTaskUpdates st nodeID us).map ((u.taskID, status) :: ·)

/-- `UpdateTaskStatus` from the node `nodeID`: the valid updates are
buffered, a later status of a task over an earlier one. -/
def updateTaskStatus (st : Store) (nodeID : String) (updates : List TaskStatusUpdate)
    (b : Buffers) : Except String Buffers :=
  (validTaskUpdates st nodeID updates).map fun valid =>
    { b with taskUpdates := valid.foldl (fun m u => m.insert u.1 u.2) b.taskUpdates }

/-- `api.VolumeStatus` in an `UpdateVolumeStatusRequest`. -/
structure VolumeStatus where
  id : String
  unpublished : Bool
  deriving DecidableEq, Repr

/-- `UpdateVolumeStatus` from the node `nodeID`: the node is appended to
the list of every volume it reports unpublished. -/
def updateVolumeStatus (nodeID : String) (updates : List VolumeStatus) (b : Buffers) : Buffers :=
  updates.foldl (fun b status =>
    if status.unpublished then
      { b with
        unpublishedVolumes := b.unpublishedVolumes.insert status.id
          ((b.unpublishedVolumes.lookup status.id).getD [] ++ [nodeID]) }
    else b) b

-- ======================= the batch

/-- One task's transaction: skipped when the task is gone, the status is
the same, or it would move the task back. -/
def applyTaskUpdate (managerID : String) (now : Int) (st : Store) (taskID : String)
    (status : TaskStatus) : Store :=
  match st.tasks.lookup taskID with
  | none => st
  | some task =>
    if task.status = status then st
    else if status.state.rank < task.status.state.rank then st
    else
      let task := { task with status := { status with appliedBy := managerID, appliedAt := some now } }
      { st with tasks := st.tasks.insert taskID task }

/-- One node's transaction: skipped when the node is gone. -/
def applyNodeUpdate (st : Store) (nodeID : String) (u : NodeUpdate) : Store :=
  match st.nodes.lookup nodeID with
  | none => st
  | some node =>
    let node := match u.status with
      | some s =>
        { node with
          status := { state := s.state, message := s.message,
                      addr := if s.addr ≠ "" then s.addr else node.status.addr } }
      | none => node
    let node := match u.description with
      | some d => { node with description := some d }
      | none => node
    { st with nodes := st.nodes.insert nodeID node }

/-- The first publish status of the node set to `PENDING_UNPUBLISH`: the
inner loop of `nodesLoop`. -/
def markFirst (nodeID : String) : List PublishStatus → List PublishStatus
  | [] => []
  | s :: ss =>
    if s.nodeID = nodeID then { s with state := .pendingUnpublish } :: ss
    else s :: markFirst nodeID ss

/-- One volume's transaction; `none` when the volume is gone, whose nil
pointer the loop and `UpdateVolume` then read. -/
def applyVolumeUpdate (st : Store) (volumeID : String) (nodes : List String) : Option Store :=
  match st.volumes.lookup volumeID with
  | none => none
  | some volume =>
    let volume := { volume with publishStatus := nodes.foldl (fun ps n => markFirst n ps) volume.publishStatus }
    some { st with volumes := st.volumes.insert volumeID volume }

/-- `processUpdates`: the buffers are emptied and applied in one batch,
tasks, then nodes, then volumes. -/
def processUpdates (managerID : String) (now : Int) (b : Buffers) (st : Store) :
    Buffers × Option Store :=
  if b.taskUpdates.entries = [] ∧ b.nodeUpdates.entries = [] ∧ b.unpublishedVolumes.entries = []
  then (b, some st)
  else
    let st := b.taskUpdates.entries.foldl (fun st e => applyTaskUpdate managerID now st e.1 e.2) st
    let st := b.nodeUpdates.entries.foldl (fun st e => applyNodeUpdate st e.1 e.2) st
    (Buffers.empty, b.unpublishedVolumes.entries.foldlM (fun st e => applyVolumeUpdate st e.1 e.2) st)

-- ================ the session loop

/-- The session loop's `EventUpdateVolume`: the volume is read again, and
offered to the node's set once for each of its publish statuses for the
node; whether one of them changed the set. A volume deleted since the
event is nil here, and its statuses are read through the nil pointer. -/
def onUpdateVolume (tx : ReadTx) (st : Store) (volumeID : String) (a : AssignmentSet) :
    Option (AssignmentSet × Bool) :=
  match st.volumes.lookup volumeID with
  | none => none
  | some vol =>
    (vol.publishStatus.filter (·.nodeID = a.nodeID)).foldlM (fun (a, modified) _ =>
      (AssignmentSet.addOrUpdateVolume tx vol a).map fun (a, m) => (a, modified || m)) (a, false)

end SwarmKit.Dispatcher.Updates

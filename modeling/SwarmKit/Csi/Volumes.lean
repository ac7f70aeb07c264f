import SwarmKit.Orchestrator.Task
import SwarmKit.Lib.Lts

/-
Cluster volumes and who writes their publish status (manager/controlapi/
volume.go `RemoveVolume`; manager/scheduler/scheduler.go
`applySchedulingDecisions`, its volume part; scheduler/volumes.go
`freeVolumes`; manager/dispatcher/dispatcher.go `processUpdates`, its
volume part; manager/csi/manager.go `handleVolume`, `createVolume`,
`deleteVolume`).

# The data

A volume is what these read and write of an `api.Volume`: its
availability, whether the plugin has created it (`VolumeInfo != nil`),
`PendingDelete`, and `PublishStatus`, one entry per node the volume is
published to or on its way to or from. The entries' messages and
publish contexts are written by `handleVolume` and read by none of
these, so they are left out. A task is its node, its desired state and
the volumes it is attached to (`Volumes`).

# Who writes

Every component but the CSI manager reads and writes a volume inside one
store transaction: `RemoveVolume` marks it for deletion; the scheduler,
committing a task to a node, adds a `PENDING_PUBLISH` entry for the node
unless it has one; `freeVolumes` moves `PUBLISHED` entries of nodes
no live task there uses to `PENDING_NODE_UNPUBLISH`; the dispatcher
moves a node's entry to `PENDING_UNPUBLISH` once the node reports the
volume unpublished.

The CSI manager's single goroutine handles one volume at a time in two
transactions with plugin calls between them: `handleVolume` reads the
volume, calls the plugin (which may fail for any node; the outcome is
the environment's), and then writes back the publish status it computed
from what it read. Those are the steps `csiRead` and `csiWrite` here;
every other component may run in between.

The scheduler's own count of tasks per node and volume, which
`freeVolumes` consults, is taken here from the store's tasks.
-/

namespace SwarmKit.Csi

open SwarmKit.Scheduler (TaskState)
open SwarmKit.Orchestrator (Table)

-- ======================== the data

/-- `api.VolumePublishStatus_State`. -/
inductive PublishState
  | pendingPublish | published | pendingNodeUnpublish | pendingUnpublish
  deriving DecidableEq, Repr

/-- `api.VolumePublishStatus`: the node and the state. -/
structure PublishStatus where
  nodeID : Nat
  state : PublishState
  deriving DecidableEq, Repr

/-- `api.VolumeSpec_VolumeAvailability`. -/
inductive VolumeAvailability
  | active | pause | drain
  deriving DecidableEq, Repr

/-- What these components read and write of an `api.Volume`. -/
structure Volume where
  id : Nat
  /-- `Spec.Availability`. -/
  availability : VolumeAvailability
  /-- `VolumeInfo != nil`. -/
  created : Bool
  pendingDelete : Bool
  publishStatus : List PublishStatus
  deriving DecidableEq, Repr

/-- What they read of an `api.Task`: its node, desired state and
attached volumes. -/
structure VTask where
  id : Nat
  nodeID : Nat
  desiredState : TaskState
  volumes : List Nat
  deriving DecidableEq, Repr

/-- Whether the publish status has an entry for the node. -/
def hasNode (node : Nat) (ps : List PublishStatus) : Bool := ps.any (·.nodeID = node)

-- ================ the transactions

/-- The errors of `RemoveVolume`. -/
inductive RemoveVolumeErr
  /-- `codes.NotFound`, "volume %s not found" -/
  | notFound (volumeID : Nat)
  /-- `codes.FailedPrecondition`, "volume is still in use" -/
  | stillInUse
  deriving DecidableEq, Repr

/-- `RemoveVolume(request)`'s transaction: a forced removal deletes the
volume; otherwise a volume with no publish status is marked for
deletion. -/
def removeVolume (volumeID : Nat) (force : Bool) (volumes : Table Volume) :
    Except RemoveVolumeErr (Table Volume) :=
  match volumes.lookup volumeID with
  | none => .error (.notFound volumeID)
  | some v =>
    if force then .ok (volumes.erase volumeID)
    else if v.publishStatus ≠ [] then .error .stillInUse
    else .ok (volumes.insert volumeID { v with pendingDelete := true })

/-- The volume part of the scheduler's commit of a task to `task.nodeID`:
each attached volume must exist and be `Active`, and gets a
`PENDING_PUBLISH` entry for the node unless it has one; then the task
and the volumes are written. `none` is a failed decision. -/
def commitTaskVolumes (task : VTask) (volumes : Table Volume) (tasks : Table VTask) :
    Option (Table Volume × Table VTask) :=
  let rec gather : List Nat → Option (List Volume)
    | [] => some []
    | id :: ids =>
      match volumes.lookup id with
      | none => none
      | some v =>
        if v.availability ≠ .active then none
        else
          (gather ids).map fun vs =>
            if hasNode task.nodeID v.publishStatus then vs
            else { v with publishStatus := v.publishStatus ++ [⟨task.nodeID, .pendingPublish⟩] } :: vs
  (gather task.volumes).map fun vs =>
    (vs.foldl (fun acc v => acc.insert v.id v) volumes, tasks.insert task.id task)

/-- Whether a task desired to run on the node uses the volume. -/
def usedOn (tasks : Table VTask) (volumeID node : Nat) : Bool :=
  tasks.entries.any fun e =>
    e.2.nodeID = node ∧ volumeID ∈ e.2.volumes ∧ e.2.desiredState.rank ≤ TaskState.running.rank

/-- `freeVolumes` for one volume: every `PUBLISHED` entry of a node no
task there uses any more moves to `PENDING_NODE_UNPUBLISH`. -/
def freeVolume (tasks : Table VTask) (v : Volume) : Volume :=
  { v with publishStatus := v.publishStatus.map fun s =>
      if !usedOn tasks v.id s.nodeID && s.state = .published then
        { s with state := .pendingNodeUnpublish }
      else s }

/-- The dispatcher's update for a node that reported the volume
unpublished: the node's first entry moves to `PENDING_UNPUBLISH`. -/
def nodeUnpublished (node : Nat) : List PublishStatus → List PublishStatus
  | [] => []
  | s :: rest =>
    if s.nodeID = node then { s with state := .pendingUnpublish } :: rest
    else s :: nodeUnpublished node rest

-- ==================== handleVolume

/-- The loop of `handleVolume` over its copy of the publish status, with
`ok node` the outcome of the plugin call for the node: a published node
becomes `PUBLISHED`, an unpublished one leaves the list, a failed call
leaves its entry as it was. -/
def processStatuses (ok : Nat → Bool) : List PublishStatus → List PublishStatus
  | [] => []
  | s :: rest =>
    match s.state with
    | .pendingPublish =>
      (if ok s.nodeID then { s with state := .published } else s) :: processStatuses ok rest
    | .pendingUnpublish =>
      if ok s.nodeID then processStatuses ok rest else s :: processStatuses ok rest
    | _ => s :: processStatuses ok rest

/-- Whether the loop has anything to do (`updated`). -/
def needsUpdate (ps : List PublishStatus) : Bool :=
  ps.any fun s => s.state = .pendingPublish || s.state = .pendingUnpublish

/-- Where the CSI manager's goroutine is: between volumes, or between
`handleVolume`'s read and its write. -/
inductive CsiPc
  | idle
  /-- The plugin created the volume; `createVolume` writes `VolumeInfo`. -/
  | creating (volumeID : Nat)
  /-- The plugin deleted the volume; `deleteVolume` deletes it. -/
  | deleting (volumeID : Nat)
  /-- The publish status computed from the read, to be written back. -/
  | writing (volumeID : Nat) (publishStatus : List PublishStatus)
  deriving DecidableEq, Repr

/-- `handleVolume(id)` up to its write, with `callOk` the outcome of the
plugin's `CreateVolume` or `DeleteVolume` and `ok` those of its publish
and unpublish calls per node: what is left to write. A missing volume, a
failed create or delete, or nothing to publish or unpublish leaves
nothing. -/
def handleVolumeRead (volumeID : Nat) (callOk : Bool) (ok : Nat → Bool)
    (volumes : Table Volume) : CsiPc :=
  match volumes.lookup volumeID with
  | none => .idle
  | some v =>
    if !v.created then (if callOk then .creating volumeID else .idle)
    else if v.pendingDelete then (if callOk then .deleting volumeID else .idle)
    else if needsUpdate v.publishStatus then .writing volumeID (processStatuses ok v.publishStatus)
    else .idle

/-- The write that ends `handleVolume`, each in its own transaction on
the volume as it is now. -/
def handleVolumeWrite : CsiPc → Table Volume → Table Volume
  | .idle, volumes => volumes
  | .creating id, volumes =>
    match volumes.lookup id with
    | none => volumes
    | some v => volumes.insert id { v with created := true }
  | .deleting id, volumes => volumes.erase id
  | .writing id ps, volumes =>
    match volumes.lookup id with
    | none => volumes
    | some v => volumes.insert id { v with publishStatus := ps }

-- ========================= the run

/-- The volumes and tasks of the store, and the CSI manager's goroutine. -/
structure World where
  volumes : Table Volume
  tasks : Table VTask
  csi : CsiPc

/-- What happens next. -/
inductive Act
  | removeVolume (volumeID : Nat) (force : Bool)
  /-- The scheduler commits a task to a node with these volumes. -/
  | schedule (task : VTask)
  /-- `freeVolumes` on one volume. -/
  | freeVolumes (volumeID : Nat)
  /-- The dispatcher's update after a node reported a volume unpublished. -/
  | nodeUnpublished (volumeID node : Nat)
  /-- A task is desired to stop (`Shutdown`, `Remove`, ...). -/
  | stopTask (taskID : Nat) (state : TaskState)
  /-- `handleVolume` reads a volume and calls the plugin. -/
  | csiRead (volumeID : Nat) (callOk : Bool) (ok : Nat → Bool)
  /-- `handleVolume` writes back. -/
  | csiWrite

/-- One step; a failed transaction is not a step. -/
def step : Act → World → Option World
  | .removeVolume id force, w =>
    match removeVolume id force w.volumes with
    | .ok vs => some { w with volumes := vs }
    | .error _ => none
  | .schedule task, w =>
    (commitTaskVolumes task w.volumes w.tasks).map fun (vs, ts) =>
      { w with volumes := vs, tasks := ts }
  | .freeVolumes id, w =>
    (w.volumes.lookup id).map fun v =>
      { w with volumes := w.volumes.insert id (freeVolume w.tasks v) }
  | .nodeUnpublished id node, w =>
    (w.volumes.lookup id).map fun v =>
      { w with volumes :=
          w.volumes.insert id { v with publishStatus := nodeUnpublished node v.publishStatus } }
  | .stopTask id state, w =>
    if TaskState.running.rank < state.rank then
      (w.tasks.lookup id).map fun t =>
        { w with tasks := w.tasks.insert id { t with desiredState := state } }
    else none
  | .csiRead id callOk ok, w =>
    if w.csi = .idle then some { w with csi := handleVolumeRead id callOk ok w.volumes } else none
  | .csiWrite, w =>
    if w.csi = .idle then none
    else some { w with volumes := handleVolumeWrite w.csi w.volumes, csi := .idle }

end SwarmKit.Csi

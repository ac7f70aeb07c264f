import Mathlib.Data.List.AList

/-
The scheduler's set of volumes (manager/scheduler/volumes.go
`volumeSet`, `addOrUpdateVolume`, `removeVolume`, `chooseTaskVolumes`,
`reserveTaskVolumes`, `reserveVolume`, `releaseVolume`,
`isVolumeAvailableOnNode`, `checkVolume`, `hasWriter`; topology.go
`IsInTopology`; scheduler.go the volumes `setupTasksList` loads and the
`EventUpdateVolume` case of `Run`).

# The set

The set caches the volumes that have a CSI volume ID, by swarmkit ID,
with the tasks using each and, per node, how many reservations there
are; it indexes them by name and by group. `chooseTaskVolumes` picks a
volume for every CSI mount of a task on a node, reserving each as it
goes, and releases every reservation it made before it returns.

# Reading the source

`volumes` maps an ID to a `volumeInfo` struct value. Reading an entry
copies the struct, but its `tasks` and `nodes` fields are maps, which
the copy shares with the entry: `reserveVolume` and `releaseVolume`
write through them, so here they write the entry. The update branch of
`addOrUpdateVolume` assigns the copy's `volume` field, which nothing
reads afterwards, so here it leaves the entry as it was. A Go map read
of a missing key gives zero, so a node's count is its entry or 0. IDs,
names, groups, drivers, topology segments and mount targets are strings
the code only compares: numbers here, with 0 the empty string. A mount
source with the prefix `group:` names a group, any other a volume. Go
sets (`map[string]struct{}`) are lists without repeats, in insertion
order, which stands for the unspecified order a range over them takes.
-/

namespace SwarmKit.Scheduler.Volumes

-- ======================== the data

/-- `api.VolumeSpec_VolumeAvailability`. -/
inductive VolumeAvailability
  | active | pause | drain
  deriving DecidableEq, Repr

/-- `api.VolumeAccessMode_Scope`. -/
inductive Scope
  | singleNode | multiNode
  deriving DecidableEq, Repr

/-- `api.VolumeAccessMode_Sharing`. -/
inductive Sharing
  | none | readOnly | oneWriter | all
  deriving DecidableEq, Repr

/-- `api.Topology`: its segments, subdomain to segment. -/
abbrev Topology := List (Nat × Nat)

/-- What the scheduler reads of an `api.Volume`. -/
structure Volume where
  id : Nat
  /-- `Spec.Annotations.Name`. -/
  name : Nat
  /-- `Spec.Group`. -/
  group : Nat
  /-- `Spec.Availability`. -/
  availability : VolumeAvailability
  /-- `Spec.Driver.Name`. -/
  driver : Nat
  /-- `Spec.AccessMode.Scope`. -/
  scope : Scope
  /-- `Spec.AccessMode.Sharing`. -/
  sharing : Sharing
  /-- `VolumeInfo.VolumeID`, `0` when it is empty or `VolumeInfo` is nil. -/
  volumeID : Nat
  /-- `VolumeInfo.AccessibleTopology`. -/
  accessibleTopology : List Topology
  deriving DecidableEq, Repr

/-- `volumeUsage`. -/
structure VolumeUsage where
  nodeID : Nat
  readOnly : Bool
  deriving DecidableEq, Repr

/-- `volumeInfo`. -/
structure VolumeInfo where
  volume : Volume
  tasks : AList fun _ : Nat => VolumeUsage
  nodes : AList fun _ : Nat => Int
  deriving DecidableEq

/-- `volumeSet`. -/
structure VolumeSet where
  volumes : AList fun _ : Nat => VolumeInfo
  byGroup : AList fun _ : Nat => List Nat
  byName : AList fun _ : Nat => Nat
  deriving DecidableEq

/-- `api.Mount_MountType`. -/
inductive MountType
  | bind | volume | tmpfs | namedPipe | csi
  deriving DecidableEq, Repr

/-- `Mount.Source`: `group:` and a group, or a volume name. -/
inductive MountSource
  | group (group : Nat)
  | name (name : Nat)
  deriving DecidableEq, Repr

/-- What the scheduler reads of an `api.Mount`. -/
structure Mount where
  type : MountType
  source : MountSource
  target : Nat
  readOnly : Bool
  deriving DecidableEq, Repr

/-- `api.VolumeAttachment`. -/
structure VolumeAttachment where
  id : Nat
  source : MountSource
  target : Nat
  deriving DecidableEq, Repr

/-- What the volume code reads of an `api.Task`. -/
structure Task where
  id : Nat
  nodeID : Nat
  /-- The container spec's `Mounts`, `none` for a task that is not a
  container. -/
  mounts : Option (List Mount)
  /-- `Volumes`. -/
  volumes : List VolumeAttachment
  deriving DecidableEq, Repr

/-- `api.NodeCSIInfo`: a plugin and its accessible topology. -/
structure CSIInfo where
  pluginName : Nat
  accessibleTopology : Option Topology
  deriving DecidableEq, Repr

/-- What the volume code reads of a `NodeInfo`. -/
structure NodeInfo where
  id : Nat
  /-- `Description.CSIInfo`. -/
  csiInfo : List CSIInfo
  deriving DecidableEq, Repr

/-- The error of `chooseTaskVolumes`:
"cannot find volume to satisfy mount with source %v". -/
inductive VolumeErr
  | noVolume (source : MountSource)
  deriving DecidableEq, Repr

-- ==================== the topology

/-- `top.Segments[subdomain]`. -/
def segment (top : Topology) (subdomain : Nat) : Nat := (top.lookup subdomain).getD 0

/-- `IsInTopology(top, accessible)`: a missing part fits; otherwise some
accessible topology has each of its segments in `top`. -/
def isInTopology (top : Option Topology) (accessible : List Topology) : Bool :=
  match top with
  | none => true
  | some top => accessible.isEmpty || accessible.any fun topology =>
      topology.all fun s => segment top s.1 = s.2

-- ========================= the set

/-- A node's reference count: its entry, or 0. -/
def count (nodes : AList fun _ : Nat => Int) (nodeID : Nat) : Int := (nodes.lookup nodeID).getD 0

/-- `newVolumeSet()`. -/
def newVolumeSet : VolumeSet := ⟨∅, ∅, ∅⟩

/-- What `reserveVolume` writes through an entry's maps: the task's
usage, and one more reservation on the node. -/
def VolumeInfo.reserve (taskID nodeID : Nat) (readOnly : Bool) (info : VolumeInfo) : VolumeInfo :=
  { info with
    tasks := info.tasks.insert taskID ⟨nodeID, readOnly⟩
    nodes := info.nodes.insert nodeID (count info.nodes nodeID + 1) }

/-- What `releaseVolume` writes through an entry's maps for a task with
a usage: one reservation fewer on its node, never below 0, and the task
gone. -/
def VolumeInfo.release (taskID : Nat) (usage : VolumeUsage) (info : VolumeInfo) : VolumeInfo :=
  let c := count info.nodes usage.nodeID
  { info with
    nodes := if c > 0 then info.nodes.insert usage.nodeID (c - 1) else info.nodes
    tasks := info.tasks.erase taskID }

namespace VolumeSet

/-- `addOrUpdateVolume(v)`: a new ID gets an entry with no tasks; a
known one keeps its entry. Either way `v` is indexed by group and name. -/
def addOrUpdateVolume (v : Volume) (vs : VolumeSet) : VolumeSet :=
  let volumes :=
    if v.id ∈ vs.volumes then vs.volumes
    else vs.volumes.insert v.id ⟨v, ∅, ∅⟩
  let set := (vs.byGroup.lookup v.group).getD []
  { volumes
    byGroup := vs.byGroup.insert v.group (if v.id ∈ set then set else set ++ [v.id])
    byName := vs.byName.insert v.name v.id }

/-- `removeVolume(volumeID)`. -/
def removeVolume (volumeID : Nat) (vs : VolumeSet) : VolumeSet :=
  match vs.volumes.lookup volumeID with
  | none => vs
  | some info =>
    let group := info.volume.group
    { volumes := vs.volumes.erase volumeID
      byGroup := match vs.byGroup.lookup group with
        | some set => vs.byGroup.insert group (set.erase volumeID)
        | none => vs.byGroup
      byName := vs.byName.erase info.volume.name }

/-- `reserveVolume(volumeID, taskID, nodeID, readOnly)`. -/
def reserveVolume (volumeID taskID nodeID : Nat) (readOnly : Bool) (vs : VolumeSet) : VolumeSet :=
  match vs.volumes.lookup volumeID with
  | none => vs
  | some info => { vs with volumes := vs.volumes.insert volumeID (info.reserve taskID nodeID readOnly) }

/-- `releaseVolume(volumeID, taskID)`. -/
def releaseVolume (volumeID taskID : Nat) (vs : VolumeSet) : VolumeSet :=
  match vs.volumes.lookup volumeID with
  | none => vs
  | some info =>
    match info.tasks.lookup taskID with
    | none => vs
    | some usage => { vs with volumes := vs.volumes.insert volumeID (info.release taskID usage) }

/-- `hasWriter(info)`. -/
def hasWriter (info : VolumeInfo) : Bool := info.tasks.entries.any fun e => !e.2.readOnly

/-- `checkVolume(id, node, readOnly)`. An ID without an entry is never
checked: `isVolumeAvailableOnNode` only checks indexed IDs, which all
have one. -/
def checkVolume (vs : VolumeSet) (id : Nat) (node : NodeInfo) (readOnly : Bool) : Bool :=
  match vs.volumes.lookup id with
  | none => false
  | some vi =>
    if vi.volume.availability ≠ .active then false
    else
      -- the topology of the volume's driver on the node, from its first entry
      let top := (node.csiInfo.find? (·.pluginName = vi.volume.driver)).bind (·.accessibleTopology)
      if vi.volume.scope = .singleNode ∧ vi.tasks.entries.any (·.2.nodeID ≠ node.id) then false
      else
        let incompatible := match vi.volume.sharing with
          | .none => !vi.tasks.entries.isEmpty
          | .oneWriter => !readOnly && hasWriter vi
          | .readOnly => !readOnly
          | .all => false
        if incompatible then false
        else isInTopology top vi.volume.accessibleTopology

/-- `isVolumeAvailableOnNode(mount, node)`: the ID of a volume for the
mount, `none` for the empty string. -/
def isVolumeAvailableOnNode (vs : VolumeSet) (mount : Mount) (node : NodeInfo) : Option Nat :=
  match mount.source with
  | .group g =>
    match vs.byGroup.lookup g with
    | none => none
    | some ids => ids.find? (vs.checkVolume · node mount.readOnly)
  | .name n =>
    match vs.byName.lookup n with
    | none => none
    | some id => if vs.checkVolume id node mount.readOnly then some id else none

/-- The loop of `chooseTaskVolumes` over the mounts, reserving as it
goes: the mount no volume satisfies, if any, the attachments made, and
the set. -/
def chooseLoop (taskID : Nat) (node : NodeInfo) :
    List Mount → List VolumeAttachment → VolumeSet →
      Option Mount × List VolumeAttachment × VolumeSet
  | [], volumes, vs => (none, volumes, vs)
  | mount :: mounts, volumes, vs =>
    if mount.type ≠ .csi then chooseLoop taskID node mounts volumes vs
    else
      match vs.isVolumeAvailableOnNode mount node with
      | none => (some mount, volumes, vs)
      | some candidate =>
        chooseLoop taskID node mounts (volumes ++ [⟨candidate, mount.source, mount.target⟩])
          (vs.reserveVolume candidate taskID node.id mount.readOnly)

/-- `chooseTaskVolumes(task, nodeInfo)`: the attachments or the error,
and the set after the deferred loop has released every volume the loop
reserved. -/
def chooseTaskVolumes (task : Task) (node : NodeInfo) (vs : VolumeSet) :
    Except VolumeErr (List VolumeAttachment) × VolumeSet :=
  match task.mounts with
  | none => (.ok [], vs)
  | some mounts =>
    let (failed, volumes, vs) := chooseLoop task.id node mounts [] vs
    let vs := volumes.foldl (fun vs va => vs.releaseVolume va.id task.id) vs
    match failed with
    | some mount => (.error (.noVolume mount.source), vs)
    | none => (.ok volumes, vs)

/-- `reserveTaskVolumes(task)`: every attachment reserved once for each
mount with its source and target. -/
def reserveTaskVolumes (task : Task) (vs : VolumeSet) : VolumeSet :=
  task.volumes.foldl (fun vs va =>
    (task.mounts.getD []).foldl (fun vs mount =>
      if mount.source = va.source ∧ mount.target = va.target then
        vs.reserveVolume va.id task.id task.nodeID mount.readOnly
      else vs) vs) vs

end VolumeSet

-- ====================== the events

/-- The store's volume events. -/
inductive VolumeEvent
  | create (v : Volume)
  | update (v : Volume)
  | delete (v : Volume)
  deriving DecidableEq, Repr

/-- The volumes `setupTasksList` loads: those with a volume ID. -/
def setupVolumes (volumes : List Volume) : VolumeSet :=
  volumes.foldl (fun vs v => if v.volumeID ≠ 0 then vs.addOrUpdateVolume v else vs) newVolumeSet

/-- `Run`'s handling of a volume event: an update of a volume with a
volume ID is added; creations and deletions have no case. -/
def handleVolumeEvent (vs : VolumeSet) : VolumeEvent → VolumeSet
  | .update v => if v.volumeID ≠ 0 then vs.addOrUpdateVolume v else vs
  | .create _ => vs
  | .delete _ => vs

end SwarmKit.Scheduler.Volumes

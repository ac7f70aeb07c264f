import SwarmKit.Csi.Volumes
import SwarmKit.Lib.Lts

/-
What the dispatcher sends a node (manager/dispatcher/assignments.go
`assignmentSet`, `assignSecret`, `assignConfig`, `addTaskDependencies`,
`releaseDependency`, `releaseTaskDependencies`, `addOrUpdateTask`,
`addOrUpdateVolume`, `removeVolume`, `removeTask`, `message`, `secret`;
identity/combined_id.go `CombineTwoIDs`), and what the agent makes of it.

# The data

IDs are strings: a secret that a driver marks `DoNotReuse` is sent under
the ID `CombineTwoIDs` builds from its own and the task's. A task is its
ID, its `Status.State`, and what `TasksEqualStable` compares besides
(the desired state and the spec, whose references the set follows). A
secret is its ID, whether its spec names a driver, its data and
`Internal`. The handlers read the store through a transaction
(`ReadTx`): the secrets and configs by ID, and each driver's answer for a
secret and a task (a value and `DoNotReuse`, or an error, which also
stands for the driver provider's and the payload validation's).

# The set

`tasksUsingDependency` maps a dependency to the IDs of the tasks and
volumes using it: a Go map of sets, here a list of IDs without repeats;
an absent key is a nil inner map, whose length is zero and a write into
which panics (`none`). `changes` holds the pending change per key and is
emptied by `message`. A panic of a handler (a nil inner map, a nil task)
is `none`.

# The agent

The node replays each message on the assignments it holds: an update
stores the assignment under its type and ID, a remove deletes it.
-/

namespace SwarmKit.Csi

/-- The numeric value of a publish state, which the set compares. -/
def PublishState.rank : PublishState → Nat
  | .pendingPublish => 0
  | .published => 1
  | .pendingNodeUnpublish => 2
  | .pendingUnpublish => 3

end SwarmKit.Csi

namespace SwarmKit.Dispatcher.Assignments

open SwarmKit.Scheduler (TaskState)
open SwarmKit.Csi (PublishState)

-- ======================== the data

/-- `api.ResourceType`. -/
inductive ResourceType
  | task | secret | config | volume
  deriving DecidableEq, Repr

/-- `typeAndID`. -/
structure TypeAndID where
  id : String
  objType : ResourceType
  deriving DecidableEq, Repr

/-- `identity.CombineTwoIDs`. -/
def combineTwoIDs (id1 id2 : String) : String := id1 ++ "." ++ id2

/-- `api.ResourceReference`. -/
structure ResourceReference where
  resourceID : String
  resourceType : ResourceType
  deriving DecidableEq, Repr

/-- The secret and config references of a container spec, by ID. -/
structure ContainerSpec where
  secrets : List String
  configs : List String
  deriving DecidableEq, Repr

/-- `api.TaskSpec`: its resource references and its container spec
(`GetContainer`, `none` for another runtime). -/
structure TaskSpec where
  resourceReferences : List ResourceReference
  container : Option ContainerSpec
  deriving DecidableEq, Repr

/-- What the set reads of an `api.Task`. -/
structure Task where
  id : String
  desiredState : TaskState
  spec : TaskSpec
  /-- `Status.State`. -/
  state : TaskState
  deriving DecidableEq, Repr

/-- `&api.Task{ID: id}`. -/
def Task.ofID (id : String) : Task := ⟨id, .new, ⟨[], none⟩, .new⟩

/-- `equality.TasksEqualStable`: equal once the status is cleared. -/
def tasksEqualStable (a b : Task) : Bool := { a with state := .new } = { b with state := .new }

/-- What the set reads of an `api.Secret`: ID, whether `Spec.Driver` is
set, `Spec.Data` (0 for nil) and `Internal`. -/
structure Secret where
  id : String
  driver : Bool
  data : Nat
  internal : Bool
  deriving DecidableEq, Repr

/-- `&api.Secret{ID: id}`. -/
def Secret.ofID (id : String) : Secret := ⟨id, false, 0, false⟩

/-- `api.Config`, by its ID and data. -/
structure Config where
  id : String
  data : Nat
  deriving DecidableEq, Repr

/-- `&api.Config{ID: id}`. -/
def Config.ofID (id : String) : Config := ⟨id, 0⟩

/-- `api.VolumePublishStatus`. -/
structure PublishStatus where
  nodeID : String
  state : PublishState
  publishContext : Nat
  deriving DecidableEq, Repr

/-- What the set reads of an `api.Volume`: its ID, publish statuses and
the IDs of its spec's secrets. -/
structure Volume where
  id : String
  publishStatus : List PublishStatus
  secrets : List String
  deriving DecidableEq, Repr

/-- `api.VolumeAssignment`, as far as it comes from the volume. -/
structure VolumeAssignment where
  id : String
  publishContext : Nat
  secrets : List String
  deriving DecidableEq, Repr

/-- `api.Assignment`. -/
inductive Assignment
  | task (t : Task)
  | secret (s : Secret)
  | config (c : Config)
  | volume (v : VolumeAssignment)
  deriving DecidableEq, Repr

/-- `api.AssignmentChange_AssignmentAction`. -/
inductive Action
  | update | remove
  deriving DecidableEq, Repr

/-- `api.AssignmentChange`. -/
structure AssignmentChange where
  assignment : Assignment
  action : Action
  deriving DecidableEq, Repr

/-- What the handlers read of the store. -/
structure ReadTx where
  getSecret : String → Option Secret
  getConfig : String → Option Config
  /-- The secret driver's `Get` for a secret and a task (nil for a
  volume's secret), after `ValidateSecretPayload`. -/
  driverGet : Secret → Option Task → Except String (Nat × Bool)

-- ========================= the set

/-- `assignmentSet`. -/
structure AssignmentSet where
  nodeID : String
  tasksMap : AList fun _ : String => Task
  volumesMap : AList fun _ : String => PublishStatus
  tasksUsingDependency : AList fun _ : TypeAndID => List String
  changes : AList fun _ : TypeAndID => AssignmentChange

/-- `newAssignmentSet(nodeID, ...)`. -/
def newAssignmentSet (nodeID : String) : AssignmentSet := ⟨nodeID, ∅, ∅, ∅, ∅⟩

namespace AssignmentSet

variable (tx : ReadTx)

/-- The tasks and volumes using a dependency; none for a nil inner map. -/
def users (a : AssignmentSet) (mapKey : TypeAndID) : List String :=
  (a.tasksUsingDependency.lookup mapKey).getD []

/-- `a.tasksUsingDependency[mapKey][id] = struct{}{}`: panics on a nil
inner map. -/
def addDependent (mapKey : TypeAndID) (id : String) (a : AssignmentSet) : Option AssignmentSet :=
  (a.tasksUsingDependency.lookup mapKey).map fun users =>
    { a with tasksUsingDependency := a.tasksUsingDependency.insert mapKey (users.insert id) }

/-- `a.secret(readTx, task, secretID)`: the secret from the store, its
value from the driver when its spec names one, and `DoNotReuse`. -/
def secret (task : Option Task) (secretID : String) : Except String (Secret × Bool) :=
  match tx.getSecret secretID with
  | none => .error "secret not found"
  | some secret =>
    if !secret.driver then .ok (secret, false)
    else
      match tx.driverGet secret task with
      | .error e => .error e
      | .ok (value, doNotReuse) => .ok ({ secret with data := value }, doNotReuse)

/-- `assignSecret(a, readTx, mapKey, t)`. A secret not to be reused is
sent under the task-specific ID, which only the task uses; the caller's
key is left as it is. A secret that cannot be fetched is skipped. -/
def assignSecret (mapKey : TypeAndID) (t : Option Task) (a : AssignmentSet) :
    Option AssignmentSet :=
  let a := if mapKey ∈ a.tasksUsingDependency then a
    else { a with tasksUsingDependency := a.tasksUsingDependency.insert mapKey [] }
  match secret tx t mapKey.id with
  | .error _ => some a
  | .ok (secret, doNotReuse) =>
    if doNotReuse then
      match t with
      -- `t.ID` on a nil task
      | none => none
      | some t =>
        let secret := { secret with id := combineTwoIDs secret.id t.id, internal := true }
        let mapKey : TypeAndID := ⟨secret.id, mapKey.objType⟩
        some { a with
          tasksUsingDependency := a.tasksUsingDependency.insert mapKey [t.id],
          changes := a.changes.insert mapKey ⟨.secret secret, .update⟩ }
    else some { a with changes := a.changes.insert mapKey ⟨.secret secret, .update⟩ }

/-- `assignConfig(a, readTx, mapKey)`: the key gets a fresh, empty set of
users; a config not in the store is skipped. -/
def assignConfig (mapKey : TypeAndID) (a : AssignmentSet) : AssignmentSet :=
  let a := { a with tasksUsingDependency := a.tasksUsingDependency.insert mapKey [] }
  match tx.getConfig mapKey.id with
  | none => a
  | some config => { a with changes := a.changes.insert mapKey ⟨.config config, .update⟩ }

/-- One resource reference in `addTaskDependencies`: assigned when no
task uses it yet; an invalid type is skipped (`continue`). -/
def addResourceReference (t : Task) (a : AssignmentSet) (ref : ResourceReference) :
    Option AssignmentSet :=
  let mapKey : TypeAndID := ⟨ref.resourceID, ref.resourceType⟩
  if (a.users mapKey).isEmpty then
    match ref.resourceType with
    | .secret => (assignSecret tx mapKey (some t) a).bind (addDependent mapKey t.id)
    | .config => addDependent mapKey t.id (assignConfig tx mapKey a)
    | _ => some a
  else addDependent mapKey t.id a

/-- One container secret in `addTaskDependencies`: assigned unless this
task already uses it. -/
def addContainerSecret (t : Task) (a : AssignmentSet) (secretID : String) :
    Option AssignmentSet :=
  let mapKey : TypeAndID := ⟨secretID, .secret⟩
  let a := if t.id ∈ a.users mapKey then some a else assignSecret tx mapKey (some t) a
  a.bind (addDependent mapKey t.id)

/-- One container config in `addTaskDependencies`: assigned when no task
uses it yet. -/
def addContainerConfig (t : Task) (a : AssignmentSet) (configID : String) :
    Option AssignmentSet :=
  let mapKey : TypeAndID := ⟨configID, .config⟩
  let a := if (a.users mapKey).isEmpty then assignConfig tx mapKey a else a
  addDependent mapKey t.id a

/-- `addTaskDependencies(readTx, t)`: the three loops in order. -/
def addTaskDependencies (t : Task) (a : AssignmentSet) : Option AssignmentSet := do
  let a ← t.spec.resourceReferences.foldlM (addResourceReference tx t) a
  let a ← ((t.spec.container.map (·.secrets)).getD []).foldlM (addContainerSecret tx t) a
  ((t.spec.container.map (·.configs)).getD []).foldlM (addContainerConfig tx t) a

/-- `releaseDependency(mapKey, assignment, taskID)`: the user leaves the
key's set; an empty set (a nil one included) drops the key and sends a
removal. -/
def releaseDependency (mapKey : TypeAndID) (assignment : Assignment) (taskID : String)
    (a : AssignmentSet) : AssignmentSet × Bool :=
  let a := match a.tasksUsingDependency.lookup mapKey with
    | none => a
    | some users =>
      { a with tasksUsingDependency := a.tasksUsingDependency.insert mapKey (users.erase taskID) }
  if !(a.users mapKey).isEmpty then (a, false)
  else
    ({ a with
      tasksUsingDependency := a.tasksUsingDependency.erase mapKey,
      changes := a.changes.insert mapKey ⟨assignment, .remove⟩ }, true)

/-- A run of `releaseDependency` calls, with whether any released. -/
def releaseAll (deps : List (TypeAndID × Assignment)) (taskID : String) (a : AssignmentSet) :
    AssignmentSet × Bool :=
  deps.foldl (fun (a, modified) (mapKey, assignment) =>
    let (a, released) := releaseDependency mapKey assignment taskID a
    (a, modified || released)) (a, false)

/-- What `releaseTaskDependencies` releases, loop by loop: the secret and
config resource references (other types are skipped), then the
container's secrets and configs, each with the removal it sends. -/
def taskDependencies (t : Task) : List (TypeAndID × Assignment) :=
  (t.spec.resourceReferences.filterMap fun ref =>
    match ref.resourceType with
    | .secret => some (⟨ref.resourceID, .secret⟩, .secret (Secret.ofID ref.resourceID))
    | .config => some (⟨ref.resourceID, .config⟩, .config (Config.ofID ref.resourceID))
    | _ => none) ++
  (((t.spec.container.map (·.secrets)).getD []).map fun id =>
    (⟨id, .secret⟩, .secret (Secret.ofID id))) ++
  (((t.spec.container.map (·.configs)).getD []).map fun id =>
    (⟨id, .config⟩, .config (Config.ofID id)))

/-- `releaseTaskDependencies(readTx, t)`. -/
def releaseTaskDependencies (t : Task) (a : AssignmentSet) : AssignmentSet × Bool :=
  releaseAll (taskDependencies t) t.id a

/-- The task is tracked and an update for it is pending. -/
def trackTask (t : Task) (a : AssignmentSet) : AssignmentSet :=
  { a with
    tasksMap := a.tasksMap.insert t.id t,
    changes := a.changes.insert ⟨t.id, .task⟩ ⟨.task t, .update⟩ }

/-- `addOrUpdateTask(readTx, t)`: the set afterwards and whether it
changed. A stable update past `ASSIGNED` only records the task, and past
`RUNNING` releases its dependencies; any other update of a tracked task
is sent; a new task at most `RUNNING` brings its dependencies. -/
def addOrUpdateTask (t : Task) (a : AssignmentSet) : Option (AssignmentSet × Bool) :=
  if t.state.rank < TaskState.assigned.rank then some (a, false)
  else
    match a.tasksMap.lookup t.id with
    | some oldTask =>
      if tasksEqualStable oldTask t ∧ t.state.rank > TaskState.assigned.rank then
        let a := { a with tasksMap := a.tasksMap.insert t.id t }
        if t.state.rank > TaskState.running.rank then some (releaseTaskDependencies t a)
        else some (a, false)
      else some (trackTask t a, true)
    | none =>
      if t.state.rank ≤ TaskState.running.rank then
        (addTaskDependencies tx t a).map fun a => (trackTask t a, true)
      else some (trackTask t a, true)

/-- `removeVolume(readTx, v)`: an untracked volume changes nothing; a
tracked one releases its secrets and is forgotten, with no removal of
its own. -/
def removeVolume (v : Volume) (a : AssignmentSet) : AssignmentSet × Bool :=
  if v.id ∉ a.volumesMap then (a, false)
  else
    let (a, modified) :=
      releaseAll (v.secrets.map fun id => (⟨id, .secret⟩, .secret (Secret.ofID id))) v.id a
    ({ a with volumesMap := a.volumesMap.erase v.id }, modified)

/-- One secret of a volume in `addOrUpdateVolume`: assigned, with no
task, when nothing uses it yet. -/
def addVolumeSecret (v : Volume) (a : AssignmentSet) (secretID : String) :
    Option AssignmentSet :=
  let mapKey : TypeAndID := ⟨secretID, .secret⟩
  let a := if (a.users mapKey).isEmpty then assignSecret tx mapKey none a else some a
  a.bind (addDependent mapKey v.id)

/-- `addOrUpdateVolume(readTx, v)`. Only a volume published to this node
is tracked, once per publish state; past `PENDING_NODE_UNPUBLISH` it is
removed; in that state its assignment is sent as a removal. -/
def addOrUpdateVolume (v : Volume) (a : AssignmentSet) : Option (AssignmentSet × Bool) :=
  match v.publishStatus.find? (·.nodeID = a.nodeID) with
  | none => some (a, false)
  | some publishStatus =>
    if publishStatus.state.rank < PublishState.published.rank then some (a, false)
    else if (a.volumesMap.lookup v.id).any (·.state = publishStatus.state) then some (a, false)
    else if publishStatus.state.rank > PublishState.pendingNodeUnpublish.rank then
      some (removeVolume v a)
    else
      (v.secrets.foldlM (addVolumeSecret tx v) a).map fun a =>
        let action := if publishStatus.state = .pendingNodeUnpublish then Action.remove
          else Action.update
        ({ a with
          changes := a.changes.insert ⟨v.id, .volume⟩
            ⟨.volume ⟨v.id, publishStatus.publishContext, v.secrets⟩, action⟩,
          volumesMap := a.volumesMap.insert v.id publishStatus }, true)

/-- `removeTask(readTx, t)`: a tracked task is sent as removed and its
dependencies released. -/
def removeTask (t : Task) (a : AssignmentSet) : AssignmentSet × Bool :=
  if t.id ∉ a.tasksMap then (a, false)
  else
    let a := { a with
      changes := a.changes.insert ⟨t.id, .task⟩ ⟨.task (Task.ofID t.id), .remove⟩,
      tasksMap := a.tasksMap.erase t.id }
    ((releaseTaskDependencies t a).1, true)

/-- `message()`: the pending changes, and the set with none pending. -/
def message (a : AssignmentSet) : List AssignmentChange × AssignmentSet :=
  (a.changes.entries.map (·.2), { a with changes := ∅ })

end AssignmentSet

-- ======================= the agent

/-- The type and ID an assignment is stored under on the node. -/
def Assignment.key : Assignment → TypeAndID
  | .task t => ⟨t.id, .task⟩
  | .secret s => ⟨s.id, .secret⟩
  | .config c => ⟨c.id, .config⟩
  | .volume v => ⟨v.id, .volume⟩

/-- The assignments a node holds. -/
abbrev Agent := AList fun _ : TypeAndID => Assignment

/-- One change replayed on the node. -/
def Agent.apply (ag : Agent) (c : AssignmentChange) : Agent :=
  match c.action with
  | .update => AList.insert c.assignment.key c.assignment ag
  | .remove => AList.erase c.assignment.key ag

-- ======================= the world

/-- The dispatcher's set for a node and what the node holds. -/
structure World where
  set : AssignmentSet
  agent : Agent

/-- A store event for the node, each read in its own transaction, or the
end of a batch: a message is sent and replayed. -/
inductive Event
  | updateTask (tx : ReadTx) (t : Task)
  | deleteTask (tx : ReadTx) (t : Task)
  | updateVolume (tx : ReadTx) (v : Volume)
  | removeVolume (v : Volume)
  | send

open AssignmentSet in
/-- One event; `none` is a handler's panic. -/
def step : Event → World → Option World
  | .updateTask tx t, w => (addOrUpdateTask tx t w.set).map fun (set, _) => { w with set }
  | .deleteTask _ t, w => some { w with set := (removeTask t w.set).1 }
  | .updateVolume tx v, w => (addOrUpdateVolume tx v w.set).map fun (set, _) => { w with set }
  | .removeVolume v, w => some { w with set := (removeVolume v w.set).1 }
  | .send, w =>
    let (changes, set) := w.set.message
    some ⟨set, changes.foldl Agent.apply w.agent⟩

end SwarmKit.Dispatcher.Assignments

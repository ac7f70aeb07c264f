import SwarmKit.Scheduler.Scheduler
import SwarmKit.Api.GenericResource
import SwarmKit.Lib.AListTotal

/-
What the scheduler keeps per node (manager/scheduler/nodeinfo.go
`NodeInfo`, `newNodeInfo`, `addTask`, `removeTask`, `taskReservations`),
with the resources, ports and counters that `Scheduler.lean`'s
`NodeInfo` leaves out.

# The data

A task here is what `addTask`, `removeTask` and the filters read of an
`api.Task`: its ID, service, desired state, the reservations of its
spec (`taskReservations`, zero when the spec has none), the
`MaxReplicas` of its placement (zero when it has none), the ports of its
endpoint (none without an endpoint) and the generic resources assigned
to it. A node is what they read of an `api.Node`: its ID, status,
availability and the generic resources of its description (none when
the description, its resources or their generic list is nil).

`Tasks` and `ActiveTasksCountByService` are Go maps; the first is an
`AList` by task ID, the second a function, a missing key reading as 0.
`usedHostPorts` is a set of (protocol, port) pairs. The failure history
(`recentFailures`, `taskFailed`, `countRecentFailures`) only orders
nodes and is not modelled.

# Values, not pointers

`addTask` stores the task pointer it is given and then sets that
task's `AssignedGenericResources`; here it returns the task as it left
it, which is also the one it stored. `AvailableResources` is a pointer
shared by every copy of a `NodeInfo`; here each `NodeInfo` is a value,
which is what a sequence of calls on one `NodeInfo` sees.
-/

namespace SwarmKit.Scheduler.Fit

open SwarmKit.Api

-- ======================== the data

/-- `api.Resources`: what a node has left, or what a task reserves. -/
structure Resources where
  nanoCPUs : Int
  memoryBytes : Int
  generic : List GenericResource
  deriving DecidableEq, Repr

/-- `api.PortConfig_Protocol`. -/
inductive Protocol
  | tcp | udp | sctp
  deriving DecidableEq, Repr

/-- `api.PortConfig_PublishMode`. -/
inductive PublishMode
  | ingress | host
  deriving DecidableEq, Repr

/-- `api.PortConfig`, as far as host ports go. -/
structure PortConfig where
  protocol : Protocol
  publishedPort : Nat
  publishMode : PublishMode
  deriving DecidableEq, Repr

/-- `hostPortSpec`: a used host port. -/
structure HostPortSpec where
  protocol : Protocol
  publishedPort : Nat
  deriving DecidableEq, Repr

/-- `api.NodeStatus_State`. -/
inductive NodeState
  | unknown | down | ready | disconnected
  deriving DecidableEq, Repr

/-- `api.NodeSpec_Availability`. -/
inductive NodeAvailability
  | active | pause | drain
  deriving DecidableEq, Repr

/-- What `NodeInfo` and the filters read of an `api.Node`. -/
structure Node where
  id : Nat
  state : NodeState
  availability : NodeAvailability
  /-- `Description.Resources.Generic`, `none` when any of them is nil. -/
  generic : Option (List GenericResource)
  deriving DecidableEq, Repr

/-- What `NodeInfo` and the filters read of an `api.Task`. -/
structure Task where
  id : Nat
  serviceID : Nat
  desiredState : TaskState
  /-- `taskReservations(t.Spec)`. -/
  reservations : Resources
  /-- `Spec.Placement.MaxReplicas`, zero without a placement. -/
  maxReplicas : Nat
  /-- `Endpoint.Ports`, none without an endpoint. -/
  ports : List PortConfig
  assignedGenericResources : List GenericResource
  deriving DecidableEq, Repr

/-- `DesiredState <= TaskStateCompleted`: the task counts as active. -/
def Task.active (t : Task) : Bool := decide (t.desiredState.rank ≤ TaskState.complete.rank)

/-- The host-mode ports a task publishes. -/
def Task.hostPorts (t : Task) : List HostPortSpec :=
  t.ports.filterMap fun p =>
    if p.publishMode = .host ∧ p.publishedPort ≠ 0 then some ⟨p.protocol, p.publishedPort⟩
    else none

/-- `NodeInfo`. -/
structure NodeInfo where
  node : Node
  tasks : AList fun _ : Nat => Task
  activeTasksCount : Int
  activeTasksCountByService : Nat → Int
  availableResources : Resources
  usedHostPorts : HostPortSpec → Bool

namespace NodeInfo

/-- A counter map with the entry of `k` moved by `d`. -/
def bump (m : Nat → Int) (k : Nat) (d : Int) : Nat → Int :=
  fun k' => if k' = k then m k' + d else m k'

/-- The `NodeInfo` `newNodeInfo` starts from, before adding its tasks. -/
def empty (n : Node) (availableResources : Resources) : NodeInfo :=
  ⟨n, ∅, 0, fun _ => 0, availableResources, fun _ => false⟩

/-- `addTask(t)`: the `NodeInfo` afterwards, the task as `addTask` left
it, and whether it changed anything. A tracked task only moves the
counters, when it crosses `Completed`; a new one reserves its resources
(the error of `Claim` is dropped) and its host ports. -/
def addTask (t : Task) (ni : NodeInfo) : NodeInfo × Task × Bool :=
  match ni.tasks.lookup t.id with
  | some oldTask =>
    if t.active ∧ ¬oldTask.active then
      ({ ni with
        tasks := ni.tasks.insert t.id t, activeTasksCount := ni.activeTasksCount + 1,
        activeTasksCountByService := bump ni.activeTasksCountByService t.serviceID 1 }, t, true)
    else if ¬t.active ∧ oldTask.active then
      ({ ni with
        tasks := ni.tasks.insert t.id t, activeTasksCount := ni.activeTasksCount - 1,
        activeTasksCountByService := bump ni.activeTasksCountByService t.serviceID (-1) }, t, true)
    else (ni, t, false)
  | none =>
    let r := ni.availableResources
    -- `t.AssignedGenericResources` is emptied, then `Claim` fills it
    let (generic, assigned) :=
      match GenericResource.claim r.generic [] t.reservations.generic with
      | .ok (g, a) => (g, a)
      | .error _ => (r.generic, [])
    let t' := { t with assignedGenericResources := assigned }
    let d : Int := if t.active then 1 else 0
    ({ ni with
      tasks := ni.tasks.insert t.id t',
      availableResources :=
        ⟨r.nanoCPUs - t.reservations.nanoCPUs, r.memoryBytes - t.reservations.memoryBytes, generic⟩,
      usedHostPorts := fun p => p ∈ t.hostPorts || ni.usedHostPorts p,
      activeTasksCount := ni.activeTasksCount + d,
      activeTasksCountByService := bump ni.activeTasksCountByService t.serviceID d }, t', true)

/-- `removeTask(t)`: an untracked task changes nothing. A tracked one
leaves the map; the counters go down by the tracked task's state, the
ports, resources and generic units given back are the argument's. -/
def removeTask (t : Task) (ni : NodeInfo) : NodeInfo × Bool :=
  match ni.tasks.lookup t.id with
  | none => (ni, false)
  | some oldTask =>
    let d : Int := if oldTask.active then 1 else 0
    let r := ni.availableResources
    let generic :=
      match ni.node.generic with
      | none => r.generic
      | some nodeRes => GenericResource.reclaim r.generic t.assignedGenericResources nodeRes
    ({ ni with
      tasks := ni.tasks.erase t.id,
      activeTasksCount := ni.activeTasksCount - d,
      activeTasksCountByService := bump ni.activeTasksCountByService t.serviceID (-d),
      usedHostPorts := fun p => p ∉ t.hostPorts && ni.usedHostPorts p,
      availableResources :=
        ⟨r.nanoCPUs + t.reservations.nanoCPUs, r.memoryBytes + t.reservations.memoryBytes,
          generic⟩ }, true)

end NodeInfo

/-- `newNodeInfo(n, tasks, availableResources)`: every task of the map
added in turn (in the map's iteration order, here the list's). -/
def newNodeInfo (n : Node) (tasks : List Task) (availableResources : Resources) : NodeInfo :=
  tasks.foldl (fun ni t => (ni.addTask t).1) (NodeInfo.empty n availableResources)

end SwarmKit.Scheduler.Fit

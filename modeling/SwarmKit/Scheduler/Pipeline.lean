import SwarmKit.Scheduler.NodeInfo

/-
The filter pipeline and the assignment loop (manager/scheduler/
filter.go `ReadyFilter`, `ResourceFilter`, `HostPortFilter`,
`MaxReplicasFilter`; pipeline.go `Pipeline.SetTask`, `Process`;
nodeset.go `nodeInfo`, `updateNode`; scheduler.go
`scheduleNTasksOnNodes`), over the `NodeInfo` of `NodeInfo.lean`.

# The pipeline

`SetTask(t)` enables each filter of `defaultFilters` that has something
to check for `t`; `Process(n)` passes a node when every enabled filter
does. The ready, resource, host-port and max-replicas filters read what
`addTask` changes. The plugin, constraint and platform filters read only
the node's spec and description, which no assignment changes: the
pipeline carries their verdict as one predicate on the node. The failure
counts `Explain` reports from are left out.

# The loop

`scheduleNTasksOnNodes` walks the task group (a Go map, here a list in
its iteration order) and assigns each task not decided yet to the node
at `nodeIter`. It fetches that node's `NodeInfo` from the node set, adds
the task, writes it back to the node set and to the slice, and records
the decision. It then moves `nodeIter` on (by `nodeLess` in the first
pass, one node at a time after that) and skips nodes, remembering them
in `failedConstraints`, until one passes the pipeline; when none does it
returns. The node it starts on is not checked: its caller hands it the
nodes the decision tree's leaf filtered.

In Go, copies of a `NodeInfo` share its maps and its resources; here
each copy is a value, and the write-back keeps the slice's copy and the
node set's equal. The volume attachments, the status and the scheduler's
`allTasks` entry of the assigned task are left out.
-/

namespace SwarmKit.Scheduler.Fit

open SwarmKit.Api

-- ========================= filters

/-- `ReadyFilter.Check`: the node is ready and active. -/
def readyCheck (n : NodeInfo) : Bool :=
  n.node.state = .ready && n.node.availability = .active

/-- `ResourceFilter.SetTask`: the task reserves something. -/
def resourceEnabled (t : Task) : Bool :=
  t.reservations.nanoCPUs ≠ 0 || t.reservations.memoryBytes ≠ 0 || !t.reservations.generic.isEmpty

/-- `ResourceFilter.Check`: the node has what the task reserves. -/
def resourceCheck (t : Task) (n : NodeInfo) : Bool :=
  decide (t.reservations.nanoCPUs ≤ n.availableResources.nanoCPUs) &&
    decide (t.reservations.memoryBytes ≤ n.availableResources.memoryBytes) &&
    t.reservations.generic.all fun v =>
      match GenericResource.hasEnough n.availableResources.generic v with
      | .ok enough => enough
      | .error _ => false

/-- `HostPortFilter.SetTask`: the task publishes a host-mode port. -/
def hostPortEnabled (t : Task) : Bool := !t.hostPorts.isEmpty

/-- `HostPortFilter.Check`: none of the task's host ports is in use. -/
def hostPortCheck (t : Task) (n : NodeInfo) : Bool := t.hostPorts.all fun p => !n.usedHostPorts p

/-- `MaxReplicasFilter.SetTask`. -/
def maxReplicasEnabled (t : Task) : Bool := decide (0 < t.maxReplicas)

/-- `MaxReplicasFilter.Check`: fewer active tasks of the service than the
limit, the count read as a `uint64`. -/
def maxReplicasCheck (t : Task) (n : NodeInfo) : Bool :=
  decide (n.activeTasksCountByService t.serviceID % 2 ^ 64 < t.maxReplicas)

/-- The pipeline after `SetTask(t)`: the task the filters read, and the
verdict of the filters that read only the node. -/
structure Pipeline where
  task : Task
  staticCheck : Node → Bool

/-- `Pipeline.Process(n)`. -/
def Pipeline.process (p : Pipeline) (n : NodeInfo) : Bool :=
  readyCheck n && (!resourceEnabled p.task || resourceCheck p.task n) && p.staticCheck n.node &&
    (!hostPortEnabled p.task || hostPortCheck p.task n) &&
    (!maxReplicasEnabled p.task || maxReplicasCheck p.task n)

-- ======================== the loop

/-- A node set: `NodeInfo` by node ID. -/
abbrev NodeSet := AList fun _ : Nat => NodeInfo

/-- The zero `NodeInfo` that `nodeSet.nodeInfo` returns with its error. -/
def NodeInfo.zero : NodeInfo :=
  ⟨⟨0, .unknown, .active, none⟩, ∅, 0, fun _ => 0, ⟨0, 0, []⟩, fun _ => false⟩

/-- `nodeSet.updateNode(n)`: only a node the set has is replaced. -/
def updateNode (n : NodeInfo) (ns : NodeSet) : NodeSet :=
  if n.node.id ∈ ns then ns.insert n.node.id n else ns

/-- A `schedulingDecision`: the task, the task as assigned, and its node. -/
structure Decision where
  old : Task
  new : Task
  nodeID : Nat
  deriving DecidableEq, Repr

/-- The loop's state: the node slice, the node set, `nodeIter`,
`failedConstraints`, the decisions and `tasksScheduled`. -/
structure Assign where
  nodes : List NodeInfo
  nodeSet : NodeSet
  nodeIter : Nat
  failed : List Nat
  decisions : AList fun _ : Nat => Decision
  scheduled : Nat

/-- The loop that skips nodes from `nodeIter` on until one passes the
pipeline, with `fuel` the number of moves left before every node has
been tried: the node found, or none, and `failedConstraints`. -/
def recheck (p : Pipeline) (nodes : List NodeInfo) : Nat → Nat → List Nat → Option Nat × List Nat
  | 0, _, failed => (none, failed)
  | fuel + 1, nodeIter, failed =>
    let i := nodeIter % nodes.length
    if i ∈ failed ∨ (nodes[i]?.map p.process) ≠ some true then
      recheck p nodes fuel (nodeIter + 1) (failed.insert i)
    else (some nodeIter, failed)

/-- Where `nodeIter` moves after an assignment to `nodeInfo`: in the
first pass to the next node if `nodeLess` prefers it, later always. -/
def advance (nodeLess : NodeInfo → NodeInfo → Bool) (nodes : List NodeInfo) (nodeIter : Nat)
    (nodeInfo : NodeInfo) : Nat :=
  if nodeIter + 1 < nodes.length then
    match nodes[(nodeIter + 1) % nodes.length]? with
    | some next => if nodeLess next nodeInfo then nodeIter + 1 else nodeIter
    | none => nodeIter
  else nodeIter + 1

/-- The assignment of task `t` to the node at index `i`: the task is
added to the node set's `NodeInfo` of the node, which is written back
to the set and the slice if `addTask` changed it, and the decision is
recorded. Also the `NodeInfo` the loop goes on comparing with. -/
def assignTask (t : Task) (i : Nat) (node : NodeInfo) (a : Assign) : NodeInfo × Assign :=
  let (nodeInfo, newT, a) :=
    match a.nodeSet.lookup node.node.id with
    | some ni =>
      let (ni', newT, changed) := ni.addTask t
      if changed then (ni', newT, { a with nodeSet := updateNode ni' a.nodeSet, nodes := a.nodes.set i ni' })
      else (ni', newT, a)
    | none => (NodeInfo.zero, t, a)
  (nodeInfo, { a with
    decisions := a.decisions.insert t.id ⟨t, newT, node.node.id⟩, scheduled := a.scheduled + 1 })

/-- `scheduleNTasksOnNodes(n, taskGroup, nodes, ...)` from the loop's
state: the state it returns in. -/
def scheduleNTasksOnNodes (p : Pipeline) (nodeLess : NodeInfo → NodeInfo → Bool) (n : Nat) :
    List Task → Assign → Assign
  | [], a => a
  | t :: ts, a =>
    if t.id ∈ a.decisions then scheduleNTasksOnNodes p nodeLess n ts a
    else
      let i := a.nodeIter % a.nodes.length
      match a.nodes[i]? with
      | none => a
      | some node =>
        let (nodeInfo, a) := assignTask t i node a
        if a.scheduled = n then a
        else
          let nodeIter := advance nodeLess a.nodes a.nodeIter nodeInfo
          match recheck p a.nodes a.nodes.length nodeIter a.failed with
          | (none, failed) => { a with nodeIter, failed }
          | (some nodeIter, failed) => scheduleNTasksOnNodes p nodeLess n ts { a with nodeIter, failed }

end SwarmKit.Scheduler.Fit

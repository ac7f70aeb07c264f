import SwarmKit.Raft.Membership
import SwarmKit.Ca.Signer
import SwarmKit.Controlapi.Secrets
import Mathlib.Data.Finset.Basic

/-
The role manager and the node calls that feed it
(manager/role_manager.go `Run`, `reconcileRole`, `removeMember`,
`evictRemovedNode`; manager/controlapi/node.go `UpdateNode`,
`RemoveNode`, `validateNodeSpec`; manager/state/raft/raft.go
`CanRemoveMember`, `removeMember`, `RemoveMember`, `GetMemberByNodeID`).

# The world

A node is what these read and write of an `api.Node`: its ID,
`Meta.Version`, the observed `Role`, `Spec.DesiredRole` and whether
`Status.State` is `READY`. The world holds the node table with the
store's version counter; the raft membership as the leader has applied
it (`Raft.Membership.Cluster`), the leader's raft ID and the peers its
transport sees active; and the role manager's own state: its watch
queue of node updates and deletions, `pendingReconciliation` (the node
copies it keeps, by node ID) and `pendingRemoval`.

# Steps

A label is one atomic step: a control API call (a refused call changes
nothing), another component's write of a node's status, the CA creating
a node, the transport's view changing, the role manager handling the
head of its queue, one iteration of its ticker loop over either map, or
a role manager starting on a new leader. The environment's answers
inside a role manager step are its `Outcome`.

# Left out

The role manager runs on the leader; losing leadership stops it, and a
role manager that keeps running after its transfer is allowed here.
A removal that commits after `configure` gave up, raft `Join` (the
role manager never adds members), the cluster object's certificate
blacklist and `orphanNodeTasks` in `RemoveNode`, and the node spec's
other fields are not modelled. Node IDs come from `identity.NewID`: a
created node's ID is used by no stored node and no member.
-/

namespace SwarmKit.Manager

open SwarmKit.Raft.Membership
open SwarmKit.Ca (NodeRole)
open SwarmKit.Orchestrator (Table)
open SwarmKit.Controlapi (Status StoreErr errInvalidArgument)

-- ======================== the data

/-- What the role manager and the node calls read of an `api.Node`. -/
structure Node where
  id : NodeID
  version : Nat
  role : NodeRole
  desiredRole : NodeRole
  ready : Bool
  deriving DecidableEq, Repr

/-- The store events the role manager watches: `EventUpdateNode` with
the node as written, and `EventDeleteNode`, of which only the ID is
read. -/
inductive Event
  | updateNode (n : Node)
  | deleteNode (id : NodeID)
  deriving DecidableEq, Repr

/-- The node an event is about. -/
def Event.nodeID : Event → NodeID
  | .updateNode n => n.id
  | .deleteNode id => id

/-- The store, the leader's raft view and the role manager's state. -/
structure World where
  nodes : Table Node
  version : Nat
  cluster : Cluster
  /-- `n.Config.ID` of the leader, where the role manager runs -/
  leader : RaftID
  /-- the raft IDs for which `transport.Active` holds -/
  active : List RaftID
  events : List Event
  /-- `pendingReconciliation` -/
  pending : Table Node
  /-- `pendingRemoval` -/
  removal : Finset NodeID

/-- The environment's answers inside one role manager step. -/
structure Outcome where
  /-- the store transaction's proposal commits -/
  storeOk : Bool
  /-- `TransferLeadership` returns nil -/
  transferred : Bool
  /-- the removal's conf change commits while `configure` waits -/
  committed : Bool
  /-- the transport's `RemovePeer` succeeds -/
  peerOk : Bool
  deriving DecidableEq, Repr

namespace World

/-- A committed write of `n`: stored under its ID with the store's next
version, and published to the watch queue. -/
def write (n : Node) (w : World) : World :=
  let n := { n with version := w.version + 1 }
  { w with nodes := w.nodes.insert n.id n, version := w.version + 1,
           events := w.events ++ [.updateNode n] }

/-- A committed `DeleteNode`, published to the watch queue. -/
def delete (id : NodeID) (w : World) : World :=
  { w with nodes := w.nodes.erase id, version := w.version + 1,
           events := w.events ++ [.deleteNode id] }

variable (n : Node) (id : NodeID) (w : World)

@[simp] theorem write_nodes :
    (w.write n).nodes = w.nodes.insert n.id { n with version := w.version + 1 } := rfl
@[simp] theorem write_events :
    (w.write n).events = w.events ++ [.updateNode { n with version := w.version + 1 }] := rfl
@[simp] theorem write_pending : (w.write n).pending = w.pending := rfl
@[simp] theorem write_removal : (w.write n).removal = w.removal := rfl
@[simp] theorem write_cluster : (w.write n).cluster = w.cluster := rfl
@[simp] theorem write_leader : (w.write n).leader = w.leader := rfl
@[simp] theorem write_active : (w.write n).active = w.active := rfl

@[simp] theorem delete_nodes : (w.delete id).nodes = w.nodes.erase id := rfl
@[simp] theorem delete_events : (w.delete id).events = w.events ++ [.deleteNode id] := rfl
@[simp] theorem delete_pending : (w.delete id).pending = w.pending := rfl
@[simp] theorem delete_removal : (w.delete id).removal = w.removal := rfl
@[simp] theorem delete_cluster : (w.delete id).cluster = w.cluster := rfl
@[simp] theorem delete_leader : (w.delete id).leader = w.leader := rfl
@[simp] theorem delete_active : (w.delete id).active = w.active := rfl

end World

-- ============================ raft

/-- `CanRemoveMember(id)` on the leader: the members other than `id` the
leader reaches, itself or a peer its transport sees active, must be a
quorum of the current membership. -/
def canRemoveMember (c : Cluster) (self : RaftID) (active : List RaftID) (id : RaftID) : Bool :=
  let nreachable := c.members.countP fun m =>
    decide (m.2.raftID ≠ id ∧ (m.2.raftID = self ∨ m.2.raftID ∈ active))
  let nquorum := (c.members.length - 1) / 2 + 1
  decide (nquorum ≤ nreachable)

/-- `GetMemberByNodeID(nodeID)`: a member of that node (the code ranges
over a map; here the first in the list). -/
def getMemberByNodeID (c : Cluster) (nodeID : NodeID) : Option RaftMember :=
  (c.members.find? (·.2.nodeID = nodeID)).map Prod.snd

/-- The conf change `removeMember` proposes; its empty `Context`
unmarshals to the zero member. -/
def removeNodeChange (id : RaftID) : ConfChange := ⟨id, .removeNode, id, ⟨0, 0, 0⟩⟩

/-- `RemoveMember(ctx, id)` on the leader, as far as the membership goes:
refused (`ErrNoRaftMember`, `ErrCannotRemoveMember`) unless the leader
is a member and the removal keeps a quorum; then the conf change, when
it commits, goes through `processConfChange`. Its error is only logged
by the role manager, so only the cluster is returned. -/
def raftRemoveMember (o : Outcome) (w : World) (id : RaftID) : Cluster :=
  if (w.cluster.getMember w.leader).isNone then w.cluster
  else if !canRemoveMember w.cluster w.leader w.active id then w.cluster
  else if !o.committed then w.cluster
  else (processConfChange w.leader o.peerOk (removeNodeChange id) w.cluster).1

-- ================ the role manager

/-- `removeMember(ctx, member)`: nothing when the removal would lose
quorum; the leader demoting itself first tries to hand leadership over
and stops there when that worked; otherwise `RemoveMember`. -/
def removeMember (o : Outcome) (member : RaftMember) (w : World) : World :=
  if !canRemoveMember w.cluster w.leader w.active member.raftID then w
  else if member.raftID = w.leader ∧ o.transferred then w
  else { w with cluster := raftRemoveMember o w member.raftID }

/-- The transaction `reconcileRole` runs to set a node's role: nothing is
written when the stored node is gone or its desired or observed role is
no longer the copy's; `none` when the write's proposal fails. -/
def setRole (storeOk : Bool) (node : Node) (role : NodeRole) (w : World) : Option World :=
  match w.nodes.lookup node.id with
  | none => some w
  | some updatedNode =>
    if updatedNode.desiredRole ≠ node.desiredRole ∨ updatedNode.role ≠ node.role then some w
    else if storeOk then some (w.write { updatedNode with role })
    else none

/-- The end of a promotion or demotion in `reconcileRole`: the node
leaves `pendingReconciliation` when the transaction returned nil. -/
def commitRole (o : Outcome) (node : Node) (role : NodeRole) (w : World) : World :=
  match setRole o.storeOk node role w with
  | some w => { w with pending := w.pending.erase node.id }
  | none => w

/-- `reconcileRole(ctx, node)` on the copy `node`. -/
def reconcileRole (o : Outcome) (node : Node) (w : World) : World :=
  if node.role = node.desiredRole then { w with pending := w.pending.erase node.id }
  else if node.desiredRole = .manager ∧ node.role = .worker then commitRole o node .manager w
  else if node.desiredRole = .worker ∧ node.role = .manager then
    -- the node's role is written only once it has left the raft
    match getMemberByNodeID w.cluster node.id with
    | some member => removeMember o member w
    | none => commitRole o node .worker w
  else w

/-- `evictRemovedNode(ctx, nodeID)`. -/
def evictRemovedNode (o : Outcome) (nodeID : NodeID) (w : World) : World :=
  match getMemberByNodeID w.cluster nodeID with
  | some member => removeMember o member w
  | none => { w with removal := w.removal.erase nodeID }

/-- `Run`'s handling of the next watch event; not enabled on an empty
queue. -/
def handleEvent (o : Outcome) (w : World) : Option World :=
  match w.events with
  | [] => none
  | .updateNode n :: rest =>
    some (reconcileRole o n { w with events := rest, pending := w.pending.insert n.id n })
  | .deleteNode id :: rest =>
    some (evictRemovedNode o id { w with events := rest, removal := insert id w.removal })

/-- One iteration of the ticker's loop over `pendingReconciliation`. -/
def reconcilePending (o : Outcome) (id : NodeID) (w : World) : Option World :=
  (w.pending.lookup id).map fun node => reconcileRole o node w

/-- One iteration of the ticker's loop over `pendingRemoval`. -/
def evictPending (o : Outcome) (id : NodeID) (w : World) : Option World :=
  if id ∈ w.removal then some (evictRemovedNode o id w) else none

/-- `Run`'s start on the leader `leader`: the watch starts after the
snapshot, every node is pending reconciliation, and every member whose
node is not in the store is pending removal. -/
def start (leader : RaftID) (w : World) : World :=
  { w with leader, events := [], pending := w.nodes,
           removal := ((w.cluster.members.map (·.2.nodeID)).filter (· ∉ w.nodes)).toFinset }

-- ================= the control API

/-- `api.NodeSpec`: the desired role is the field read here. -/
structure NodeSpec where
  desiredRole : NodeRole
  deriving DecidableEq, Repr

/-- `api.UpdateNodeRequest`; `none` for the empty node ID and for a nil
version or spec. -/
structure UpdateNodeRequest where
  nodeID : Option NodeID
  nodeVersion : Option Nat
  spec : Option NodeSpec
  deriving DecidableEq, Repr

/-- `api.RemoveNodeRequest`; `none` for the empty node ID. -/
structure RemoveNodeRequest where
  nodeID : Option NodeID
  force : Bool
  deriving DecidableEq, Repr

/-- `validateNodeSpec(spec)`. -/
def validateNodeSpec : Option NodeSpec → Except Status NodeSpec
  | none => .error errInvalidArgument
  | some spec => .ok spec

/-- `store.FindNodes(tx, store.ByRole(role))`: by the observed role. -/
def findNodesByRole (role : NodeRole) (w : World) : List Node :=
  (w.nodes.entries.map (·.2)).filter (·.role = role)

/-- Whether the managers found are exactly `node`:
`len(managers) == 1 && managers[0].ID == node.ID`. -/
def isLastManager (managers : List Node) (node : Node) : Bool :=
  match managers with
  | [m] => decide (m.id = node.id)
  | _ => false

/-- `UpdateNode`'s demotion sanity checks. -/
def demotionChecks (node : Node) (w : World) : Except Status Unit :=
  if isLastManager (findNodesByRole .manager w) node then
    .error ⟨.failedPrecondition, "attempting to demote the last manager of the swarm"⟩
  else
    match getMemberByNodeID w.cluster node.id with
    | none => .error ⟨.notFound, "can't find manager in raft memberlist"⟩
    | some member =>
      if !canRemoveMember w.cluster w.leader w.active member.raftID then
        .error ⟨.failedPrecondition,
          "can't remove member from the raft: this would result in a loss of quorum"⟩
      else .ok ()

/-- `store.UpdateNode` of the node read in the transaction, with the
request's version: refused with `ErrSequenceConflict` when that is not
the stored one. -/
def updateStoredNode (node : Node) (nodeVersion : Nat) (w : World) : Except Status World :=
  if node.version ≠ nodeVersion then .error StoreErr.sequenceConflict.status
  else .ok (w.write node)

/-- `UpdateNode(request)`. -/
def updateNode (request : UpdateNodeRequest) (w : World) : Except Status World :=
  match request.nodeID, request.nodeVersion with
  | some nodeID, some nodeVersion => do
    let spec ← validateNodeSpec request.spec
    match w.nodes.lookup nodeID with
    | none => .error ⟨.notFound, s!"node {nodeID} not found"⟩
    | some node =>
      if node.desiredRole = .manager ∧ spec.desiredRole = .worker then
        demotionChecks node w
      updateStoredNode { node with desiredRole := spec.desiredRole } nodeVersion w
  | _, _ => .error errInvalidArgument

/-- `RemoveNode(request)`; the raft node is always there on a manager. -/
def removeNode (request : RemoveNodeRequest) (w : World) : Except Status World :=
  match request.nodeID with
  | none => .error errInvalidArgument
  | some nodeID =>
    match w.nodes.lookup nodeID with
    | none => .error ⟨.notFound, s!"node {nodeID} not found"⟩
    | some node =>
      if node.desiredRole = .manager ∧ (getMemberByNodeID w.cluster nodeID).isSome then
        .error ⟨.failedPrecondition, s!"node {nodeID} is a cluster manager and is a member of the raft cluster. It must be demoted to worker before removal"⟩
      else if !request.force ∧ node.ready then
        .error ⟨.failedPrecondition, s!"node {nodeID} is not down and can't be removed"⟩
      else .ok (w.delete nodeID)

-- =========================== steps

/-- The labels: what happens in one atomic step. -/
inductive Act
  | updateNode (request : UpdateNodeRequest)
  | removeNode (request : RemoveNodeRequest)
  /-- the dispatcher writes a node's status -/
  | setReady (id : NodeID) (ready : Bool)
  /-- the CA creates a node, its role and desired role from one token -/
  | createNode (id : NodeID) (role : NodeRole)
  | setActive (active : List RaftID)
  | handleEvent (o : Outcome)
  | reconcilePending (id : NodeID) (o : Outcome)
  | evictPending (id : NodeID) (o : Outcome)
  | start (leader : RaftID)
  deriving DecidableEq, Repr

/-- A control API call as a step: a refused call changes nothing. -/
def callStep (r : Except Status World) (w : World) : World :=
  match r with
  | .ok w' => w'
  | .error _ => w

/-- One step. A created node's ID is fresh, and a new leader is a member. -/
def step : Act → World → Option World
  | .updateNode request, w => some (callStep (updateNode request w) w)
  | .removeNode request, w => some (callStep (removeNode request w) w)
  | .setReady id ready, w => (w.nodes.lookup id).map fun n => w.write { n with ready }
  | .createNode id role, w =>
    if id ∉ w.nodes ∧ getMemberByNodeID w.cluster id = none then
      some { w with nodes := w.nodes.insert id ⟨id, w.version + 1, role, role, false⟩,
                    version := w.version + 1 }
    else none
  | .setActive active, w => some { w with active }
  | .handleEvent o, w => handleEvent o w
  | .reconcilePending id o, w => reconcilePending o id w
  | .evictPending id o, w => evictPending o id w
  | .start leader, w => if (w.cluster.getMember leader).isSome then some (start leader w) else none

end SwarmKit.Manager

import SwarmKit.Raft.Membership

/-
Joining the raft cluster (raft.go `Join`, `addMember`,
`updateNodeBlocking`, `configure`), on the leader, over the membership
of `Membership.lean`.

# The leader

`Join` holds `membershipLock` from its scan of the member list until
`configure` returns, so joins run one at a time. It looks for a member
of the joining node: with the same address it answers at once, with
another address it updates the member locally and proposes an
`UpdateNode`; with none it draws a random raft ID that is neither a
member nor removed and proposes an `AddNode`. `configure` registers a
wait on the change's ID, proposes it, and returns when the change is
applied, or earlier when its context is done (a timeout, the node
stopping) or its wait is cancelled (`cancelAll` when leadership is lost
or an unwaited entry is processed). An early return does not withdraw
the proposal: the entry may still be committed and applied.

`Leader` is the leader's applied cluster, the conf changes in its log
not yet applied, the ID generator, and the change the `Join` holding
the lock waits for. Besides joins, the log receives conf changes
proposed by other members (`remote`), and a leadership change may drop
its uncommitted tail (`lose`). The address resolution and the health
check of the joining node are the environment's: `addr` is the address
that passed them. The answers sent back are not modelled.
-/

namespace SwarmKit.Raft.Membership

/-- The leader serving `Join`. -/
structure Leader where
  self : RaftID
  cluster : Cluster
  log : List ConfChange
  nextID : Nat
  waiting : Option Nat

namespace Leader

/-- A leader whose cluster holds itself alone. -/
def init (self : RaftID) (nodeID : NodeID) (addr : Addr) : Leader :=
  ⟨self, Cluster.empty.setMember self ⟨self, nodeID, addr⟩, [], 0, none⟩

/-- The member of a node found by `Join`'s scan of `Members()`. -/
def memberOfNode (c : Cluster) (nodeID : NodeID) : Option RaftMember :=
  (c.members.find? (·.2.nodeID = nodeID)).map Prod.snd

/-- `configure(cc)`: the change gets the next request ID and a wait, and
is appended to the log; a refused proposal changes nothing more. -/
def configure (proposeOk : Bool) (type : ConfChangeType) (m : RaftMember) (l : Leader) : Leader :=
  if proposeOk then
    { l with log := l.log ++ [⟨l.nextID, type, m.raftID, m⟩], nextID := l.nextID + 1, waiting := some l.nextID }
  else { l with nextID := l.nextID + 1 }

/-- `Join` from `nodeID` at `addr`, with `raftID` the first random ID the
loop accepts; disabled while another `Join` holds the lock. -/
def join (nodeID : NodeID) (addr : Addr) (raftID : RaftID) (proposeOk : Bool) (l : Leader) :
    Option Leader :=
  match l.waiting with
  | some _ => none
  | none =>
    match memberOfNode l.cluster nodeID with
    | some m =>
      if addr = m.addr then some l
      else
        -- the leader's own map is updated before the change is proposed
        match l.cluster.updateMember m.raftID ⟨m.raftID, m.nodeID, addr⟩ with
        | .error _ => some l
        | .ok c => some ({ l with cluster := c }.configure proposeOk .updateNode ⟨m.raftID, m.nodeID, addr⟩)
    | none =>
      if raftID = 0 ∨ (l.cluster.getMember raftID).isSome ∨ l.cluster.isIDRemoved raftID then none
      else some (l.configure proposeOk .addNode ⟨raftID, nodeID, addr⟩)

/-- The next conf change in the log is committed and `processConfChange`
applies it; the `Join` waiting for it returns. -/
def apply (peerOk : Bool) (l : Leader) : Option Leader :=
  match l.log with
  | [] => none
  | cc :: rest =>
    some { l with
      cluster := (processConfChange l.self peerOk cc l.cluster).1,
      log := rest,
      waiting := if l.waiting = some cc.id then none else l.waiting }

/-- `configure` returns early: its context is done or its wait was
cancelled. -/
def cancel (l : Leader) : Option Leader :=
  match l.waiting with
  | some _ => some { l with waiting := none }
  | none => none

/-- Leadership is lost and won back: the log keeps its first `k` changes
and every wait is cancelled. -/
def lose (k : Nat) (l : Leader) : Option Leader :=
  some { l with log := l.log.take k, waiting := none }

/-- A conf change proposed by another member reaches the log. -/
def remote (cc : ConfChange) (l : Leader) : Option Leader :=
  some { l with log := l.log ++ [cc] }

/-- A node with no member joins under a fresh raft ID: an `AddNode` of
it is proposed. -/
theorem join_of_new {l : Leader} {nodeID : NodeID} {addr : Addr} {raftID : RaftID} (ok : Bool)
    (hlock : l.waiting = none) (hnode : memberOfNode l.cluster nodeID = none) (h0 : raftID ≠ 0)
    (hm : l.cluster.getMember raftID = none) (hr : raftID ∉ l.cluster.removed) :
    l.join nodeID addr raftID ok = some (l.configure ok .addNode ⟨raftID, nodeID, addr⟩) := by
  have hrem : l.cluster.isIDRemoved raftID = false := by simpa [Cluster.isIDRemoved] using hr
  simp [join, hlock, hnode, h0, hm, hrem]

@[simp] theorem configure_cluster (ok : Bool) (type : ConfChangeType) (m : RaftMember)
    (l : Leader) : (l.configure ok type m).cluster = l.cluster := by
  unfold configure
  split <;> rfl

/-- A proposed change is appended to the log and waited for. -/
theorem configure_true (type : ConfChangeType) (m : RaftMember) (l : Leader) :
    l.configure true type m = { l with
      log := l.log ++ [⟨l.nextID, type, m.raftID, m⟩], nextID := l.nextID + 1,
      waiting := some l.nextID } :=
  rfl

end Leader

/-- An event at the leader, with the environment's choices. -/
inductive JoinAct where
  | join (nodeID : NodeID) (addr : Addr) (raftID : RaftID) (proposeOk : Bool)
  | apply (peerOk : Bool)
  | cancel
  | lose (k : Nat)
  | remote (cc : ConfChange)
  deriving DecidableEq, Repr

/-- One event. -/
def Leader.step : JoinAct → Leader → Option Leader
  | .join nodeID addr raftID proposeOk => Leader.join nodeID addr raftID proposeOk
  | .apply peerOk => Leader.apply peerOk
  | .cancel => Leader.cancel
  | .lose k => Leader.lose k
  | .remote cc => Leader.remote cc

end SwarmKit.Raft.Membership

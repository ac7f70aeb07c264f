import SwarmKit.Lib.Lts

/-
Raft membership (membership/cluster.go `Cluster`; raft.go
`processConfChange`, `applyAddNode`, `applyUpdateNode`,
`applyRemoveNode`, `registerNode`, `restoreFromSnapshot`).

# The cluster

`Cluster` holds the member map, raft ID to `RaftMember`, and the set of
removed raft IDs, which can never be reused. The map is a list of pairs
whose keys are distinct (a field of the structure), updated the way a Go
map assignment and `delete` update it. Node IDs and addresses are
strings the code only compares, so they are numbers here. The peer
broadcast, the member's connection and the error texts are not
modelled; each error is a constructor.

# Applying a conf change

`processConfChange` validates the change and applies it whatever the
validation said: the first error reaches the proposer's wait, the
change is applied regardless. A conf change carries its member as
`Context`, which is always a `RaftMember` here (the unmarshal errors are
not modelled). Applying may call the transport (`AddPeer`, `UpdatePeer`,
`RemovePeer`) and `Campaign`; whether those calls succeed is the
environment's `peerOk`. A failed call returns before the cluster is
touched, and `restoreFromSnapshot` logs and skips a member whose
registration failed. `ApplyConfChange` on the raft node (its own
`ConfState`) is not modelled.

# The operations

Every path that changes the member list (`processConfChange`, snapshot
restore, WAL replay in storage.go, the force-new-cluster bootstrap, the
address update at startup, `Join`) goes through the `Cluster` methods
`AddMember`, `RemoveMember`, `UpdateMember`, `ClearMember` and `Clear`,
and `Op` names each of them together with the two composite ones.
-/

namespace SwarmKit.Raft.Membership

-- ========================= members

/-- A raft ID (`uint64`). -/
abbrev RaftID := Nat

/-- A node ID (a string the code only compares). -/
abbrev NodeID := Nat

/-- A member's address (a string the code only compares). -/
abbrev Addr := Nat

/-- `api.RaftMember`. -/
structure RaftMember where
  raftID : RaftID
  nodeID : NodeID
  addr : Addr
  deriving DecidableEq, Repr

/-- The errors of the membership package. -/
inductive ClusterErr
  /-- `ErrIDExists` -/
  | idExists
  /-- `ErrIDRemoved` -/
  | idRemoved
  /-- `ErrIDNotFound` -/
  | idNotFound
  /-- `ErrConfigChangeInvalid` -/
  | configChangeInvalid
  /-- "node ID mismatch match on node update" -/
  | nodeIDMismatch
  deriving DecidableEq, Repr

/-- `raftpb.ConfChangeType`. -/
inductive ConfChangeType
  | addNode
  | removeNode
  | updateNode
  | addLearnerNode
  deriving DecidableEq, Repr

/-- `raftpb.ConfChange` with its `Context` unmarshalled. -/
structure ConfChange where
  id : Nat
  type : ConfChangeType
  nodeID : RaftID
  context : RaftMember
  deriving DecidableEq, Repr

/-- `api.ClusterSnapshot`: the members and removed IDs of a snapshot. -/
structure ClusterSnapshot where
  members : List RaftMember
  removed : List RaftID
  deriving DecidableEq, Repr

-- ============================ maps

/-- Dropping the entries of one key keeps the keys distinct. -/
theorem keys_nodup_filter {l : List (RaftID × RaftMember)} (h : (l.map Prod.fst).Nodup)
    (id : RaftID) : ((l.filter (·.1 ≠ id)).map Prod.fst).Nodup :=
  h.sublist ((List.filter_sublist).map Prod.fst)

/-- Setting a key after dropping its entries keeps the keys distinct. -/
theorem keys_nodup_set {l : List (RaftID × RaftMember)} (h : (l.map Prod.fst).Nodup)
    (id : RaftID) (m : RaftMember) : (((id, m) :: l.filter (·.1 ≠ id)).map Prod.fst).Nodup := by
  rw [List.map_cons, List.nodup_cons]
  refine ⟨?_, keys_nodup_filter h id⟩
  simp

-- ========================= Cluster

/-- `membership.Cluster`: the member map and the removed set. -/
structure Cluster where
  members : List (RaftID × RaftMember)
  removed : List RaftID
  keys_nodup : (members.map Prod.fst).Nodup

namespace Cluster

/-- `NewCluster()`. -/
def empty : Cluster := ⟨[], [], List.nodup_nil⟩

/-- `GetMember(id)`. -/
def getMember (c : Cluster) (id : RaftID) : Option RaftMember :=
  (c.members.find? (·.1 = id)).map Prod.snd

/-- `IsIDRemoved(id)`. -/
def isIDRemoved (c : Cluster) (id : RaftID) : Bool := decide (id ∈ c.removed)

/-- `c.members[id] = m`. -/
def setMember (c : Cluster) (id : RaftID) (m : RaftMember) : Cluster :=
  { c with members := (id, m) :: c.members.filter (·.1 ≠ id), keys_nodup := keys_nodup_set c.keys_nodup id m }

/-- `clearMember(id)`: `delete(c.members, id)`. -/
def clearMember (c : Cluster) (id : RaftID) : Cluster :=
  { c with members := c.members.filter (·.1 ≠ id), keys_nodup := keys_nodup_filter c.keys_nodup id }

/-- `AddMember(member)`: refused for a removed ID, else the map entry of
its raft ID is set. -/
def addMember (c : Cluster) (m : RaftMember) : Except ClusterErr Cluster :=
  if c.isIDRemoved m.raftID then .error .idRemoved else .ok (c.setMember m.raftID m)

/-- `RemoveMember(id)`: the ID is marked removed and its entry deleted. -/
def removeMember (c : Cluster) (id : RaftID) : Cluster :=
  { c.clearMember id with removed := id :: c.removed }

/-- `UpdateMember(id, m)`: only for a present, unremoved member of the
same node; an unchanged address changes nothing. -/
def updateMember (c : Cluster) (id : RaftID) (m : RaftMember) : Except ClusterErr Cluster :=
  if c.isIDRemoved id then .error .idRemoved
  else
    match c.getMember id with
    | none => .error .idNotFound
    | some old =>
      if old.nodeID ≠ m.nodeID then .error .nodeIDMismatch
      else if old.addr = m.addr then .ok c
      else .ok (c.setMember id m)

/-- `Clear()`: no members and no removed IDs. -/
def clear (_ : Cluster) : Cluster := empty

/-- `ValidateConfigurationChange(cc)`. -/
def validateConfigurationChange (c : Cluster) (cc : ConfChange) : Except ClusterErr Unit :=
  if c.isIDRemoved cc.nodeID then .error .idRemoved
  else
    match cc.type with
    | .addNode => if (c.getMember cc.nodeID).isSome then .error .idExists else .ok ()
    | .removeNode => if (c.getMember cc.nodeID).isNone then .error .idNotFound else .ok ()
    | .updateNode => if (c.getMember cc.nodeID).isNone then .error .idNotFound else .ok ()
    | .addLearnerNode => .error .configChangeInvalid

-- ===================== spec lemmas

@[simp] theorem setMember_removed (c : Cluster) (id : RaftID) (m : RaftMember) :
    (c.setMember id m).removed = c.removed := rfl

@[simp] theorem clearMember_removed (c : Cluster) (id : RaftID) :
    (c.clearMember id).removed = c.removed := rfl

@[simp] theorem removeMember_removed (c : Cluster) (id : RaftID) :
    (c.removeMember id).removed = id :: c.removed := rfl

@[simp] theorem setMember_members (c : Cluster) (id : RaftID) (m : RaftMember) :
    (c.setMember id m).members = (id, m) :: c.members.filter (·.1 ≠ id) := rfl

@[simp] theorem clearMember_members (c : Cluster) (id : RaftID) :
    (c.clearMember id).members = c.members.filter (·.1 ≠ id) := rfl

@[simp] theorem removeMember_members (c : Cluster) (id : RaftID) :
    (c.removeMember id).members = c.members.filter (·.1 ≠ id) := rfl

@[simp] theorem isIDRemoved_iff (c : Cluster) (id : RaftID) :
    c.isIDRemoved id = true ↔ id ∈ c.removed := by
  simp [isIDRemoved]

theorem getMember_setMember (c : Cluster) (id id' : RaftID) (m : RaftMember) :
    (c.setMember id m).getMember id' = if id = id' then some m else c.getMember id' := by
  by_cases h : id = id'
  · simp [getMember, setMember, h]
  · -- the dropped entries are those of `id`, which the search for `id'` skips
    have hfind : (c.members.filter (·.1 ≠ id)).find? (·.1 = id') = c.members.find? (·.1 = id') := by
      rw [List.find?_filter]
      congr 1
      funext p
      by_cases hp : p.1 = id' <;> simp [hp, Ne.symm h]
    simp only [getMember, setMember, List.find?_cons, h, if_false, decide_false, hfind]

/-- A member is found exactly when its raft ID is a key of the map. -/
theorem getMember_isSome_iff (c : Cluster) (id : RaftID) :
    (c.getMember id).isSome ↔ ∃ p ∈ c.members, p.1 = id := by
  simp [getMember, List.find?_isSome]

/-- `AddMember` succeeds exactly on an unremoved ID and sets its entry. -/
theorem addMember_eq_ok {c c' : Cluster} {m : RaftMember} (h : c.addMember m = .ok c') :
    m.raftID ∉ c.removed ∧ c' = c.setMember m.raftID m := by
  unfold addMember at h
  by_cases hr : c.isIDRemoved m.raftID
  · rw [if_pos hr] at h
    cases h
  · rw [if_neg hr] at h
    cases h
    exact ⟨by simpa using hr, rfl⟩

/-- `UpdateMember` succeeds only on an unremoved ID, and either changes
nothing or sets that ID's entry. -/
theorem updateMember_eq_ok {c c' : Cluster} {id : RaftID} {m : RaftMember}
    (h : c.updateMember id m = .ok c') : id ∉ c.removed ∧ (c' = c ∨ c' = c.setMember id m) := by
  unfold updateMember at h
  by_cases hr : c.isIDRemoved id
  · rw [if_pos hr] at h
    cases h
  · rw [if_neg hr] at h
    refine ⟨by simpa using hr, ?_⟩
    cases hg : c.getMember id with
    | none => rw [hg] at h; cases h
    | some old =>
        rw [hg] at h
        dsimp only at h
        split_ifs at h
        · exact .inl (Except.ok.inj h).symm
        · exact .inr (Except.ok.inj h).symm

/-- `ValidateConfigurationChange` refuses a removed ID first. -/
theorem validateConfigurationChange_removed {c : Cluster} {cc : ConfChange}
    (h : c.isIDRemoved cc.nodeID = true) :
    c.validateConfigurationChange cc = .error .idRemoved := by
  simp [validateConfigurationChange, h]

/-- `ValidateConfigurationChange` refuses to add a present unremoved ID. -/
theorem validateConfigurationChange_exists {c : Cluster} {cc : ConfChange}
    (hr : c.isIDRemoved cc.nodeID = false) (ht : cc.type = .addNode)
    (hm : (c.getMember cc.nodeID).isSome) :
    c.validateConfigurationChange cc = .error .idExists := by
  simp [validateConfigurationChange, hr, ht, hm]

end Cluster

-- =========== applying conf changes

/-- What the proposer's wait receives from `processConfChange`. -/
inductive ConfErr
  | member (e : ClusterErr)
  /-- a transport call or `Campaign` failed -/
  | transport
  deriving DecidableEq, Repr

/-- The cluster after a call that leaves it unchanged when it fails. -/
def keepOnError {ε : Type} (r : Except ε Cluster) (c : Cluster) : Cluster :=
  match r with
  | .ok c' => c'
  | .error _ => c

/-- `registerNode(node)` on the node `self`: nothing for a removed ID; a
present member is set again when its address changed; a new one is
added, after the transport connects to it unless it is `self`. -/
def registerNode (self : RaftID) (peerOk : Bool) (node : RaftMember) (c : Cluster) :
    Except ConfErr Cluster :=
  if c.isIDRemoved node.raftID then .ok c
  else
    match c.getMember node.raftID with
    | some existing =>
      if existing.addr ≠ node.addr then
        if node.raftID ≠ self ∧ !peerOk then .error .transport
        -- `AddMember`'s result is dropped here; the ID is not removed
        else .ok (keepOnError (c.addMember node) c)
      else .ok c
    | none =>
      if node.raftID ≠ self ∧ !peerOk then .error .transport
      else (c.addMember node).mapError .member

/-- `applyAddNode(cc)`: a zero raft ID is ignored. -/
def applyAddNode (self : RaftID) (peerOk : Bool) (cc : ConfChange) (c : Cluster) :
    Except ConfErr Cluster :=
  if cc.context.raftID = 0 then .ok c else registerNode self peerOk cc.context c

/-- `applyUpdateNode(cc)`: nothing for `self`; otherwise the transport
peer, then the member, are updated. -/
def applyUpdateNode (self : RaftID) (peerOk : Bool) (cc : ConfChange) (c : Cluster) :
    Except ConfErr Cluster :=
  if cc.context.raftID = self then .ok c
  else if !peerOk then .error .transport
  else (c.updateMember cc.context.raftID cc.context).mapError .member

/-- `applyRemoveNode(cc)`: unless `self` is the one removed, a `Campaign`
and the transport's `RemovePeer` come first; then `RemoveMember`. -/
def applyRemoveNode (self : RaftID) (peerOk : Bool) (cc : ConfChange) (c : Cluster) :
    Except ConfErr Cluster :=
  if cc.nodeID ≠ self ∧ !peerOk then .error .transport else .ok (c.removeMember cc.nodeID)

/-- `processConfChange(entry)`: the change is applied whether or not it
validates; the wait receives the validation error, else the error of
applying it, else `nil`. -/
def processConfChange (self : RaftID) (peerOk : Bool) (cc : ConfChange) (c : Cluster) :
    Cluster × Option ConfErr :=
  let applied : Except ConfErr Cluster :=
    match cc.type with
    | .addNode => applyAddNode self peerOk cc c
    | .updateNode => applyUpdateNode self peerOk cc c
    | .removeNode => applyRemoveNode self peerOk cc c
    | .addLearnerNode => .ok c
  let result :=
    match c.validateConfigurationChange cc, applied with
    | .error e, _ => some (.member e)
    | .ok _, .error e => some e
    | .ok _, .ok _ => none
  (keepOnError applied c, result)

/-- An `AddNode` of an ID that is neither a member nor removed validates
and adds the member, when the transport connects to it. -/
theorem processConfChange_addNode {c : Cluster} {m : RaftMember} (self : RaftID) (i : Nat)
    (h0 : m.raftID ≠ 0) (hm : c.getMember m.raftID = none) (hr : m.raftID ∉ c.removed) :
    processConfChange self true ⟨i, .addNode, m.raftID, m⟩ c = (c.setMember m.raftID m, none) := by
  have hrem : c.isIDRemoved m.raftID = false := by simpa [Cluster.isIDRemoved] using hr
  have hadd : c.addMember m = .ok (c.setMember m.raftID m) := by
    simp [Cluster.addMember, hrem]
  have happly :
      applyAddNode self true ⟨i, .addNode, m.raftID, m⟩ c = .ok (c.setMember m.raftID m) := by
    simp [applyAddNode, h0, registerNode, hrem, hm, hadd, Except.mapError]
  simp [processConfChange, happly, keepOnError, Cluster.validateConfigurationChange, hrem, hm]

/-- `restoreFromSnapshot`: the snapshot's removed IDs are removed, the old
members it does not list are cleared, and its members are registered
(a failed registration is logged and skipped). -/
def restoreFromSnapshot (self : RaftID) (peerOk : RaftID → Bool) (snap : ClusterSnapshot)
    (c : Cluster) : Cluster :=
  let old := (c.members.map Prod.fst).filter (· ∉ snap.members.map RaftMember.raftID)
  let c := snap.removed.foldl Cluster.removeMember c
  let old := old.filter (· ∉ snap.removed)
  let c := old.foldl Cluster.clearMember c
  snap.members.foldl (fun c m => keepOnError (registerNode self (peerOk m.raftID) m c) c) c

-- ====================== operations

/-- A change to the member list, with the environment's choices. -/
inductive Op
  | addMember (m : RaftMember)
  | removeMember (id : RaftID)
  | updateMember (id : RaftID) (m : RaftMember)
  | clearMember (id : RaftID)
  | clear
  | processConfChange (cc : ConfChange) (peerOk : Bool)
  | restoreFromSnapshot (snap : ClusterSnapshot) (peerOk : RaftID → Bool)

/-- One operation on the cluster of node `self`; a failed call leaves it
unchanged. -/
def Cluster.step (self : RaftID) : Op → Cluster → Option Cluster
  | .addMember m, c => some (keepOnError (c.addMember m) c)
  | .removeMember id, c => some (c.removeMember id)
  | .updateMember id m, c => some (keepOnError (c.updateMember id m) c)
  | .clearMember id, c => some (c.clearMember id)
  | .clear, c => some c.clear
  | .processConfChange cc peerOk, c => some (processConfChange self peerOk cc c).1
  | .restoreFromSnapshot snap peerOk, c => some (restoreFromSnapshot self peerOk snap c)

end SwarmKit.Raft.Membership

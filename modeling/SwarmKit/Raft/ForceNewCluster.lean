import SwarmKit.Raft.Membership

/-
Loading a manager's raft state from disk, and forcing a new cluster
(manager/state/raft/storage.go `loadAndStart`; raft.go `getIDs`,
`createConfigChangeEnts`).

# The log

A WAL entry has a type, a term, an index and its data. Only the data of
a conf-change entry is read, as a `ConfChange`; data that does not
unmarshal as one is `none`. A snapshot carries the voters and the index
of its `ConfState`, and what `clusterSnapshot` makes of its data: the
membership, or the error of decoding the snapshot or of restoring the
store from it.

# getIDs

`getIDs` starts from the snapshot's voters and replays every conf-change
entry that is not older than the snapshot: an added ID joins the set, a
removed one leaves it, an update changes nothing. Data that does not
unmarshal and any other change type panic. The set is a Go map, a
duplicate-free list here; `mapOrder` is the order in which its
iteration lists the IDs, which Go leaves open (`MapOrder` is all that is
known of it).

# Forcing a new cluster

`loadAndStart` takes the node's raft ID from the WAL's metadata. From
the snapshot's membership it removes the members other than itself when
forcing a new cluster, and then the snapshot's removed IDs; from the
WAL, the node of every committed `RemoveNode` entry. To force a new
cluster it drops the entries past the commit index, and appends one
entry removing each ID that `getIDs` lists but itself, and one adding
itself when it is not listed, numbered on from the commit index; their
removed IDs join the removed set at once, and the commit index moves to
the last of them. A panic is `LoadErr.panic`.

# Reading the source

`readFromDisk`, the WAL write of the new entries (`Fatal` when it
fails) and raft's `MemoryStorage` are not modelled: the result carries
the hard state and the entries handed to `SetHardState` and `Append`.
An empty `Context` unmarshals to the zero `RaftMember`, and the node ID
and address of the member added for the node itself are empty, the
zero value here.
-/

namespace SwarmKit.Raft.ForceNewCluster

open SwarmKit.Raft.Membership

-- ======================== the data

/-- `raftpb.EntryType`. -/
inductive EntryType
  | normal
  | confChange
  | confChangeV2
  deriving DecidableEq, Repr

/-- `raftpb.Entry`, with its data as a conf change. -/
structure Entry where
  type : EntryType
  term : Nat
  index : Nat
  /-- `Data` unmarshalled as a `raftpb.ConfChange`; `none` when it is not one. -/
  data : Option ConfChange
  deriving DecidableEq, Repr

/-- `raftpb.Snapshot`: its `ConfState` voters, its index, and its data as
`clusterSnapshot` decodes it. -/
structure Snapshot where
  voters : List RaftID
  index : Nat
  data : Except String ClusterSnapshot

/-- `raftpb.HardState`; the vote is passed through and left out. -/
structure HardState where
  term : Nat
  commit : Nat
  deriving DecidableEq, Repr

/-- `storage.WALData`: the metadata unmarshalled as a `RaftMember`
(`none` when it is not one), the hard state and the entries. -/
structure WALData where
  metadata : Option RaftMember
  hardState : HardState
  entries : List Entry

/-- The iteration order of a Go map of IDs: some order of its keys. -/
def MapOrder (mapOrder : List RaftID → List RaftID) : Prop :=
  ∀ l, (mapOrder l).Perm l

-- ========================== getIDs

/-- `snap != nil && e.Index < snap.Metadata.Index`. -/
def olderThanSnapshot (snap : Option Snapshot) (e : Entry) : Bool :=
  match snap with
  | some s => decide (e.index < s.index)
  | none => false

/-- The voters of the snapshot, as a set. -/
def snapshotVoters : Option Snapshot → List RaftID
  | some s => s.voters.foldl (fun ids id => ids.insert id) []
  | none => []

/-- One entry of `getIDs`'s loop; `none` is a panic. -/
def applyEntry (snap : Option Snapshot) (ids : List RaftID) (e : Entry) : Option (List RaftID) :=
  if e.type ≠ .confChange then some ids
  else if olderThanSnapshot snap e then some ids
  else
    match e.data with
    | none => none
    | some cc =>
      match cc.type with
      | .addNode => some (ids.insert cc.nodeID)
      | .removeNode => some (ids.erase cc.nodeID)
      | .updateNode => some ids
      | .addLearnerNode => none

/-- `getIDs(snap, ents)`, listed in the map's iteration order. -/
def getIDs (mapOrder : List RaftID → List RaftID) (snap : Option Snapshot) (ents : List Entry) :
    Option (List RaftID) :=
  (ents.foldlM (applyEntry snap) (snapshotVoters snap)).map mapOrder

-- ========== createConfigChangeEnts

/-- The entry removing `id`. -/
def removeNodeEnt (id term index : Nat) : Entry :=
  ⟨.confChange, term, index, some ⟨0, .removeNode, id, ⟨0, 0, 0⟩⟩⟩

/-- The entry adding the member `self`. -/
def addNodeEnt (self term index : Nat) : Entry :=
  ⟨.confChange, term, index, some ⟨0, .addNode, self, ⟨self, 0, 0⟩⟩⟩

/-- The loop of `createConfigChangeEnts` from the index `next` on, with
`found` telling whether `self` was met. -/
def createConfigChangeEntsFrom (self term : Nat) : List RaftID → Nat → Bool → List Entry
  | [], next, found => if found then [] else [addNodeEnt self term next]
  | id :: ids, next, found =>
    if id = self then createConfigChangeEntsFrom self term ids next true
    else removeNodeEnt id term next :: createConfigChangeEntsFrom self term ids (next + 1) found

/-- `createConfigChangeEnts(ids, self, term, index)`. -/
def createConfigChangeEnts (ids : List RaftID) (self term index : Nat) : List Entry :=
  createConfigChangeEntsFrom self term ids (index + 1) false

-- ==================== loadAndStart

/-- What `loadAndStart` returns instead of loading. -/
inductive LoadErr
  | error (msg : String)
  | panic
  deriving DecidableEq, Repr

/-- The snapshot's part of `loadAndStart`: when forcing a new cluster,
every member but `self` is removed and `self`'s kept for bootstrapping;
then the snapshot's removed IDs are removed. -/
def loadSnapshotMembers (forceNewCluster : Bool) (self : RaftID) (snapCluster : ClusterSnapshot)
    (c : Cluster) : Cluster × List RaftMember :=
  let r :=
    if forceNewCluster then
      snapCluster.members.foldl (fun r m =>
        if m.raftID ≠ self then (r.1.removeMember m.raftID, r.2) else (r.1, r.2 ++ [m])) (c, [])
    else (c, snapCluster.members)
  (snapCluster.removed.foldl Cluster.removeMember r.1, r.2)

/-- The loops of `loadAndStart` that remove the node of every
`RemoveNode` entry they select (`sel`, and a conf change); `msg` is the
error of one that does not unmarshal. -/
def removeConfChangeNodes (msg : String) (sel : Entry → Bool) (ents : List Entry) (c : Cluster) :
    Except LoadErr Cluster :=
  ents.foldlM (fun c ent =>
    if sel ent ∧ ent.type = .confChange then
      match ent.data with
      | none => .error (.error msg)
      | some cc => .ok (if cc.type = .removeNode then c.removeMember cc.nodeID else c)
    else .ok c) c

/-- The committed entries of the WAL: those before the first entry past
the commit index. -/
def committedEnts (st : HardState) (ents : List Entry) : List Entry :=
  ents.takeWhile (·.index ≤ st.commit)

/-- The hard state once `toAppEnts` are force-committed. -/
def forceCommit (st : HardState) (toAppEnts : List Entry) : HardState :=
  match toAppEnts.getLast? with
  | some e => { st with commit := e.index }
  | none => st

/-- The `forceNewCluster` branch: the cluster, the hard state and the
entries to append. -/
def forceAppendEnts (mapOrder : List RaftID → List RaftID) (snapshot : Option Snapshot)
    (self : RaftID) (st : HardState) (ents : List Entry) (c : Cluster) :
    Except LoadErr (Cluster × HardState × List Entry) :=
  let ents := committedEnts st ents
  match getIDs mapOrder snapshot ents with
  | none => .error .panic
  | some ids =>
    let toAppEnts := createConfigChangeEnts ids self st.term st.commit
    (removeConfChangeNodes "error unmarshalling force-new-cluster config change" (fun _ => true)
      toAppEnts c).map fun c => (c, forceCommit st toAppEnts, ents ++ toAppEnts)

/-- What `loadAndStart` leaves: the node's raft ID, the cluster, the
members to bootstrap from, and the hard state and entries given to the
raft store. -/
structure Loaded where
  self : RaftID
  cluster : Cluster
  bootstrapMembers : List RaftMember
  hardState : HardState
  ents : List Entry

/-- The snapshot's membership applied to the cluster, or the error of
decoding it. -/
def loadSnapshot (forceNewCluster : Bool) (self : RaftID) (snapshot : Option Snapshot)
    (c : Cluster) : Except LoadErr (Cluster × List RaftMember) :=
  match snapshot with
  | none => .ok (c, [])
  | some s =>
    match s.data with
    | .error e => .error (.error e)
    | .ok snapCluster => .ok (loadSnapshotMembers forceNewCluster self snapCluster c)

/-- `loadAndStart(ctx, forceNewCluster)` on what `readFromDisk` read. -/
def loadAndStart (mapOrder : List RaftID → List RaftID) (forceNewCluster : Bool)
    (snapshot : Option Snapshot) (w : WALData) (c : Cluster) : Except LoadErr Loaded :=
  match w.metadata with
  | none => .error (.error "failed to unmarshal WAL metadata")
  | some raftNode =>
    let self := raftNode.raftID
    (loadSnapshot forceNewCluster self snapshot c).bind fun (c, bootstrapMembers) =>
      (removeConfChangeNodes "failed to unmarshal config change" (·.index ≤ w.hardState.commit)
        w.entries c).bind fun c =>
        if forceNewCluster then
          (forceAppendEnts mapOrder snapshot self w.hardState w.entries c).map
            fun (c, st, ents) => ⟨self, c, bootstrapMembers, st, ents⟩
        else .ok ⟨self, c, bootstrapMembers, w.hardState, w.entries⟩

end SwarmKit.Raft.ForceNewCluster

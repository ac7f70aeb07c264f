import SwarmKit.Manager.Roles
import SwarmKit.Lib.AListTotal
import SwarmKit.Lib.Lts

/-
What the role manager and the node calls keep over every run
(`Roles.lean`).

# The membership

A step changes the membership only by a removal `CanRemoveMember`
allowed (`step_cluster`). With entries keyed by raft IDs, the members
the leader reached besides the removed one were a quorum of the old
membership, hence a majority of the new one (`removal_keeps_quorum`),
and the membership is never emptied (`members_nonempty_run`); one
member is never removed (`single_member_kept`).

# Demotions

The worker role is written only for a node with no member left, and
members only go: no stored worker is a raft member
(`workers_left_raft_run`).

# Nothing is forgotten

The role manager drops a copy when it needs nothing, when its
transaction returned nil, and also when the stored node has moved on.
The queue makes up for it: a node whose role is not its desired one has
its current version as the last queued event about it, or as the copy
with no queued event; a member whose node is gone is pending removal or
its node's deletion is the last queued event about it (`tracked_run`).

# The last manager

`UpdateNode` refuses to demote the only node observed as a manager. The
observed role is written only after the demotion went through raft, so
two demotions in a row both pass, and a swarm of two managers is left
with no node desired to be one (`last_manager_guard_passed_twice`); the
role manager then keeps the last member forever.
-/

namespace SwarmKit.Manager

open SwarmKit.Raft.Membership
open SwarmKit.Ca (NodeRole)

variable {o : Outcome} {w w' : World}

-- ========================= members

theorem getMemberByNodeID_eq_some {c : Cluster} {k : NodeID} {m : RaftMember}
    (h : getMemberByNodeID c k = some m) : ∃ p ∈ c.members, p.2 = m ∧ m.nodeID = k := by
  unfold getMemberByNodeID at h
  obtain ⟨p, hp, rfl⟩ := Option.map_eq_some_iff.mp h
  exact ⟨p, List.mem_of_find?_eq_some hp, rfl, by simpa using List.find?_some hp⟩

theorem getMemberByNodeID_eq_none_iff {c : Cluster} {k : NodeID} :
    getMemberByNodeID c k = none ↔ ∀ p ∈ c.members, p.2.nodeID ≠ k := by
  simp [getMemberByNodeID, List.find?_eq_none]

/-- Every entry of the member map is keyed by its member's raft ID. -/
def MembersKeyed (c : Cluster) : Prop := ∀ p ∈ c.members, p.2.raftID = p.1

instance (c : Cluster) : Decidable (MembersKeyed c) :=
  inferInstanceAs (Decidable (∀ p ∈ c.members, p.2.raftID = p.1))

theorem MembersKeyed.removeMember {c : Cluster} (hk : MembersKeyed c) (id : RaftID) :
    MembersKeyed (c.removeMember id) :=
  fun p hp => hk p (List.mem_of_mem_filter hp)

/-- A removal `CanRemoveMember` allows leaves another member. -/
theorem exists_other_of_canRemoveMember {c : Cluster} {self : RaftID} {active : List RaftID}
    {id : RaftID} (h : canRemoveMember c self active id = true) :
    ∃ p ∈ c.members, p.2.raftID ≠ id := by
  unfold canRemoveMember at h
  have hpos : 0 < c.members.countP fun m =>
      decide (m.2.raftID ≠ id ∧ (m.2.raftID = self ∨ m.2.raftID ∈ active)) :=
    Nat.lt_of_lt_of_le (Nat.succ_pos _) (of_decide_eq_true h)
  obtain ⟨p, hp, hq⟩ := List.countP_pos_iff.mp hpos
  exact ⟨p, hp, (of_decide_eq_true hq).1⟩

/-- A single member cannot be removed. -/
theorem canRemoveMember_single {c : Cluster} {p : RaftID × RaftMember} (h : c.members = [p])
    (self : RaftID) (active : List RaftID) : canRemoveMember c self active p.2.raftID = false := by
  simp [canRemoveMember, h]

/-- With keyed members, the members a removal keeps are counted as
`CanRemoveMember` counts the others. -/
theorem countP_removeMember {c : Cluster} (hk : MembersKeyed c) (id : RaftID)
    (P : RaftMember → Prop) [DecidablePred P] :
    (c.removeMember id).members.countP (fun m => decide (P m.2)) =
      c.members.countP fun m => decide (m.2.raftID ≠ id ∧ P m.2) := by
  rw [Cluster.removeMember_members, List.countP_filter]
  refine List.countP_congr fun p hp => ?_
  rw [hk p hp]
  simp [and_comm]

/-- Removing a member drops exactly its one entry. -/
theorem length_removeMember {c : Cluster} {id : RaftID} (hmem : id ∈ c.members.map Prod.fst) :
    (c.removeMember id).members.length + 1 = c.members.length := by
  have hone : c.members.countP (fun p => decide (p.1 = id)) = 1 := by
    have hcount := List.count_eq_one_of_mem c.keys_nodup hmem
    rw [List.count, List.countP_map] at hcount
    rw [← hcount]
    exact List.countP_congr fun p _ => by simp
  have hsplit := List.length_eq_countP_add_countP
    (fun p : RaftID × RaftMember => decide (p.1 = id)) (l := c.members)
  have hrest : (c.removeMember id).members.length =
      c.members.countP fun p => decide ¬decide (p.1 = id) = true := by
    rw [Cluster.removeMember_members, ← List.countP_eq_length_filter]
    exact List.countP_congr fun p _ => by simp
  omega

/-- The quorum arithmetic: the members `CanRemoveMember` counted are a
majority of the membership the removal leaves. -/
theorem quorum_of_canRemoveMember {c : Cluster} {self : RaftID} {active : List RaftID}
    {id : RaftID} (hk : MembersKeyed c) (hmem : id ∈ c.members.map Prod.fst)
    (h : canRemoveMember c self active id = true) :
    (c.removeMember id).members.length / 2 + 1 ≤
      (c.removeMember id).members.countP fun m => decide (m.2.raftID = self ∨ m.2.raftID ∈ active) := by
  rw [countP_removeMember hk id fun m => m.raftID = self ∨ m.raftID ∈ active]
  have hlen := length_removeMember hmem
  have hq := of_decide_eq_true h
  omega

-- =================== the raft side

/-- A committed removal's conf change removes the member, or leaves the
membership alone when the transport failed. -/
theorem processConfChange_removeNode (self : RaftID) (ok : Bool) (id : RaftID) (c : Cluster) :
    (processConfChange self ok (removeNodeChange id) c).1 = c ∨
      (processConfChange self ok (removeNodeChange id) c).1 = c.removeMember id := by
  unfold processConfChange removeNodeChange
  simp only [applyRemoveNode, keepOnError]
  split_ifs
  · exact .inl rfl
  · exact .inr rfl

/-- `RemoveMember` removes `id` only when `CanRemoveMember` allows it. -/
theorem raftRemoveMember_cases (o : Outcome) (w : World) (id : RaftID) :
    raftRemoveMember o w id = w.cluster ∨
      canRemoveMember w.cluster w.leader w.active id = true ∧
        raftRemoveMember o w id = w.cluster.removeMember id := by
  unfold raftRemoveMember
  split_ifs with h₁ h₂ h₃
  · exact .inl rfl
  · exact .inl rfl
  · exact .inl rfl
  · rcases processConfChange_removeNode w.leader o.peerOk id w.cluster with h | h
    · exact .inl h
    · exact .inr ⟨by simpa using h₂, h⟩

/-- `removeMember` changes nothing but the membership. -/
theorem removeMember_frame (o : Outcome) (m : RaftMember) (w : World) :
    removeMember o m w = { w with cluster := (removeMember o m w).cluster } := by
  unfold removeMember
  split_ifs <;> rfl

-- ======================= shrinking

/-- `w'` has `w`'s leader and transport view, and `w`'s membership or
that with one member removed that `CanRemoveMember` let go. -/
def Shrinks (w w' : World) : Prop :=
  w'.leader = w.leader ∧ w'.active = w.active ∧
    (w'.cluster = w.cluster ∨ ∃ p ∈ w.cluster.members,
      canRemoveMember w.cluster w.leader w.active p.2.raftID = true ∧
        w'.cluster = w.cluster.removeMember p.2.raftID)

theorem Shrinks.of_eq (hl : w'.leader = w.leader) (ha : w'.active = w.active)
    (hc : w'.cluster = w.cluster) : Shrinks w w' :=
  ⟨hl, ha, .inl hc⟩

/-- Members only go. -/
theorem Shrinks.subset (h : Shrinks w w') : w'.cluster.members ⊆ w.cluster.members := by
  rcases h.2.2 with hc | ⟨p, -, -, hc⟩
  · rw [hc]
    exact List.Subset.refl _
  · rw [hc, Cluster.removeMember_members]
    exact List.filter_subset_self _

theorem shrinks_removeMember {p : RaftID × RaftMember} (hp : p ∈ w.cluster.members) :
    Shrinks w (removeMember o p.2 w) := by
  rw [removeMember_frame]
  refine ⟨rfl, rfl, ?_⟩
  unfold removeMember
  split_ifs
  · exact .inl rfl
  · exact .inl rfl
  · rcases raftRemoveMember_cases o w p.2.raftID with h | ⟨hq, h⟩
    · exact .inl h
    · exact .inr ⟨p, hp, hq, h⟩

-- ================== reconciliation

/-- What `reconcileRole o n` can make of `w`. -/
inductive Reconciled (o : Outcome) (n : Node) (w : World) : World → Prop
  /-- the proposal failed, or nothing was to be done -/
  | unchanged : Reconciled o n w w
  /-- the copy is dropped; a stored node that still needs reconciling is
  not the copy -/
  | dropped : (∀ c, w.nodes.lookup n.id = some c → c.role ≠ c.desiredRole → c ≠ n) →
      Reconciled o n w { w with pending := w.pending.erase n.id }
  /-- the stored node gets its new role and the copy is dropped; the
  worker role only when no member of the node is left -/
  | written {c : Node} {r : NodeRole} : w.nodes.lookup n.id = some c →
      (r = .worker → getMemberByNodeID w.cluster n.id = none) →
      Reconciled o n w { w.write { c with role := r } with pending := w.pending.erase n.id }
  /-- a member of the node goes through `removeMember` -/
  | removed {p : RaftID × RaftMember} : p ∈ w.cluster.members → Reconciled o n w (removeMember o p.2 w)

/-- The end of a promotion or demotion: the transaction writes only a
stored node whose roles are still the copy's. -/
theorem Reconciled.commitRole {n : Node} {r : NodeRole}
    (hr : r = .worker → getMemberByNodeID w.cluster n.id = none) :
    Reconciled o n w (commitRole o n r w) := by
  unfold SwarmKit.Manager.commitRole setRole
  cases hl : w.nodes.lookup n.id with
  | none =>
    refine .dropped fun c hc => ?_
    rw [hl] at hc
    cases hc
  | some c =>
    dsimp only
    split_ifs with hd
    · refine .dropped fun c' hc' _ hcn => ?_
      rw [hl] at hc'
      cases hc'
      subst hcn
      rcases hd with h | h <;> exact h rfl
    · exact .written hl hr
    · exact .unchanged

theorem reconciled_reconcileRole (o : Outcome) (n : Node) (w : World) :
    Reconciled o n w (reconcileRole o n w) := by
  unfold reconcileRole
  split_ifs with h₁
  · -- the copy needs nothing, so a stored node that does is not the copy
    exact .dropped fun c _ hne hcn => hne (hcn ▸ h₁)
  · exact .commitRole fun h => by cases h
  · cases hm : getMemberByNodeID w.cluster n.id with
    | none => exact .commitRole fun _ => hm
    | some m =>
      obtain ⟨p, hp, rfl, -⟩ := getMemberByNodeID_eq_some hm
      exact .removed hp
  · exact .unchanged

/-- `evictRemovedNode`: it forgets a node with no member left, or removes
a member of it. -/
theorem evictRemovedNode_cases (o : Outcome) (id : NodeID) (w : World) :
    (getMemberByNodeID w.cluster id = none ∧
      evictRemovedNode o id w = { w with removal := w.removal.erase id }) ∨
    ∃ p ∈ w.cluster.members, evictRemovedNode o id w = removeMember o p.2 w := by
  unfold evictRemovedNode
  cases hm : getMemberByNodeID w.cluster id with
  | none => exact .inl ⟨rfl, rfl⟩
  | some m =>
    obtain ⟨p, hp, rfl, -⟩ := getMemberByNodeID_eq_some hm
    exact .inr ⟨p, hp, rfl⟩

theorem Reconciled.shrinks {n : Node} (h : Reconciled o n w w') : Shrinks w w' := by
  cases h with
  | unchanged => exact .of_eq rfl rfl rfl
  | dropped => exact .of_eq rfl rfl rfl
  | written => exact .of_eq rfl rfl rfl
  | removed hp => exact shrinks_removeMember hp

theorem shrinks_evictRemovedNode (id : NodeID) : Shrinks w (evictRemovedNode o id w) := by
  rcases evictRemovedNode_cases o id w with ⟨-, h⟩ | ⟨p, hp, h⟩
  · rw [h]
    exact .of_eq rfl rfl rfl
  · rw [h]
    exact shrinks_removeMember hp

-- ======================== one step

/-- A successful `UpdateNode` writes the stored node with the request's
desired role. -/
theorem updateNode_eq_ok {request : UpdateNodeRequest} (h : updateNode request w = .ok w') :
    ∃ k node r, w.nodes.lookup k = some node ∧ w' = w.write { node with desiredRole := r } := by
  rcases request with ⟨_ | nodeID, _ | nodeVersion, spec⟩
  · cases h
  · cases h
  · cases h
  unfold updateNode at h
  dsimp only at h
  obtain ⟨spec, -, h⟩ := Lts.bind_eq_ok.mp h
  split at h
  · cases h
  · next node hl =>
    have hw : updateStoredNode { node with desiredRole := spec.desiredRole } nodeVersion w = .ok w' := by
      split_ifs at h
      · exact (Lts.seq_eq_ok.mp h).2
      · exact h
    unfold updateStoredNode at hw
    split_ifs at hw
    exact ⟨nodeID, node, spec.desiredRole, hl, (Except.ok.inj hw).symm⟩

/-- A successful `RemoveNode` deletes a node. -/
theorem removeNode_eq_ok {request : RemoveNodeRequest} (h : removeNode request w = .ok w') :
    ∃ k, w' = w.delete k := by
  rcases request with ⟨_ | nodeID, force⟩
  · cases h
  unfold removeNode at h
  dsimp only at h
  split at h
  · cases h
  · split_ifs at h
    exact ⟨nodeID, (Except.ok.inj h).symm⟩

/-- A control API call as a step leaves the world or succeeded. -/
theorem callStep_cases (r : Except Controlapi.Status World) (w : World) :
    callStep r w = w ∨ r = .ok (callStep r w) := by
  unfold callStep
  split
  · next w' h => exact .inr rfl
  · exact .inl rfl

/-- What a step can do, one constructor per kind. -/
inductive Move (w : World) : World → Prop
  /-- a refused control API call -/
  | refused : Move w w
  /-- `UpdateNode`, or another component's write of a node's status:
  the stored node with its role as it was -/
  | write {k : NodeID} {c n : Node} :
      w.nodes.lookup k = some c → n.id = c.id → n.role = c.role → Move w (w.write n)
  | delete (k : NodeID) : Move w (w.delete k)
  | create {id : NodeID} (r : NodeRole) : id ∉ w.nodes → getMemberByNodeID w.cluster id = none →
      Move w { w with nodes := w.nodes.insert id ⟨id, w.version + 1, r, r, false⟩,
                      version := w.version + 1 }
  | setActive (active : List RaftID) : Move w { w with active }
  | start (leader : RaftID) : Move w (start leader w)
  | popUpdate (o : Outcome) {n : Node} {rest : List Event} : w.events = .updateNode n :: rest →
      Move w (reconcileRole o n { w with events := rest, pending := w.pending.insert n.id n })
  | popDelete (o : Outcome) {id : NodeID} {rest : List Event} : w.events = .deleteNode id :: rest →
      Move w (evictRemovedNode o id { w with events := rest, removal := insert id w.removal })
  | reconcile (o : Outcome) {id : NodeID} {n : Node} : w.pending.lookup id = some n →
      Move w (reconcileRole o n w)
  | evict (o : Outcome) (id : NodeID) : Move w (evictRemovedNode o id w)

theorem move_of_step {a : Act} (h : step a w = some w') : Move w w' := by
  cases a with
  | updateNode request =>
    cases Option.some.inj h
    rcases callStep_cases (updateNode request w) w with hc | hc
    · rw [hc]
      exact .refused
    · obtain ⟨k, node, r, hl, hw⟩ := updateNode_eq_ok hc
      rw [hw]
      exact .write hl rfl rfl
  | removeNode request =>
    cases Option.some.inj h
    rcases callStep_cases (removeNode request w) w with hc | hc
    · rw [hc]
      exact .refused
    · obtain ⟨k, hw⟩ := removeNode_eq_ok hc
      rw [hw]
      exact .delete k
  | setReady id ready =>
    obtain ⟨n, hn, rfl⟩ := Option.map_eq_some_iff.mp h
    exact .write hn rfl rfl
  | createNode id role =>
    simp only [step] at h
    split_ifs at h with hf
    cases h
    exact .create role hf.1 hf.2
  | setActive active =>
    cases h
    exact .setActive active
  | handleEvent o =>
    change handleEvent o w = some w' at h
    unfold handleEvent at h
    split at h
    · cases h
    · next n rest he =>
      cases h
      exact .popUpdate o he
    · next id rest he =>
      cases h
      exact .popDelete o he
  | reconcilePending id o =>
    obtain ⟨n, hn, rfl⟩ := Option.map_eq_some_iff.mp h
    exact .reconcile o hn
  | evictPending id o =>
    change evictPending o id w = some w' at h
    unfold evictPending at h
    split_ifs at h
    cases h
    exact .evict o id
  | start leader =>
    simp only [step] at h
    split_ifs at h
    cases h
    exact .start leader

/-- What a step does to the membership: nothing, or one removal that
`CanRemoveMember` allowed. -/
theorem step_cluster {a : Act} (h : step a w = some w') : w'.cluster = w.cluster ∨ Shrinks w w' := by
  cases move_of_step h with
  | refused => exact .inl rfl
  | write => exact .inl rfl
  | delete => exact .inl rfl
  | create => exact .inl rfl
  | setActive => exact .inl rfl
  | start => exact .inl rfl
  | popUpdate o _ => exact .inr (reconciled_reconcileRole o _ _).shrinks
  | popDelete o _ => exact .inr (shrinks_evictRemovedNode _)
  | reconcile o _ => exact .inr (reconciled_reconcileRole o _ _).shrinks
  | evict o id => exact .inr (shrinks_evictRemovedNode id)

-- ========== runs of the membership

/-- The members the leader reaches: itself and the peers its transport
sees active. -/
def reached (w : World) : Nat :=
  w.cluster.members.countP fun m => decide (m.2.raftID = w.leader ∨ m.2.raftID ∈ w.active)

/-- Every step leaves the membership as it is or removes one member, and
the members the leader then reaches are a majority of those left. -/
theorem removal_keeps_quorum (a : Act) (w w' : World) (hk : MembersKeyed w.cluster)
    (h : step a w = some w') :
    w'.cluster = w.cluster ∨
      w'.cluster.members.length + 1 = w.cluster.members.length ∧
        w'.cluster.members.length / 2 + 1 ≤ reached w' := by
  rcases step_cluster h with hc | ⟨hl, ha, hc | ⟨p, hp, hq, hc⟩⟩
  · exact .inl hc
  · exact .inl hc
  · -- the removed member's entry is keyed by its raft ID
    have hmem : p.2.raftID ∈ w.cluster.members.map Prod.fst :=
      List.mem_map.mpr ⟨p, hp, (hk p hp).symm⟩
    refine .inr ⟨hc ▸ length_removeMember hmem, ?_⟩
    unfold reached
    rw [hc, hl, ha]
    exact quorum_of_canRemoveMember hk hmem hq

/-- No step empties a keyed membership. -/
theorem members_step {a : Act} (hk : MembersKeyed w.cluster) (hne : w.cluster.members ≠ [])
    (h : step a w = some w') : MembersKeyed w'.cluster ∧ w'.cluster.members ≠ [] := by
  rcases step_cluster h with hc | ⟨-, -, hc | ⟨p, -, hq, hc⟩⟩
  · rw [hc]
    exact ⟨hk, hne⟩
  · rw [hc]
    exact ⟨hk, hne⟩
  · -- `CanRemoveMember` counted another member, which the removal keeps
    obtain ⟨p', hp', hne'⟩ := exists_other_of_canRemoveMember hq
    rw [hc]
    refine ⟨hk.removeMember _, List.ne_nil_of_mem (a := p') ?_⟩
    rw [Cluster.removeMember_members, List.mem_filter]
    exact ⟨hp', by simpa [hk p' hp'] using hne'⟩

/-- Every run keeps a member in a keyed membership that had one. -/
theorem members_nonempty_run (w : World) (acts : List Act) (w' : World)
    (hk : MembersKeyed w.cluster) (hne : w.cluster.members ≠ [])
    (h : Lts.run step w acts = some w') : w'.cluster.members ≠ [] := by
  have hinv : Lts.Inductive step w fun v => MembersKeyed v.cluster ∧ v.cluster.members ≠ [] :=
    ⟨⟨hk, hne⟩, fun hv hs => members_step hv.1 hv.2 hs⟩
  exact (hinv.reachable (Lts.reachable_of_run h)).2

/-- No step changes a membership of one member. -/
theorem single_member_step {a : Act} (h1 : w.cluster.members.length = 1) (h : step a w = some w') :
    w'.cluster = w.cluster := by
  rcases step_cluster h with hc | ⟨-, -, hc | ⟨p, hp, hq, -⟩⟩
  · exact hc
  · exact hc
  · -- the only member is the one `CanRemoveMember` was asked about
    obtain ⟨q, hq1⟩ := List.length_eq_one_iff.mp h1
    rw [hq1, List.mem_singleton] at hp
    subst hp
    rw [canRemoveMember_single hq1] at hq
    cases hq

/-- Every run keeps a membership of one member as it is. -/
theorem single_member_kept (w : World) (acts : List Act) (w' : World)
    (h1 : w.cluster.members.length = 1) (h : Lts.run step w acts = some w') :
    w'.cluster = w.cluster := by
  have hinv : Lts.Inductive step w fun v => v.cluster = w.cluster :=
    ⟨rfl, fun hv hs => (single_member_step (by rw [hv]; exact h1) hs).trans hv⟩
  exact hinv.reachable (Lts.reachable_of_run h)

-- ======================= demotions

/-- Every stored node is under its own ID. -/
def NodesKeyed (w : World) : Prop := ∀ k n, w.nodes.lookup k = some n → n.id = k

instance (w : World) : Decidable (NodesKeyed w) := decidable_of_iff' _ AList.forall_lookup_iff

/-- No node the store shows as a worker has a raft member. -/
def WorkersLeft (w : World) : Prop :=
  ∀ k n, w.nodes.lookup k = some n → n.role = .worker → getMemberByNodeID w.cluster k = none

instance (w : World) : Decidable (WorkersLeft w) := decidable_of_iff' _ AList.forall_lookup_iff

theorem NodesKeyed.write (hk : NodesKeyed w) (n : Node) : NodesKeyed (w.write n) := by
  intro k c hc
  rw [World.write_nodes] at hc
  rcases AList.lookup_insert_eq_some hc with ⟨rfl, rfl⟩ | ⟨-, hc⟩
  · rfl
  · exact hk k c hc

theorem NodesKeyed.delete (hk : NodesKeyed w) (id : NodeID) : NodesKeyed (w.delete id) :=
  fun k c hc => hk k c (AList.lookup_erase_eq_some hc).2

theorem removeMember_nodes (o : Outcome) (m : RaftMember) (w : World) :
    (removeMember o m w).nodes = w.nodes := by
  rw [removeMember_frame]

theorem NodesKeyed.remove (hk : NodesKeyed w) (m : RaftMember) : NodesKeyed (removeMember o m w) := by
  unfold NodesKeyed
  rw [removeMember_nodes]
  exact hk

theorem Reconciled.nodesKeyed {n : Node} (h : Reconciled o n w w') (hk : NodesKeyed w) :
    NodesKeyed w' := by
  cases h with
  | unchanged => exact hk
  | dropped => exact hk
  | written => exact hk.write _
  | removed => exact hk.remove _

theorem NodesKeyed.evict (hk : NodesKeyed w) (id : NodeID) :
    NodesKeyed (evictRemovedNode o id w) := by
  rcases evictRemovedNode_cases o id w with ⟨-, h⟩ | ⟨p, -, h⟩
  · rw [h]
    exact hk
  · rw [h]
    exact hk.remove _

theorem NodesKeyed.step {a : Act} (hk : NodesKeyed w) (h : step a w = some w') : NodesKeyed w' := by
  cases move_of_step h with
  | refused => exact hk
  | write => exact hk.write _
  | delete k => exact hk.delete k
  | create r =>
    intro k c hc
    rcases AList.lookup_insert_eq_some hc with ⟨rfl, rfl⟩ | ⟨-, hc⟩
    · rfl
    · exact hk k c hc
  | setActive => exact hk
  | start => exact hk
  | popUpdate o _ => exact (reconciled_reconcileRole o _ _).nodesKeyed hk
  | popDelete o _ =>
    apply NodesKeyed.evict
    exact hk
  | reconcile o _ => exact (reconciled_reconcileRole o _ _).nodesKeyed hk
  | evict o id => exact hk.evict id

theorem WorkersLeft.write (hw : WorkersLeft w) {n : Node}
    (hn : n.role = .worker → getMemberByNodeID w.cluster n.id = none) : WorkersLeft (w.write n) := by
  intro k c hc hr
  rw [World.write_nodes] at hc
  rcases AList.lookup_insert_eq_some hc with ⟨rfl, rfl⟩ | ⟨-, hc⟩
  · exact hn hr
  · exact hw k c hc hr

theorem WorkersLeft.delete (hw : WorkersLeft w) (id : NodeID) : WorkersLeft (w.delete id) :=
  fun k c hc hr => hw k c (AList.lookup_erase_eq_some hc).2 hr

/-- Removing members keeps the invariant: only members go. -/
theorem WorkersLeft.remove (hw : WorkersLeft w) {p : RaftID × RaftMember}
    (hp : p ∈ w.cluster.members) : WorkersLeft (removeMember o p.2 w) := by
  intro k c hc hr
  rw [removeMember_nodes] at hc
  have h := getMemberByNodeID_eq_none_iff.mp (hw k c hc hr)
  exact getMemberByNodeID_eq_none_iff.mpr fun q hq => h q ((shrinks_removeMember hp).subset hq)

theorem Reconciled.workersLeft {n : Node} (h : Reconciled o n w w') (hk : NodesKeyed w)
    (hw : WorkersLeft w) : WorkersLeft w' := by
  cases h with
  | unchanged => exact hw
  | dropped => exact hw
  | @written c r hc hr =>
    -- the stored node is under the copy's ID
    refine hw.write fun hrole => ?_
    rw [show ({ c with role := r } : Node).id = n.id from hk n.id c hc]
    exact hr hrole
  | removed hp => exact hw.remove hp

theorem WorkersLeft.evict (hw : WorkersLeft w) (id : NodeID) :
    WorkersLeft (evictRemovedNode o id w) := by
  rcases evictRemovedNode_cases o id w with ⟨-, h⟩ | ⟨p, hp, h⟩
  · rw [h]
    exact hw
  · rw [h]
    exact hw.remove hp

theorem WorkersLeft.step {a : Act} (hk : NodesKeyed w) (hw : WorkersLeft w) (h : step a w = some w') :
    WorkersLeft w' := by
  cases move_of_step h with
  | refused => exact hw
  | write hc hid hrole =>
    -- another component's write keeps the role under the same ID
    refine hw.write fun hr => ?_
    rw [hid, hk _ _ hc]
    exact hw _ _ hc (hrole ▸ hr)
  | delete k => exact hw.delete k
  | create r hfresh hm =>
    intro k c hc hr
    rcases AList.lookup_insert_eq_some hc with ⟨rfl, rfl⟩ | ⟨-, hc⟩
    · exact hm
    · exact hw k c hc hr
  | setActive => exact hw
  | start => exact hw
  | popUpdate o _ => exact (reconciled_reconcileRole o _ _).workersLeft hk hw
  | popDelete o _ =>
    apply WorkersLeft.evict
    exact hw
  | reconcile o _ => exact (reconciled_reconcileRole o _ _).workersLeft hk hw
  | evict o id => exact hw.evict id

/-- No run lets a node the store shows as a worker be a raft member. -/
theorem workers_left_raft_run (w : World) (acts : List Act) (w' : World)
    (hk : NodesKeyed w) (hw : WorkersLeft w) (h : Lts.run step w acts = some w') :
    WorkersLeft w' := by
  have hinv : Lts.Inductive step w fun v => NodesKeyed v ∧ WorkersLeft v :=
    ⟨⟨hk, hw⟩, fun hv hs => ⟨hv.1.step hs, hv.2.step hv.1 hs⟩⟩
  exact (hinv.reachable (Lts.reachable_of_run h)).2

-- ======================= the queue

/-- The last queued event about node `k`. -/
def lastEvent (events : List Event) (k : NodeID) : Option Event :=
  (events.filter (·.nodeID = k)).getLast?

theorem lastEvent_append_of_eq {es : List Event} {e : Event} {k : NodeID} (he : e.nodeID = k) :
    lastEvent (es ++ [e]) k = some e := by
  simp [lastEvent, List.filter_append, he]

theorem lastEvent_append_of_ne {es : List Event} {e : Event} {k : NodeID} (he : e.nodeID ≠ k) :
    lastEvent (es ++ [e]) k = lastEvent es k := by
  simp [lastEvent, List.filter_append, he]

/-- Popping the head of the queue: the last event about `k` stays, or it
was the head. -/
theorem lastEvent_of_cons {es : List Event} {e x : Event} {k : NodeID}
    (h : lastEvent (e :: es) k = some x) :
    lastEvent es k = some x ∨ (lastEvent es k = none ∧ e = x) := by
  unfold lastEvent at h ⊢
  rw [List.filter_cons] at h
  split_ifs at h
  · rw [List.getLast?_cons] at h
    cases hl : (es.filter (·.nodeID = k)).getLast? with
    | none =>
      rw [hl] at h
      exact .inr ⟨rfl, Option.some.inj h⟩
    | some y =>
      rw [hl] at h
      exact .inl h
  · exact .inl h

theorem lastEvent_none_of_cons {es : List Event} {e : Event} {k : NodeID}
    (h : lastEvent (e :: es) k = none) : lastEvent es k = none := by
  unfold lastEvent at h ⊢
  rw [List.filter_cons] at h
  split_ifs at h
  · simp [List.getLast?_cons] at h
  · exact h

theorem lastEvent_cons_ne_none {es : List Event} {e : Event} {k : NodeID} (he : e.nodeID = k) :
    lastEvent (e :: es) k ≠ none := by
  simp [lastEvent, he, List.getLast?_cons]

/-- After a write, the written node is the last event about its ID. -/
theorem lastEvent_write {n : Node} {k : NodeID} (hk : n.id = k) {d : Node}
    (hl : (w.write n).nodes.lookup k = some d) :
    lastEvent (w.write n).events k = some (.updateNode d) := by
  subst hk
  rw [World.write_nodes, AList.lookup_insert] at hl
  cases hl
  exact lastEvent_append_of_eq rfl

-- ======================== tracking

/-- Every copy the role manager keeps is under its node's ID. -/
def PendingKeyed (w : World) : Prop := ∀ k n, w.pending.lookup k = some n → n.id = k

instance (w : World) : Decidable (PendingKeyed w) := decidable_of_iff' _ AList.forall_lookup_iff

/-- Node `k` is tracked: when its stored role is not its desired one, the
last queued event about it carries the stored node, or no event about it
is queued and the role manager's copy is the stored node. -/
def Covered (w : World) (k : NodeID) : Prop :=
  ∀ n, w.nodes.lookup k = some n → n.role ≠ n.desiredRole →
    lastEvent w.events k = some (.updateNode n) ∨
      (lastEvent w.events k = none ∧ w.pending.lookup k = some n)

instance (w : World) : Decidable (∀ k, Covered w k) := decidable_of_iff' _ AList.forall_lookup_iff

/-- Every member whose node is gone is pending removal, or the node's
deletion is the last queued event about it. -/
def Evicted (w : World) : Prop :=
  ∀ p ∈ w.cluster.members, p.2.nodeID ∉ w.nodes →
    p.2.nodeID ∈ w.removal ∨ lastEvent w.events p.2.nodeID = some (.deleteNode p.2.nodeID)

instance (w : World) : Decidable (Evicted w) :=
  inferInstanceAs (Decidable (∀ p ∈ w.cluster.members, _))

/-- What the role manager still has to do is in its queue or its maps. -/
structure Tracked (w : World) : Prop where
  keyed : NodesKeyed w
  pendingKeyed : PendingKeyed w
  covered : ∀ k, Covered w k
  evicted : Evicted w

instance (w : World) : Decidable (Tracked w) :=
  decidable_of_iff (NodesKeyed w ∧ PendingKeyed w ∧ (∀ k, Covered w k) ∧ Evicted w)
    ⟨fun ⟨h₁, h₂, h₃, h₄⟩ => ⟨h₁, h₂, h₃, h₄⟩, fun ⟨h₁, h₂, h₃, h₄⟩ => ⟨h₁, h₂, h₃, h₄⟩⟩

theorem Tracked.write (ht : Tracked w) (n : Node) : Tracked (w.write n) where
  keyed := ht.keyed.write n
  pendingKeyed := ht.pendingKeyed
  covered k c hl hne := by
    rw [World.write_nodes] at hl
    rcases AList.lookup_insert_eq_some hl with ⟨rfl, rfl⟩ | ⟨hk, hl⟩
    · exact .inl (lastEvent_append_of_eq rfl)
    · rw [World.write_events, lastEvent_append_of_ne (Ne.symm hk), World.write_pending]
      exact ht.covered k c hl hne
  evicted p hp hnot := by
    rw [World.write_nodes, AList.mem_insert, not_or] at hnot
    rw [World.write_events, lastEvent_append_of_ne (Ne.symm hnot.1)]
    exact ht.evicted p hp hnot.2

theorem Tracked.delete (ht : Tracked w) (id : NodeID) : Tracked (w.delete id) where
  keyed := ht.keyed.delete id
  pendingKeyed := ht.pendingKeyed
  covered k c hl hne := by
    obtain ⟨hk, hl⟩ := AList.lookup_erase_eq_some hl
    rw [World.delete_events, lastEvent_append_of_ne (Ne.symm hk)]
    exact ht.covered k c hl hne
  evicted p hp hnot := by
    by_cases hk : p.2.nodeID = id
    · -- the deletion just queued is the node's
      refine .inr ?_
      rw [World.delete_events, lastEvent_append_of_eq (e := .deleteNode id) hk.symm, hk]
    · rw [World.delete_nodes, AList.mem_erase, not_and_or, not_not] at hnot
      rw [World.delete_events, lastEvent_append_of_ne (Ne.symm hk)]
      exact ht.evicted p hp (hnot.resolve_left hk)

/-- A created node needs no reconciliation: its role is its desired one. -/
theorem Tracked.create (ht : Tracked w) (id : NodeID) (r : NodeRole) :
    Tracked { w with nodes := w.nodes.insert id ⟨id, w.version + 1, r, r, false⟩,
                     version := w.version + 1 } where
  keyed k c hc := by
    rcases AList.lookup_insert_eq_some hc with ⟨rfl, rfl⟩ | ⟨-, hc⟩
    · rfl
    · exact ht.keyed k c hc
  pendingKeyed := ht.pendingKeyed
  covered k c hl hne := by
    rcases AList.lookup_insert_eq_some hl with ⟨-, rfl⟩ | ⟨-, hl⟩
    · exact absurd rfl hne
    · exact ht.covered k c hl hne
  evicted p hp hnot := ht.evicted p hp fun h => hnot ((AList.mem_insert _).mpr (.inr h))

/-- Dropping node `j` from `pendingReconciliation` keeps the invariant
when the queue holds whatever `j` still needs. -/
theorem Tracked.erase (ht : Tracked w) {j : NodeID}
    (hj : ∀ c, w.nodes.lookup j = some c → c.role ≠ c.desiredRole →
      lastEvent w.events j = some (.updateNode c)) :
    Tracked { w with pending := w.pending.erase j } where
  keyed := ht.keyed
  pendingKeyed k n hn := ht.pendingKeyed k n (AList.lookup_erase_eq_some hn).2
  covered k c hl hne := by
    by_cases hk : k = j
    · subst hk
      exact .inl (hj c hl hne)
    · rcases ht.covered k c hl hne with h | ⟨h, hp⟩
      · exact .inl h
      · refine .inr ⟨h, ?_⟩
        dsimp only
        rw [AList.lookup_erase_ne hk]
        exact hp
  evicted := ht.evicted

theorem Tracked.remove (ht : Tracked w) {p : RaftID × RaftMember} (hp : p ∈ w.cluster.members) :
    Tracked (removeMember o p.2 w) := by
  rw [removeMember_frame]
  exact ⟨ht.keyed, ht.pendingKeyed, ht.covered,
    fun q hq hnot => ht.evicted q ((shrinks_removeMember hp).subset hq) hnot⟩

/-- A reconciliation from the copy the role manager keeps: what it drops
is in the queue. -/
theorem Reconciled.tracked {n : Node} (h : Reconciled o n w w') (ht : Tracked w)
    (hp : w.pending.lookup n.id = some n) : Tracked w' := by
  cases h with
  | unchanged => exact ht
  | dropped hne =>
    refine ht.erase fun c hl hnr => ?_
    rcases ht.covered n.id c hl hnr with h | ⟨-, hpc⟩
    · exact h
    · exact absurd (Option.some.inj (hpc.symm.trans hp)) (hne c hl hnr)
  | @written c r hc =>
    -- the write is the last event about the node
    exact (ht.write _).erase fun d hl _ =>
      lastEvent_write (n := { c with role := r }) (ht.keyed n.id c hc) hl
  | removed hp' => exact ht.remove hp'

theorem Tracked.evict (ht : Tracked w) (id : NodeID) : Tracked (evictRemovedNode o id w) := by
  rcases evictRemovedNode_cases o id w with ⟨hm, h⟩ | ⟨p, hp, h⟩
  · -- no member of the node is left to evict
    rw [h]
    refine ⟨ht.keyed, ht.pendingKeyed, ht.covered, fun p hp hnot => ?_⟩
    have hne : p.2.nodeID ≠ id := getMemberByNodeID_eq_none_iff.mp hm p hp
    rcases ht.evicted p hp hnot with h | h
    · exact .inl (Finset.mem_erase.mpr ⟨hne, h⟩)
    · exact .inr h
  · rw [h]
    exact ht.remove hp

/-- Handling a queued update: the node's copy becomes the popped node. -/
theorem Tracked.popUpdate (ht : Tracked w) {n : Node} {rest : List Event}
    (he : w.events = .updateNode n :: rest) :
    Tracked { w with events := rest, pending := w.pending.insert n.id n } where
  keyed := ht.keyed
  pendingKeyed k c hc := by
    rcases AList.lookup_insert_eq_some hc with ⟨rfl, rfl⟩ | ⟨-, hc⟩
    · rfl
    · exact ht.pendingKeyed k c hc
  covered k c hl hne := by
    rcases ht.covered k c hl hne with h | ⟨h, hp⟩
    · rw [he] at h
      rcases lastEvent_of_cons h with h | ⟨hnone, hx⟩
      · exact .inl h
      · -- the popped event was the last about `k`: it carried the stored node
        cases hx
        refine .inr ⟨hnone, ?_⟩
        dsimp only
        rw [← ht.keyed k n hl, AList.lookup_insert]
    · rw [he] at h
      have hk : n.id ≠ k := fun hk => lastEvent_cons_ne_none (e := .updateNode n) hk h
      refine .inr ⟨lastEvent_none_of_cons h, ?_⟩
      dsimp only
      rw [AList.lookup_insert_ne (Ne.symm hk)]
      exact hp
  evicted p hp hnot := by
    rcases ht.evicted p hp hnot with h | h
    · exact .inl h
    · rw [he] at h
      rcases lastEvent_of_cons h with h | ⟨-, hx⟩
      · exact .inr h
      · cases hx

/-- Handling a queued deletion: the node becomes pending removal. -/
theorem Tracked.popDelete (ht : Tracked w) {id : NodeID} {rest : List Event}
    (he : w.events = .deleteNode id :: rest) :
    Tracked { w with events := rest, removal := insert id w.removal } where
  keyed := ht.keyed
  pendingKeyed := ht.pendingKeyed
  covered k c hl hne := by
    rcases ht.covered k c hl hne with h | ⟨h, hp⟩
    · rw [he] at h
      rcases lastEvent_of_cons h with h | ⟨-, hx⟩
      · exact .inl h
      · cases hx
    · rw [he] at h
      exact .inr ⟨lastEvent_none_of_cons h, hp⟩
  evicted p hp hnot := by
    rcases ht.evicted p hp hnot with h | h
    · exact .inl (Finset.mem_insert_of_mem h)
    · rw [he] at h
      rcases lastEvent_of_cons h with h | ⟨-, hx⟩
      · exact .inr h
      · cases hx
        exact .inl (Finset.mem_insert_self _ _)

/-- A role manager starts tracking everything: every node is pending and
every member of a node not in the store is pending removal. -/
theorem tracked_start (hk : NodesKeyed w) (leader : RaftID) : Tracked (start leader w) where
  keyed := hk
  pendingKeyed := hk
  covered _ _ hl _ := .inr ⟨rfl, hl⟩
  evicted p hp hnot := .inl (by
    simp only [start, List.mem_toFinset, List.mem_filter, List.mem_map, decide_eq_true_eq]
    exact ⟨⟨p, hp, rfl⟩, hnot⟩)

theorem Tracked.step {a : Act} (ht : Tracked w) (h : step a w = some w') : Tracked w' := by
  cases move_of_step h with
  | refused => exact ht
  | write => exact ht.write _
  | delete k => exact ht.delete k
  | create r => exact ht.create _ r
  | setActive => exact ⟨ht.keyed, ht.pendingKeyed, ht.covered, ht.evicted⟩
  | start leader => exact tracked_start ht.keyed leader
  | popUpdate o he =>
    exact (reconciled_reconcileRole o _ _).tracked (ht.popUpdate he) (AList.lookup_insert _)
  | popDelete o he => exact (ht.popDelete he).evict _
  | reconcile o hp =>
    -- the copy is under its own ID
    refine (reconciled_reconcileRole o _ _).tracked ht ?_
    rw [ht.pendingKeyed _ _ hp]
    exact hp
  | evict o id => exact ht.evict id

/-- No run makes the role manager forget a node still to reconcile or a
member still to evict. -/
theorem tracked_run (w : World) (acts : List Act) (w' : World) (ht : Tracked w)
    (h : Lts.run step w acts = some w') : Tracked w' := by
  have hinv : Lts.Inductive step w Tracked := ⟨ht, fun hv hs => hv.step hs⟩
  exact hinv.reachable (Lts.reachable_of_run h)

-- ================ the last manager

theorem mem_findNodesByRole {r : NodeRole} {k : NodeID} {n : Node}
    (hl : w.nodes.lookup k = some n) (hr : n.role = r) : n ∈ findNodesByRole r w := by
  unfold findNodesByRole
  rw [List.mem_filter]
  exact ⟨List.mem_map.mpr ⟨⟨k, n⟩, AList.mem_lookup_iff.mp hl, rfl⟩, by simpa using hr⟩

/-- Two managers of different IDs are not the last one. -/
theorem isLastManager_of_two {managers : List Node} {m m' : Node} (hm : m ∈ managers)
    (hm' : m' ∈ managers) (hne : m.id ≠ m'.id) (node : Node) :
    isLastManager managers node = false := by
  rcases managers with _ | ⟨x, _ | ⟨y, rest⟩⟩
  · cases hm
  · rw [List.mem_singleton] at hm hm'
    subst hm hm'
    exact absurd rfl hne
  · rfl

theorem demotionChecks_eq_ok {node : Node} {m : RaftMember}
    (hl : isLastManager (findNodesByRole .manager w) node = false)
    (hm : getMemberByNodeID w.cluster node.id = some m)
    (hq : canRemoveMember w.cluster w.leader w.active m.raftID = true) :
    demotionChecks node w = .ok () := by
  simp [demotionChecks, hl, hm, hq]

/-- A demotion that passes the checks writes the desired role. -/
theorem updateNode_demote {node : Node} (hl : w.nodes.lookup node.id = some node)
    (hd : node.desiredRole = .manager) (hc : demotionChecks node w = .ok ()) :
    updateNode ⟨some node.id, some node.version, some ⟨.worker⟩⟩ w =
      .ok (w.write { node with desiredRole := .worker }) := by
  simp [updateNode, validateNodeSpec, Lts.ok_bind, hl, hd, hc, updateStoredNode]

/-- Two managers that are raft members, which the leader can each let go,
are demoted by two `UpdateNode` calls in a row, each passing the
last-manager check; when they were the only nodes desired to be managers,
none is left. -/
theorem last_manager_guard_passed_twice (w : World) (a b : Node) (ma mb : RaftMember)
    (hab : a.id ≠ b.id) (ha : w.nodes.lookup a.id = some a) (hb : w.nodes.lookup b.id = some b)
    (hra : a.role = .manager) (hrb : b.role = .manager)
    (hda : a.desiredRole = .manager) (hdb : b.desiredRole = .manager)
    (hma : getMemberByNodeID w.cluster a.id = some ma)
    (hmb : getMemberByNodeID w.cluster b.id = some mb)
    (hqa : canRemoveMember w.cluster w.leader w.active ma.raftID = true)
    (hqb : canRemoveMember w.cluster w.leader w.active mb.raftID = true)
    (honly : ∀ k n, w.nodes.lookup k = some n → n.desiredRole = .manager → k = a.id ∨ k = b.id) :
    ∃ w₁ w₂, updateNode ⟨some a.id, some a.version, some ⟨.worker⟩⟩ w = .ok w₁ ∧
      updateNode ⟨some b.id, some b.version, some ⟨.worker⟩⟩ w₁ = .ok w₂ ∧
      ∀ k n, w₂.nodes.lookup k = some n → n.desiredRole = .worker := by
  -- the first demotion sees both nodes as managers
  have h₁ := updateNode_demote ha hda (demotionChecks_eq_ok
    (isLastManager_of_two (mem_findNodesByRole ha hra) (mem_findNodesByRole hb hrb) hab a) hma hqa)
  -- the role manager has not run: `a` is still observed a manager
  have ha₁ : (w.write { a with desiredRole := .worker }).nodes.lookup a.id =
      some { a with desiredRole := .worker, version := w.version + 1 } := by
    rw [World.write_nodes]
    exact AList.lookup_insert _
  have hb₁ : (w.write { a with desiredRole := .worker }).nodes.lookup b.id = some b := by
    rw [World.write_nodes, AList.lookup_insert_ne (Ne.symm hab)]
    exact hb
  have h₂ := updateNode_demote hb₁ hdb (demotionChecks_eq_ok
    (isLastManager_of_two (mem_findNodesByRole ha₁ hra) (mem_findNodesByRole hb₁ hrb) hab b) hmb hqb)
  refine ⟨_, _, h₁, h₂, fun k n hn => ?_⟩
  rw [World.write_nodes] at hn
  rcases AList.lookup_insert_eq_some hn with ⟨-, rfl⟩ | ⟨hkb, hn⟩
  · rfl
  rw [World.write_nodes] at hn
  rcases AList.lookup_insert_eq_some hn with ⟨-, rfl⟩ | ⟨hka, hn⟩
  · rfl
  -- every other node was not desired to be a manager
  cases hd : n.desiredRole with
  | worker => rfl
  | manager => exact absurd (honly k n hn hd) (not_or.mpr ⟨hka, hkb⟩)

/-- Two managers, nodes 1 and 2, each a raft member under its own raft
ID; the role manager runs on 1, whose transport sees 2 active. -/
def twoManagers : World where
  nodes := ((∅ : Orchestrator.Table Node).insert 1 ⟨1, 1, .manager, .manager, true⟩).insert 2
    ⟨2, 2, .manager, .manager, true⟩
  version := 2
  cluster := ⟨[(1, ⟨1, 1, 10⟩), (2, ⟨2, 2, 20⟩)], [], by decide⟩
  leader := 1
  active := [2]
  events := []
  pending := ∅
  removal := ∅

theorem two_managers_both_demoted :
    ∃ w₁ w₂, updateNode ⟨some 1, some 1, some ⟨.worker⟩⟩ twoManagers = .ok w₁ ∧
      updateNode ⟨some 2, some 2, some ⟨.worker⟩⟩ w₁ = .ok w₂ ∧
      ∀ k n, w₂.nodes.lookup k = some n → n.desiredRole = .worker :=
  last_manager_guard_passed_twice twoManagers ⟨1, 1, .manager, .manager, true⟩
    ⟨2, 2, .manager, .manager, true⟩ ⟨1, 1, 10⟩ ⟨2, 2, 20⟩ (by decide) (by decide) (by decide)
    rfl rfl rfl rfl (by decide) (by decide) (by decide) (by decide)
    (AList.forall_lookup_iff.mpr (by decide))

/-- The environment answers every call with success, but leadership is
not handed over. -/
def committing : Outcome := ⟨true, false, true, true⟩

/-- Both managers demoted in a row; the role manager on node 1 handles
both updates, removing node 1 from the raft, and a role manager on
node 2, now the leader, reconciles both nodes. -/
def demoteBoth : List Act :=
  [.updateNode ⟨some 1, some 1, some ⟨.worker⟩⟩, .updateNode ⟨some 2, some 2, some ⟨.worker⟩⟩,
    .handleEvent committing, .handleEvent committing, .start 2,
    .reconcilePending 1 committing, .reconcilePending 2 committing]

theorem demotions_keep_a_member :
    MembersKeyed twoManagers.cluster ∧ twoManagers.cluster.members ≠ [] ∧
      ∃ w', Lts.run step twoManagers demoteBoth = some w' ∧ w'.cluster.members ≠ [] :=
  ⟨by decide, by decide, _, rfl,
    members_nonempty_run twoManagers demoteBoth _ (by decide) (by decide) rfl⟩

theorem first_removal_keeps_quorum :
    ∃ w₂, Lts.run step twoManagers (demoteBoth.take 2) = some w₂ ∧ MembersKeyed w₂.cluster ∧
      ∃ w₃, step (.handleEvent committing) w₂ = some w₃ ∧
        (w₃.cluster = w₂.cluster ∨
          w₃.cluster.members.length + 1 = w₂.cluster.members.length ∧
            w₃.cluster.members.length / 2 + 1 ≤ reached w₃) :=
  ⟨_, rfl, by decide, _, rfl, removal_keeps_quorum (.handleEvent committing) _ _ (by decide) rfl⟩

theorem demotions_tracked :
    Tracked twoManagers ∧ ∃ w', Lts.run step twoManagers demoteBoth = some w' ∧ Tracked w' :=
  ⟨by decide, _, rfl, tracked_run twoManagers demoteBoth _ (by decide) rfl⟩

theorem demotions_leave_raft_first :
    NodesKeyed twoManagers ∧ WorkersLeft twoManagers ∧
      ∃ w', Lts.run step twoManagers demoteBoth = some w' ∧ WorkersLeft w' :=
  ⟨by decide, by decide, _, rfl,
    workers_left_raft_run twoManagers demoteBoth _ (by decide) (by decide) rfl⟩

theorem last_member_stays :
    ∃ w', Lts.run step twoManagers demoteBoth = some w' ∧ w'.cluster.members.length = 1 ∧
      ∃ w'', Lts.run step w' [.reconcilePending 2 committing, .reconcilePending 2 committing] =
        some w'' ∧ w''.cluster = w'.cluster :=
  ⟨_, rfl, by decide, _, rfl,
    single_member_kept _ [.reconcilePending 2 committing, .reconcilePending 2 committing] _
      (by decide) rfl⟩

end SwarmKit.Manager

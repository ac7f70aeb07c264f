import SwarmKit.Raft.Join

/-
What the membership keeps (`Membership.lean`) and what `Join` breaks
(`Join.lean`).

# Removed IDs

Every operation on the cluster, `Clear` apart, is built from three
primitive changes: setting the entry of an ID that is not removed,
deleting an entry, and marking an ID removed while deleting its entry
(`RemoveMember`). Each keeps removed IDs out of the member map and
forgets no removed ID (`SafeChange`), and so does every composition of
them: the `Cluster` methods when they succeed, `registerNode`,
`processConfChange` whatever its validation said, and the three loops of
`restoreFromSnapshot`. `Clear` empties both. Hence no reachable cluster
has a removed member (`removed_id_never_member`).

# One member per node

`Join` decides between updating the node's member and adding a new one
by scanning the applied member list. A `Join` whose `configure` returned
early has left its `AddNode` in the log; a retry from the same node
finds no member for it yet, draws another ID and proposes a second
`AddNode`, and applying both gives the node two members
(`join_retry_adds_second_member`), each counted in the quorum.
-/

namespace SwarmKit.Raft.Membership

namespace Cluster

-- ==================== safe changes

/-- No member's raft ID is removed. -/
def Disjoint (c : Cluster) : Prop := ∀ p ∈ c.members, p.1 ∉ c.removed

/-- `c'` is reached from `c` by changes that keep removed IDs out of the
members and forget no removed ID. -/
def SafeChange (c c' : Cluster) : Prop := (c.Disjoint → c'.Disjoint) ∧ c.removed ⊆ c'.removed

theorem SafeChange.refl (c : Cluster) : SafeChange c c := ⟨id, List.Subset.refl _⟩

theorem SafeChange.trans {c₁ c₂ c₃ : Cluster} (h₁ : SafeChange c₁ c₂) (h₂ : SafeChange c₂ c₃) :
    SafeChange c₁ c₃ :=
  ⟨h₂.1 ∘ h₁.1, List.Subset.trans h₁.2 h₂.2⟩

/-- A fold of safe changes is safe. -/
theorem SafeChange.foldl {α : Type} {f : Cluster → α → Cluster} (hf : ∀ c a, SafeChange c (f c a))
    (l : List α) (c : Cluster) : SafeChange c (l.foldl f c) :=
  List.foldlRecOn l f (SafeChange.refl c) fun c' h a _ => h.trans (hf c' a)

theorem safeChange_setMember {c : Cluster} {id : RaftID} (m : RaftMember) (hid : id ∉ c.removed) :
    SafeChange c (c.setMember id m) := by
  refine ⟨fun hd p hp => ?_, by simp⟩
  simp only [setMember_members, List.mem_cons, List.mem_filter] at hp
  rcases hp with rfl | ⟨hp, -⟩
  · simpa using hid
  · simpa using hd p hp

theorem safeChange_clearMember (c : Cluster) (id : RaftID) : SafeChange c (c.clearMember id) := by
  refine ⟨fun hd p hp => ?_, by simp⟩
  simp only [clearMember_members, List.mem_filter] at hp
  simpa using hd p hp.1

theorem safeChange_removeMember (c : Cluster) (id : RaftID) : SafeChange c (c.removeMember id) := by
  refine ⟨fun hd p hp => ?_, by simp⟩
  simp only [removeMember_members, List.mem_filter, decide_eq_true_eq] at hp
  simp only [removeMember_removed, List.mem_cons, not_or]
  exact ⟨hp.2, hd p hp.1⟩

theorem safeChange_addMember {c c' : Cluster} {m : RaftMember} (h : c.addMember m = .ok c') :
    SafeChange c c' := by
  obtain ⟨hr, rfl⟩ := addMember_eq_ok h
  exact safeChange_setMember m hr

theorem safeChange_updateMember {c c' : Cluster} {id : RaftID} {m : RaftMember}
    (h : c.updateMember id m = .ok c') : SafeChange c c' := by
  obtain ⟨hr, rfl | rfl⟩ := updateMember_eq_ok h
  · exact SafeChange.refl _
  · exact safeChange_setMember m hr

/-- Every state of the cluster keeps removed IDs out of the members. -/
theorem Disjoint.isIDRemoved {c : Cluster} (hd : c.Disjoint) {id : RaftID}
    (hm : (c.getMember id).isSome) : c.isIDRemoved id = false := by
  obtain ⟨p, hp, rfl⟩ := (getMember_isSome_iff c id).mp hm
  simpa [Cluster.isIDRemoved] using hd p hp

end Cluster

open Cluster

-- ====================== composites

theorem safeChange_keepOnError {ε : Type} {r : Except ε Cluster} {c : Cluster}
    (h : ∀ c', r = .ok c' → SafeChange c c') : SafeChange c (keepOnError r c) := by
  cases r with
  | ok c' => exact h c' rfl
  | error _ => exact SafeChange.refl c

/-- Relabelling the error keeps the successful result. -/
theorem eq_ok_of_mapError {ε ε' : Type} {f : ε → ε'} {r : Except ε Cluster} {c : Cluster}
    (h : r.mapError f = .ok c) : r = .ok c := by
  cases r with
  | ok c' => simpa [Except.mapError] using h
  | error e => cases h

/-- A successful `registerNode` is a safe change: it only adds an ID it
checked is not removed. -/
theorem safeChange_registerNode {self : RaftID} {ok : Bool} {node : RaftMember} {c c' : Cluster}
    (h : registerNode self ok node c = .ok c') : SafeChange c c' := by
  unfold registerNode at h
  -- the cases follow `registerNode`'s branches; a refused transport call
  -- returns before the map is touched
  split at h
  · cases h
    exact SafeChange.refl c
  · split at h
    · -- a present member, set again when its address changed
      split at h
      · split at h
        · cases h
        · cases h
          exact safeChange_keepOnError fun _ => safeChange_addMember
      · cases h
        exact SafeChange.refl c
    · -- a new member
      split at h
      · cases h
      · exact safeChange_addMember (eq_ok_of_mapError h)

/-- Applying any conf change is a safe change, whether or not it
validated and whether or not the transport calls succeeded. -/
theorem safeChange_processConfChange (self : RaftID) (ok : Bool) (cc : ConfChange) (c : Cluster) :
    SafeChange c (processConfChange self ok cc c).1 := by
  refine safeChange_keepOnError fun c' h => ?_
  cases ht : cc.type with
  | addNode =>
      simp only [ht, applyAddNode] at h
      by_cases h0 : cc.context.raftID = 0
      · rw [if_pos h0] at h
        cases h
        exact SafeChange.refl c
      · rw [if_neg h0] at h
        exact safeChange_registerNode h
  | updateNode =>
      simp only [ht, applyUpdateNode] at h
      by_cases hs : cc.context.raftID = self
      · rw [if_pos hs] at h
        cases h
        exact SafeChange.refl c
      · rw [if_neg hs] at h
        by_cases hok : !ok
        · rw [if_pos hok] at h
          cases h
        · rw [if_neg hok] at h
          exact safeChange_updateMember (eq_ok_of_mapError h)
  | removeNode =>
      simp only [ht, applyRemoveNode] at h
      by_cases hf : cc.nodeID ≠ self ∧ !ok
      · rw [if_pos hf] at h
        cases h
      · rw [if_neg hf] at h
        cases h
        exact safeChange_removeMember c cc.nodeID
  | addLearnerNode =>
      simp only [ht] at h
      cases h
      exact SafeChange.refl c

/-- Installing a snapshot's membership is a safe change: its three loops
remove, clear and register. -/
theorem safeChange_restoreFromSnapshot (self : RaftID) (ok : RaftID → Bool) (snap : ClusterSnapshot)
    (c : Cluster) : SafeChange c (restoreFromSnapshot self ok snap c) := by
  unfold restoreFromSnapshot
  refine ((SafeChange.foldl safeChange_removeMember _ c).trans
    (SafeChange.foldl safeChange_clearMember _ _)).trans (SafeChange.foldl ?_ _ _)
  intro c' m
  exact safeChange_keepOnError fun _ => safeChange_registerNode

/-- Every operation but `Clear` is a safe change. -/
theorem safeChange_step {self : RaftID} {op : Op} {c c' : Cluster}
    (h : Cluster.step self op c = some c') (hop : op ≠ .clear) : SafeChange c c' := by
  cases op with
  | addMember m =>
      cases h
      exact safeChange_keepOnError fun _ => safeChange_addMember
  | removeMember id => cases h; exact safeChange_removeMember c id
  | updateMember id m =>
      cases h
      exact safeChange_keepOnError fun _ => safeChange_updateMember
  | clearMember id => cases h; exact safeChange_clearMember c id
  | clear => exact absurd rfl hop
  | processConfChange cc ok => cases h; exact safeChange_processConfChange self ok cc c
  | restoreFromSnapshot snap ok => cases h; exact safeChange_restoreFromSnapshot self ok snap c

/-- Disjointness is inductive from `NewCluster()`. -/
theorem disjoint_inductive (self : RaftID) :
    Lts.Inductive (Cluster.step self) Cluster.empty Cluster.Disjoint := by
  refine ⟨fun _ hp => (by cases hp), fun {op} {c} {c'} hd h => ?_⟩
  cases op with
  | clear =>
      cases h
      intro _ hp
      cases hp
  | _ => exact (safeChange_step h (by simp)).1 hd

theorem removed_id_never_member (self : RaftID) :
    (∀ c, Lts.Reachable (Cluster.step self) Cluster.empty c →
      ∀ id, (c.getMember id).isSome → c.isIDRemoved id = false) ∧
    (∀ op c c', Cluster.step self op c = some c' → op ≠ .clear →
      ∀ id, c.isIDRemoved id = true → c'.isIDRemoved id = true) ∧
    (∀ (c : Cluster) (cc : ConfChange), c.isIDRemoved cc.nodeID = true ∨ (cc.type = .addNode ∧ (c.getMember cc.nodeID).isSome) →
      ∃ e, c.validateConfigurationChange cc = .error e) := by
  refine ⟨fun c hc id hm => ((disjoint_inductive self).reachable hc).isIDRemoved hm, ?_, ?_⟩
  · intro op c c' h hop id hr
    rw [isIDRemoved_iff] at hr ⊢
    exact (safeChange_step h hop).2 hr
  · intro c cc hcc
    cases hr : c.isIDRemoved cc.nodeID
    · obtain ⟨ht, hm⟩ := hcc.resolve_left (by simp [hr])
      exact ⟨_, validateConfigurationChange_exists hr ht hm⟩
    · exact ⟨_, validateConfigurationChange_removed hr⟩

-- =================== joining twice

theorem join_retry_adds_second_member (l : Leader) (n : NodeID) (a : Addr) (r₁ r₂ : RaftID)
    (hlock : l.waiting = none) (hlog : l.log = []) (hnode : Leader.memberOfNode l.cluster n = none)
    (h₁ : r₁ ≠ 0 ∧ l.cluster.getMember r₁ = none ∧ r₁ ∉ l.cluster.removed)
    (h₂ : r₂ ≠ 0 ∧ l.cluster.getMember r₂ = none ∧ r₂ ∉ l.cluster.removed) (hne : r₁ ≠ r₂) :
    ∃ l', Lts.run Leader.step l
        [.join n a r₁ true, .cancel, .join n a r₂ true, .apply true, .apply true] = some l' ∧
      l'.cluster.getMember r₁ = some ⟨r₁, n, a⟩ ∧ l'.cluster.getMember r₂ = some ⟨r₂, n, a⟩ := by
  obtain ⟨h₁0, h₁m, h₁r⟩ := h₁
  obtain ⟨h₂0, h₂m, h₂r⟩ := h₂
  -- the first `Join` proposes `r₁`; its `configure` returns early; the retry
  -- still finds no member of `n` and proposes `r₂`
  set l₁ := l.configure true .addNode ⟨r₁, n, a⟩
  have hj₁ : l.join n a r₁ true = some l₁ := Leader.join_of_new true hlock hnode h₁0 h₁m h₁r
  have hj₂ : ({ l₁ with waiting := none } : Leader).join n a r₂ true =
      some (({ l₁ with waiting := none } : Leader).configure true .addNode ⟨r₂, n, a⟩) :=
    Leader.join_of_new true rfl (by simpa [l₁] using hnode) h₂0 (by simpa [l₁] using h₂m)
      (by simpa [l₁] using h₂r)
  -- the first `AddNode` is applied before the second: `r₂` is still fresh then
  set c₁ := l.cluster.setMember r₁ ⟨r₁, n, a⟩
  have hc₁ : c₁.getMember r₂ = none := by
    simp [c₁, getMember_setMember, hne, h₂m]
  have happly₁ := processConfChange_addNode (m := ⟨r₁, n, a⟩) l.self l.nextID h₁0 h₁m h₁r
  have happly₂ := processConfChange_addNode (m := ⟨r₂, n, a⟩) l.self (l.nextID + 1) h₂0 hc₁ h₂r
  refine ⟨{ l with
    cluster := c₁.setMember r₂ ⟨r₂, n, a⟩, log := [], nextID := l.nextID + 2, waiting := none },
    ?_, ?_, ?_⟩
  · simp only [Lts.run_cons, Leader.step, hj₁, Option.bind_some, Leader.cancel, l₁,
      Leader.configure_true]
    simp only [l₁, Leader.configure_true, hlog, List.nil_append] at hj₂
    simp [hlog, hj₂, Leader.apply, happly₁, happly₂, c₁]
  · simp [getMember_setMember, c₁]
  · simp [getMember_setMember]

/-- A leader, raft ID 1 of node 10, alone in its cluster. -/
def soleLeader : Leader := Leader.init 1 10 100

theorem join_retry_adds_second_member_node20 :
    soleLeader.waiting = none ∧ soleLeader.log = [] ∧ Leader.memberOfNode soleLeader.cluster 20 = none ∧
    ((2 : RaftID) ≠ 0 ∧ soleLeader.cluster.getMember 2 = none ∧ 2 ∉ soleLeader.cluster.removed) ∧
    ((3 : RaftID) ≠ 0 ∧ soleLeader.cluster.getMember 3 = none ∧ 3 ∉ soleLeader.cluster.removed) ∧
    (2 : RaftID) ≠ 3 ∧
    ∃ l', Lts.run Leader.step soleLeader
        [.join 20 200 2 true, .cancel, .join 20 200 3 true, .apply true, .apply true] = some l' ∧
      l'.cluster.getMember 2 = some ⟨2, 20, 200⟩ ∧ l'.cluster.getMember 3 = some ⟨3, 20, 200⟩ :=
  ⟨rfl, rfl, rfl, ⟨by decide, rfl, by decide⟩, ⟨by decide, rfl, by decide⟩, by decide,
    join_retry_adds_second_member soleLeader 20 200 2 3 rfl rfl rfl ⟨by decide, rfl, by decide⟩
      ⟨by decide, rfl, by decide⟩ (by decide)⟩

end SwarmKit.Raft.Membership

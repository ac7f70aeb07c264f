import SwarmKit.Raft.ForceNewCluster
import SwarmKit.Lib.Lts
import Mathlib.Data.List.Nodup
import Mathlib.Data.List.TakeWhile

/-
What forcing a new cluster writes to the log and to the removed set
(`ForceNewCluster.lean`).

# The appended entries

`createConfigChangeEnts` numbers its entries on from the commit index
without a gap (`createConfigChangeEnts_indices`) and removes exactly the
listed IDs other than `self` (`removedIDs_createConfigChangeEnts`).

# Replaying them

`getIDs` of a log is the replay of its conf changes over the snapshot's
voters, and splits where the log does (`getIDs_append`); the set stays
free of duplicates (`foldlM_applyEntry_nodup`). Replayed after the log,
the appended entries take every ID of the set but `self` out of it and
put `self` in: whatever order the map listed the set in, the replay is
`[self]` (`getIDs_forced`). `getIDs` skips the entries older than the
snapshot, so this needs the first appended index, one past the commit
index, to be no older than the snapshot. A snapshot newer than that
keeps its other voters through the replay (`stale_commit_keeps_ghost`).

# loadAndStart

On a WAL whose committed conf changes all decode, `loadAndStart`
forcing a new cluster returns; it appends the new entries to the
committed ones, commits them, and leaves every ID they remove, never
`self`, in the removed set (`force_new_cluster_membership`).
-/

namespace SwarmKit.Raft.ForceNewCluster

open SwarmKit.Raft.Membership

-- ============ statement vocabulary

/-- The ID a `RemoveNode` entry removes. -/
def removedID (e : Entry) : Option RaftID :=
  if e.type = .confChange then
    match e.data with
    | some cc => if cc.type = .removeNode then some cc.nodeID else none
    | none => none
  else none

/-- The IDs a list of entries removes, in order. -/
def removedIDs (ents : List Entry) : List RaftID := ents.filterMap removedID

theorem removedID_removeNodeEnt (id term index : Nat) : removedID (removeNodeEnt id term index) = some id :=
  rfl

/-- A conf change whose data unmarshals to a change `getIDs` knows. -/
def Decodes (e : Entry) : Prop :=
  e.type = .confChange → ∃ cc, e.data = some cc ∧ cc.type ≠ .addLearnerNode

-- ============ the appended entries

section Ents

variable (self term : Nat)

theorem createConfigChangeEntsFrom_indices (ids : List RaftID) (next : Nat) (found : Bool) :
    (createConfigChangeEntsFrom self term ids next found).map Entry.index =
      List.range' next (createConfigChangeEntsFrom self term ids next found).length := by
  induction ids generalizing next found with
  | nil => cases found <;> rfl
  | cons id ids ih =>
    by_cases h : id = self
    · rw [createConfigChangeEntsFrom, if_pos h]
      exact ih next true
    · rw [createConfigChangeEntsFrom, if_neg h, List.map_cons, List.length_cons, List.range'_succ,
        ih (next + 1) found]
      rfl

/-- The appended entries are numbered on from the commit index. -/
theorem createConfigChangeEnts_indices (ids : List RaftID) (index : Nat) :
    (createConfigChangeEnts ids self term index).map Entry.index =
      List.range' (index + 1) (createConfigChangeEnts ids self term index).length :=
  createConfigChangeEntsFrom_indices self term ids (index + 1) false

theorem removedIDs_createConfigChangeEntsFrom (ids : List RaftID) (next : Nat) (found : Bool) :
    removedIDs (createConfigChangeEntsFrom self term ids next found) = ids.filter (· ≠ self) := by
  induction ids generalizing next found with
  | nil => cases found <;> rfl
  | cons id ids ih =>
    by_cases h : id = self
    · rw [createConfigChangeEntsFrom, if_pos h, ih, List.filter_cons_of_neg (by simpa using h)]
    · rw [createConfigChangeEntsFrom, if_neg h, removedIDs,
        List.filterMap_cons_some (removedID_removeNodeEnt id term next), ← removedIDs, ih,
        List.filter_cons_of_pos (by simpa using h)]

/-- The appended entries remove exactly the listed IDs but `self`. -/
theorem removedIDs_createConfigChangeEnts (ids : List RaftID) (index : Nat) :
    removedIDs (createConfigChangeEnts ids self term index) = ids.filter (· ≠ self) :=
  removedIDs_createConfigChangeEntsFrom self term ids (index + 1) false

/-- Every appended entry carries a conf change. -/
theorem createConfigChangeEntsFrom_data (ids : List RaftID) (next : Nat) (found : Bool) :
    ∀ e ∈ createConfigChangeEntsFrom self term ids next found, e.data.isSome := by
  induction ids generalizing next found with
  | nil =>
    cases found
    · intro e he
      rw [createConfigChangeEntsFrom, if_neg Bool.false_ne_true, List.mem_singleton] at he
      rw [he]
      rfl
    · intro e he
      cases he
  | cons id ids ih =>
    by_cases h : id = self
    · rw [createConfigChangeEntsFrom, if_pos h]
      exact ih next true
    · rw [createConfigChangeEntsFrom, if_neg h]
      rintro e (_ | ⟨_, he⟩)
      · rfl
      · exact ih (next + 1) found e he

end Ents

-- ========================== getIDs

section Replay

variable {snap : Option Snapshot}

theorem olderThanSnapshot_eq_false {e : Entry} (h : ∀ s ∈ snap, s.index ≤ e.index) :
    olderThanSnapshot snap e = false := by
  cases snap with
  | none => rfl
  | some s =>
    have hs := h s rfl
    simp only [olderThanSnapshot, decide_eq_false_iff_not, Nat.not_lt]
    exact hs

theorem applyEntry_removeNodeEnt (id term index : Nat) (h : ∀ s ∈ snap, s.index ≤ index)
    (ids : List RaftID) : applyEntry snap ids (removeNodeEnt id term index) = some (ids.erase id) := by
  have hold := olderThanSnapshot_eq_false (e := removeNodeEnt id term index) h
  simp [applyEntry, removeNodeEnt] at hold ⊢
  simp [hold]

theorem applyEntry_addNodeEnt (self term index : Nat) (h : ∀ s ∈ snap, s.index ≤ index)
    (ids : List RaftID) : applyEntry snap ids (addNodeEnt self term index) = some (ids.insert self) := by
  have hold := olderThanSnapshot_eq_false (e := addNodeEnt self term index) h
  simp [applyEntry, addNodeEnt] at hold ⊢
  simp [hold]

/-- A conf change that decodes is replayed without a panic. -/
theorem applyEntry_isSome {e : Entry} (h : Decodes e) (ids : List RaftID) :
    ∃ ids', applyEntry snap ids e = some ids' := by
  unfold applyEntry
  by_cases ht : e.type = .confChange
  · obtain ⟨cc, hd, hl⟩ := h ht
    rw [if_neg (not_not.2 ht)]
    split
    · exact ⟨_, rfl⟩
    rw [hd]
    dsimp only
    cases hcc : cc.type
    case addLearnerNode => exact absurd hcc hl
    all_goals exact ⟨_, rfl⟩
  · exact ⟨ids, if_pos ht⟩

/-- The replay keeps the set free of duplicates. -/
theorem applyEntry_nodup {ids ids' : List RaftID} {e : Entry} (h : applyEntry snap ids e = some ids')
    (hids : ids.Nodup) : ids'.Nodup := by
  unfold applyEntry at h
  split at h
  · cases h
    exact hids
  split at h
  · cases h
    exact hids
  split at h
  · cases h
  split at h
  · cases h
    exact hids.insert
  · cases h
    exact hids.erase _
  · cases h
    exact hids
  · cases h

theorem snapshotVoters_nodup (snap : Option Snapshot) : (snapshotVoters snap).Nodup := by
  cases snap with
  | none => exact List.nodup_nil
  | some s => exact Lts.foldl_invariant (P := List.Nodup) _ (fun _ _ h => h.insert) _ List.nodup_nil

theorem foldlM_applyEntry_nodup {ents : List Entry} {ids ids' : List RaftID}
    (h : ents.foldlM (applyEntry snap) ids = some ids') (hids : ids.Nodup) : ids'.Nodup :=
  Lts.foldlM_invariant (P := List.Nodup) (applyEntry snap) (fun _ _ _ h hs => applyEntry_nodup h hs)
    ents h hids

theorem foldlM_applyEntry_isSome {ents : List Entry} (hdec : ∀ e ∈ ents, Decodes e)
    (ids : List RaftID) : ∃ ids', ents.foldlM (applyEntry snap) ids = some ids' := by
  induction ents generalizing ids with
  | nil => exact ⟨ids, rfl⟩
  | cons e ents ih =>
    obtain ⟨ids₁, h₁⟩ := @applyEntry_isSome snap e (hdec e List.mem_cons_self) ids
    obtain ⟨ids', h'⟩ := ih (fun e' he' => hdec e' (List.mem_cons_of_mem e he')) ids₁
    refine ⟨ids', ?_⟩
    rw [List.foldlM_cons, h₁]
    exact h'

/-- `getIDs` of a log split in two: the replay of the second part
continues the first's. -/
theorem getIDs_append (mapOrder : List RaftID → List RaftID) (a b : List Entry) :
    getIDs mapOrder snap (a ++ b) =
      ((a.foldlM (applyEntry snap) (snapshotVoters snap)).bind fun ids =>
        b.foldlM (applyEntry snap) ids).map mapOrder := by
  rw [getIDs, List.foldlM_append]
  rfl

/-- Replaying the appended entries from the set `ids`: each listed ID
but `self` is erased, and `self` inserted unless it was listed. -/
theorem foldlM_applyEntry_createConfigChangeEntsFrom (self term : Nat) (ids : List RaftID)
    (next : Nat) (found : Bool) (hsnap : ∀ s ∈ snap, s.index ≤ next) (set : List RaftID) :
    (createConfigChangeEntsFrom self term ids next found).foldlM (applyEntry snap) set =
      some (if found = true ∨ self ∈ ids then set.diff (ids.filter (· ≠ self))
        else (set.diff (ids.filter (· ≠ self))).insert self) := by
  induction ids generalizing next found set with
  | nil =>
    cases found
    · rw [createConfigChangeEntsFrom, if_neg Bool.false_ne_true, List.foldlM_cons,
        applyEntry_addNodeEnt self term next hsnap]
      simp
    · simp [createConfigChangeEntsFrom]
  | cons id ids ih =>
    by_cases h : id = self
    · rw [createConfigChangeEntsFrom, if_pos h, ih next true hsnap set]
      simp [h]
    · have hsnap' : ∀ s ∈ snap, s.index ≤ next + 1 := fun s hs => Nat.le_succ_of_le (hsnap s hs)
      rw [createConfigChangeEntsFrom, if_neg h, List.foldlM_cons,
        applyEntry_removeNodeEnt id term next hsnap set]
      refine (ih (next + 1) found hsnap' (set.erase id)).trans ?_
      simp [h, Ne.symm h, List.diff_cons]

/-- After the appended entries, the set of a duplicate-free replay
listed as `ids` is `self` alone. -/
theorem replay_eq_singleton {set ids : List RaftID} (hset : set.Nodup) (hperm : ids.Perm set)
    (self : RaftID) :
    (if self ∈ ids then set.diff (ids.filter (· ≠ self))
      else (set.diff (ids.filter (· ≠ self))).insert self) = [self] := by
  -- what is left of the set is `self`, if it was there
  have hleft : ∀ a, a ∈ set.diff (ids.filter (· ≠ self)) ↔ a ∈ set ∧ a = self := by
    intro a
    rw [hset.mem_sdiff_iff, List.mem_filter, hperm.mem_iff]
    by_cases ha : a = self <;> simp [ha]
  rw [← List.perm_singleton]
  split
  · rename_i hself
    refine (List.perm_ext_iff_of_nodup hset.diff (List.nodup_singleton self)).2 fun a => ?_
    rw [hleft, List.mem_singleton]
    exact ⟨And.right, fun ha => ⟨ha ▸ hperm.mem_iff.1 hself, ha⟩⟩
  · refine (List.perm_ext_iff_of_nodup hset.diff.insert (List.nodup_singleton self)).2 fun a => ?_
    rw [List.mem_insert_iff, hleft, List.mem_singleton]
    exact ⟨fun ha => ha.elim id And.right, Or.inl⟩

/-- The replay of a log followed by the entries forcing a new cluster
from it, in whatever order each map is listed, is `self` alone, when the
snapshot is no newer than the first appended entry. -/
theorem getIDs_forced {mapOrder mapOrder' : List RaftID → List RaftID} (hord : MapOrder mapOrder)
    (hord' : MapOrder mapOrder') {ents : List Entry} {ids : List RaftID}
    (hids : getIDs mapOrder snap ents = some ids) (self term commit : Nat)
    (hsnap : ∀ s ∈ snap, s.index ≤ commit + 1) :
    getIDs mapOrder' snap (ents ++ createConfigChangeEnts ids self term commit) = some [self] := by
  obtain ⟨set, hset, rfl⟩ := Option.map_eq_some_iff.mp hids
  have hnodup : set.Nodup := foldlM_applyEntry_nodup hset (snapshotVoters_nodup snap)
  rw [getIDs_append, hset, Option.bind_some, createConfigChangeEnts,
    foldlM_applyEntry_createConfigChangeEntsFrom self term _ _ _ hsnap, Option.map_some]
  simp only [Bool.false_eq_true, false_or]
  rw [replay_eq_singleton hnodup (hord set) self]
  exact congrArg some (List.perm_singleton.mp (hord' [self]))

end Replay

-- ==================== loadAndStart

section Load

/-- The removal loops, on entries whose selected conf changes all carry
data: every selected `RemoveNode` removes its node, in order. -/
theorem removeConfChangeNodes_eq (msg : String) (sel : Entry → Bool) (ents : List Entry)
    (hdec : ∀ e ∈ ents, sel e = true → e.type = .confChange → e.data.isSome) (c : Cluster) :
    removeConfChangeNodes msg sel ents c =
      .ok ((removedIDs (ents.filter sel)).foldl Cluster.removeMember c) := by
  induction ents generalizing c with
  | nil => rfl
  | cons e ents ih =>
    have htail := fun e' he' => hdec e' (List.mem_cons_of_mem e he')
    unfold removeConfChangeNodes at ih ⊢
    rw [List.foldlM_cons]
    by_cases hs : sel e = true ∧ e.type = .confChange
    · obtain ⟨cc, hcc⟩ := Option.isSome_iff_exists.mp (hdec e List.mem_cons_self hs.1 hs.2)
      have hrem : removedID e = if cc.type = .removeNode then some cc.nodeID else none := by
        simp [removedID, hs.2, hcc]
      simp only [hs, and_self, if_true, hcc, List.filter_cons_of_pos hs.1]
      by_cases hr : cc.type = .removeNode
      · rw [if_pos hr] at hrem ⊢
        rw [removedIDs, List.filterMap_cons_some hrem, ← removedIDs, List.foldl_cons]
        exact ih htail _
      · rw [if_neg hr] at hrem ⊢
        rw [removedIDs, List.filterMap_cons_none hrem, ← removedIDs]
        exact ih htail _
    · rw [if_neg hs]
      -- an unselected entry, or one that is not a conf change, removes nothing
      have hnone : removedIDs ((e :: ents).filter sel) = removedIDs (ents.filter sel) := by
        by_cases hsel : sel e = true
        · have ht : e.type ≠ .confChange := fun ht => hs ⟨hsel, ht⟩
          rw [List.filter_cons_of_pos hsel, removedIDs, List.filterMap_cons_none (by simp [removedID, ht])]
          rfl
        · rw [List.filter_cons_of_neg hsel]
      rw [hnone]
      exact ih htail c

/-- The removed set after removing a list of IDs. -/
theorem foldl_removeMember_removed (ids : List RaftID) (c : Cluster) :
    (ids.foldl Cluster.removeMember c).removed = ids.reverse ++ c.removed := by
  induction ids generalizing c with
  | nil => rfl
  | cons id ids ih =>
    rw [List.foldl_cons, ih, Cluster.removeMember_removed, List.reverse_cons, List.append_assoc]
    rfl

theorem loadSnapshot_ok (forceNewCluster : Bool) (self : RaftID) {snapshot : Option Snapshot}
    (hsnap : ∀ s ∈ snapshot, ∃ sc, s.data = .ok sc) (c : Cluster) :
    ∃ r, loadSnapshot forceNewCluster self snapshot c = .ok r := by
  cases snapshot with
  | none => exact ⟨_, rfl⟩
  | some s =>
    obtain ⟨sc, hsc⟩ := hsnap s rfl
    exact ⟨_, by rw [loadSnapshot, hsc]⟩

theorem mem_committedEnts {st : HardState} {ents : List Entry} {e : Entry}
    (he : e ∈ committedEnts st ents) : e ∈ ents ∧ e.index ≤ st.commit :=
  ⟨(List.takeWhile_sublist _).subset he, by simpa using List.mem_takeWhile_imp he⟩

theorem forceCommit_commit (st : HardState) (toAppEnts : List Entry)
    (h : toAppEnts.map Entry.index = List.range' (st.commit + 1) toAppEnts.length) :
    (forceCommit st toAppEnts).commit = st.commit + toAppEnts.length := by
  have hlast := congrArg List.getLast? h
  rw [List.getLast?_map, List.getLast?_range'] at hlast
  unfold forceCommit
  cases hl : toAppEnts.getLast? with
  | none =>
    rw [List.getLast?_eq_none_iff.mp hl]
    rfl
  | some e =>
    have hne : toAppEnts.length ≠ 0 := by
      intro h0
      rw [List.length_eq_zero_iff.mp h0] at hl
      cases hl
    rw [hl, Option.map_some, if_neg hne, Option.some.injEq] at hlast
    show e.index = _
    omega

/-- `loadAndStart` forcing a new cluster, on a WAL whose metadata,
snapshot and committed conf changes decode: what it returns. -/
theorem loadAndStart_forced (mapOrder : List RaftID → List RaftID) {snapshot : Option Snapshot}
    {w : WALData} (c : Cluster) {member : RaftMember} (hmeta : w.metadata = some member)
    (hsnap : ∀ s ∈ snapshot, ∃ sc, s.data = .ok sc)
    (hdec : ∀ e ∈ w.entries, e.index ≤ w.hardState.commit → Decodes e) {ids : List RaftID}
    (hids : getIDs mapOrder snapshot (committedEnts w.hardState w.entries) = some ids) :
    ∃ c₁ bootstrapMembers, loadAndStart mapOrder true snapshot w c =
      .ok ⟨member.raftID,
        (removedIDs (createConfigChangeEnts ids member.raftID w.hardState.term w.hardState.commit)).foldl
          Cluster.removeMember c₁, bootstrapMembers,
        forceCommit w.hardState (createConfigChangeEnts ids member.raftID w.hardState.term w.hardState.commit),
        committedEnts w.hardState w.entries ++
          createConfigChangeEnts ids member.raftID w.hardState.term w.hardState.commit⟩ := by
  obtain ⟨⟨c₀, bootstrapMembers⟩, hload⟩ := loadSnapshot_ok true member.raftID hsnap c
  -- the committed `RemoveNode` entries carry their data
  have hcommitted : ∀ e ∈ w.entries, decide (e.index ≤ w.hardState.commit) = true →
      e.type = .confChange → e.data.isSome := by
    intro e he hidx ht
    obtain ⟨cc, hcc, -⟩ := hdec e he (of_decide_eq_true hidx) ht
    rw [hcc]
    rfl
  have hremoved := removeConfChangeNodes_eq "failed to unmarshal config change"
    (·.index ≤ w.hardState.commit) w.entries hcommitted c₀
  have hforced := removeConfChangeNodes_eq "error unmarshalling force-new-cluster config change"
    (fun _ => true) (createConfigChangeEnts ids member.raftID w.hardState.term w.hardState.commit)
    (fun e he _ _ => createConfigChangeEntsFrom_data _ _ _ _ _ e he)
  refine ⟨(removedIDs (w.entries.filter (·.index ≤ w.hardState.commit))).foldl Cluster.removeMember c₀,
    bootstrapMembers, ?_⟩
  rw [List.filter_true] at hforced
  simp only [loadAndStart, hmeta, hload, Except.bind, hremoved, if_true, forceAppendEnts, hids,
    hforced, Except.map]

end Load

-- ========= the forced membership

theorem force_new_cluster_membership {mapOrder mapOrder' : List RaftID → List RaftID}
    (hord : MapOrder mapOrder) (hord' : MapOrder mapOrder') (snapshot : Option Snapshot)
    (w : WALData) (c : Cluster) (member : RaftMember) (hmeta : w.metadata = some member)
    (hsnap : ∀ s ∈ snapshot, (∃ sc, s.data = .ok sc) ∧ s.index ≤ w.hardState.commit + 1)
    (hdec : ∀ e ∈ w.entries, e.index ≤ w.hardState.commit → Decodes e) :
    ∃ ids toAppEnts loaded,
      getIDs mapOrder snapshot (committedEnts w.hardState w.entries) = some ids ∧
      toAppEnts = createConfigChangeEnts ids member.raftID w.hardState.term w.hardState.commit ∧
      loadAndStart mapOrder true snapshot w c = .ok loaded ∧
      loaded.self = member.raftID ∧
      loaded.ents = committedEnts w.hardState w.entries ++ toAppEnts ∧
      toAppEnts.map Entry.index = List.range' (w.hardState.commit + 1) toAppEnts.length ∧
      loaded.hardState.commit = w.hardState.commit + toAppEnts.length ∧
      getIDs mapOrder' snapshot loaded.ents = some [member.raftID] ∧
      ∀ id ∈ removedIDs toAppEnts, id ∈ loaded.cluster.removed ∧ id ≠ member.raftID := by
  -- the committed entries replay without a panic
  obtain ⟨set, hset⟩ := @foldlM_applyEntry_isSome snapshot
    (committedEnts w.hardState w.entries)
    (fun e he => hdec e (mem_committedEnts he).1 (mem_committedEnts he).2) (snapshotVoters snapshot)
  have hids : getIDs mapOrder snapshot (committedEnts w.hardState w.entries) = some (mapOrder set) := by
    rw [getIDs, hset, Option.map_some]
  obtain ⟨c₁, bootstrapMembers, hload⟩ :=
    loadAndStart_forced mapOrder c hmeta (fun s hs => (hsnap s hs).1) hdec hids
  have hindices := createConfigChangeEnts_indices member.raftID w.hardState.term (mapOrder set)
    w.hardState.commit
  refine ⟨mapOrder set, _, _, hids, rfl, hload, rfl, rfl, hindices,
    forceCommit_commit _ _ hindices,
    getIDs_forced hord hord' hids _ _ _ (fun s hs => (hsnap s hs).2), fun id hid => ⟨?_, ?_⟩⟩
  · -- the new entries' removals are the last ones made
    show id ∈ (List.foldl Cluster.removeMember c₁ _).removed
    rw [foldl_removeMember_removed, List.mem_append, List.mem_reverse]
    exact Or.inl hid
  · rw [removedIDs_createConfigChangeEnts, List.mem_filter] at hid
    simpa using hid.2

/-- A snapshot of three voters at index 4, and a WAL whose committed
entry at index 5 adds a fourth. -/
def forcedSnapshot : Snapshot := ⟨[1, 2, 3], 4, .ok ⟨[⟨1, 0, 0⟩, ⟨2, 0, 0⟩, ⟨3, 0, 0⟩], []⟩⟩

def forcedWAL : WALData :=
  ⟨some ⟨1, 0, 0⟩, ⟨2, 5⟩, [⟨.confChange, 2, 5, some ⟨0, .addNode, 4, ⟨4, 0, 0⟩⟩⟩]⟩

theorem forced_cluster_of_one :
    ∃ ids toAppEnts loaded,
      getIDs id (some forcedSnapshot) (committedEnts forcedWAL.hardState forcedWAL.entries) = some ids ∧
      toAppEnts = createConfigChangeEnts ids 1 2 5 ∧
      loadAndStart id true (some forcedSnapshot) forcedWAL Cluster.empty = .ok loaded ∧
      loaded.self = 1 ∧
      loaded.ents = committedEnts forcedWAL.hardState forcedWAL.entries ++ toAppEnts ∧
      toAppEnts.map Entry.index = List.range' (5 + 1) toAppEnts.length ∧
      loaded.hardState.commit = 5 + toAppEnts.length ∧
      getIDs id (some forcedSnapshot) loaded.ents = some [1] ∧
      ∀ r ∈ removedIDs toAppEnts, r ∈ loaded.cluster.removed ∧ r ≠ 1 :=
  @force_new_cluster_membership id id (fun l => List.Perm.refl l) (fun l => List.Perm.refl l)
    (some forcedSnapshot) forcedWAL Cluster.empty ⟨1, 0, 0⟩ rfl
    (fun s hs => by
      cases hs
      exact ⟨⟨_, rfl⟩, by decide⟩)
    (fun e he _ _ => by
      rw [List.mem_singleton.mp he]
      exact ⟨_, rfl, by decide⟩)

/-- A snapshot of two voters at index 10, and a WAL whose hard state
commits index 5 only. -/
def staleSnapshot : Snapshot := ⟨[1, 2], 10, .ok ⟨[⟨1, 0, 0⟩, ⟨2, 0, 0⟩], []⟩⟩

def staleWAL : WALData := ⟨some ⟨1, 0, 0⟩, ⟨1, 5⟩, []⟩

theorem stale_commit_keeps_ghost :
    getIDs id (some staleSnapshot) [] = some [2, 1] ∧
      getIDs id (some staleSnapshot) ([] ++ createConfigChangeEnts [2, 1] 1 1 5) = some [2, 1] ∧
      ∃ loaded, loadAndStart id true (some staleSnapshot) staleWAL Cluster.empty = .ok loaded ∧
        getIDs id (some staleSnapshot) loaded.ents = some [2, 1] :=
  ⟨rfl, rfl, _, rfl, rfl⟩

end SwarmKit.Raft.ForceNewCluster

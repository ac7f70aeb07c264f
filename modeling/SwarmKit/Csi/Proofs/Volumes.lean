import SwarmKit.Csi.Volumes

/-
What the publish status of a volume goes through (`Volumes.lean`).

# One entry per node

Every writer keeps the publish status free of two entries for one node:
the scheduler appends only for a node without one, `freeVolumes` and the
dispatcher change states in place, and `handleVolume` writes back a
sublist of what it read. So on every run each volume, and the list the
CSI manager is about to write, has distinct nodes
(`publishStatus_nodes_nodup`).

# What `handleVolume` overwrites

It does not keep what others wrote meanwhile: its write replaces the
whole list with the one computed from its read, so a `PENDING_PUBLISH`
entry the scheduler added in between is lost, and a node `freeVolumes`
moved to `PENDING_NODE_UNPUBLISH` is set back to `PUBLISHED`
(`handle_volume_overwrites_publish_status`).

# Deleting a volume in use

`RemoveVolume` asks only for an empty publish status, not for a drained
volume, and neither the scheduler nor `handleVolume` looks at
`PendingDelete`: a task committed after the mark gets the volume, which
the CSI manager then deletes under it
(`volume_deleted_while_in_use`).
-/

namespace SwarmKit.Csi

open SwarmKit.Scheduler (TaskState)
open SwarmKit.Orchestrator (Table)

-- ============== one entry per node

/-- No two entries for one node. -/
def NodesNodup (ps : List PublishStatus) : Prop := (ps.map (·.nodeID)).Nodup

/-- Every volume of the table has distinct nodes. -/
def TableNodup (volumes : Table Volume) : Prop :=
  ∀ id v, volumes.lookup id = some v → NodesNodup v.publishStatus

theorem TableNodup.insert {volumes : Table Volume} (h : TableNodup volumes) {id : Nat}
    {v : Volume} (hv : NodesNodup v.publishStatus) : TableNodup (volumes.insert id v) := by
  intro id' v' hl
  rcases AList.lookup_insert_eq_some hl with ⟨-, rfl⟩ | ⟨-, hl⟩
  · exact hv
  · exact h id' v' hl

/-- A writer that keeps the nodes of the volume it read keeps every
volume's nodes distinct. -/
theorem TableNodup.insert_same_nodes {volumes : Table Volume} (h : TableNodup volumes)
    {id id' : Nat} {v v' : Volume} (hl : volumes.lookup id = some v)
    (hn : v'.publishStatus.map (·.nodeID) = v.publishStatus.map (·.nodeID)) :
    TableNodup (volumes.insert id' v') := by
  refine h.insert ?_
  unfold NodesNodup
  rw [hn]
  exact h id v hl

theorem TableNodup.erase {volumes : Table Volume} (h : TableNodup volumes) (id : Nat) :
    TableNodup (volumes.erase id) :=
  fun id' v' hl => h id' v' (AList.lookup_erase_eq_some hl).2

/-- `handleVolume`'s loop keeps a sublist of the nodes it read. -/
theorem processStatuses_nodes_sublist (ok : Nat → Bool) (ps : List PublishStatus) :
    ((processStatuses ok ps).map (·.nodeID)).Sublist (ps.map (·.nodeID)) := by
  induction ps with
  | nil => exact List.Sublist.slnil
  | cons s rest ih =>
      unfold processStatuses
      -- a published entry keeps its node; an unpublished one drops out
      cases s.state <;> simp only
      · split <;> exact ih.cons_cons _
      · exact ih.cons_cons _
      · exact ih.cons_cons _
      · split
        · exact ih.cons _
        · exact ih.cons_cons _

/-- `freeVolumes` changes states only. -/
theorem freeVolume_nodes (tasks : Table VTask) (v : Volume) :
    (freeVolume tasks v).publishStatus.map (·.nodeID) = v.publishStatus.map (·.nodeID) := by
  simp only [freeVolume, List.map_map]
  congr 1
  funext s
  simp only [Function.comp_apply]
  split <;> rfl

/-- The dispatcher changes states only. -/
theorem nodeUnpublished_nodes (node : Nat) (ps : List PublishStatus) :
    (nodeUnpublished node ps).map (·.nodeID) = ps.map (·.nodeID) := by
  induction ps with
  | nil => rfl
  | cons s rest ih =>
      unfold nodeUnpublished
      split <;> simp [ih]

/-- The scheduler's commit gathers volumes with distinct nodes: an entry
is appended only for a node that has none. -/
theorem gather_nodup {task : VTask} {volumes : Table Volume} (h : TableNodup volumes) :
    ∀ {ids : List Nat} {vs : List Volume}, commitTaskVolumes.gather task volumes ids = some vs →
      ∀ v ∈ vs, NodesNodup v.publishStatus := by
  intro ids
  induction ids with
  | nil =>
      intro vs hg v hv
      simp only [commitTaskVolumes.gather, Option.some.injEq] at hg
      subst hg
      cases hv
  | cons id ids ih =>
      intro vs hg v' hv'
      unfold commitTaskVolumes.gather at hg
      cases hl : volumes.lookup id with
      | none => simp [hl] at hg
      | some v =>
          have hnd := h id v hl
          simp only [hl] at hg
          split at hg
          · cases hg
          · obtain ⟨vs', hvs', rfl⟩ := Option.map_eq_some_iff.mp hg
            split at hv'
            · exact ih hvs' v' hv'
            · rename_i hnew
              rcases List.mem_cons.mp hv' with rfl | hv'
              · -- the appended node is new to the list
                have hfresh : ∀ a ∈ v.publishStatus, ¬a.nodeID = task.nodeID := by
                  simpa [hasNode] using hnew
                have hboth := And.intro hnd hfresh
                simpa [NodesNodup, List.nodup_append] using hboth
              · exact ih hvs' v' hv'

/-- Writing a list of volumes with distinct nodes keeps the table so. -/
theorem TableNodup.foldl_insert {vs : List Volume} (hvs : ∀ v ∈ vs, NodesNodup v.publishStatus) :
    ∀ {volumes : Table Volume}, TableNodup volumes →
      TableNodup (vs.foldl (fun acc v => acc.insert v.id v) volumes) := by
  induction vs with
  | nil => exact id
  | cons v vs ih =>
      intro volumes h
      exact ih (fun v' hv' => hvs v' (List.mem_cons_of_mem _ hv'))
        (h.insert (hvs v (List.mem_cons_self ..)))

/-- What a successful `RemoveVolume` does: delete the volume, or mark
it. -/
theorem removeVolume_ok {id : Nat} {force : Bool} {volumes vs : Table Volume}
    (h : removeVolume id force volumes = .ok vs) :
    ∃ v, volumes.lookup id = some v ∧
      (vs = volumes.erase id ∨ vs = volumes.insert id { v with pendingDelete := true }) := by
  unfold removeVolume at h
  cases hl : volumes.lookup id with
  | none => simp [hl] at h
  | some v =>
      simp only [hl] at h
      refine ⟨v, rfl, ?_⟩
      split_ifs at h
      · exact .inl (Except.ok.inj h).symm
      · exact .inr (Except.ok.inj h).symm

/-- What the CSI manager is about to write has distinct nodes. -/
def CsiNodup : CsiPc → Prop
  | .writing _ ps => NodesNodup ps
  | _ => True

/-- The invariant of the volumes' run. -/
structure Inv (w : World) : Prop where
  volumes : TableNodup w.volumes
  csi : CsiNodup w.csi

theorem csiNodup_handleVolumeRead {volumes : Table Volume} (h : TableNodup volumes) (id : Nat)
    (callOk : Bool) (ok : Nat → Bool) : CsiNodup (handleVolumeRead id callOk ok volumes) := by
  unfold handleVolumeRead
  cases hl : volumes.lookup id with
  | none => trivial
  | some v =>
      dsimp only
      split_ifs <;> try trivial
      exact (processStatuses_nodes_sublist ok v.publishStatus).nodup (h id v hl)

theorem tableNodup_handleVolumeWrite {volumes : Table Volume} (h : TableNodup volumes) {pc : CsiPc}
    (hpc : CsiNodup pc) : TableNodup (handleVolumeWrite pc volumes) := by
  cases pc with
  | idle => exact h
  | creating id =>
      unfold handleVolumeWrite
      dsimp only
      cases hl : volumes.lookup id with
      | none => exact h
      | some v => exact h.insert (h id v hl)
  | deleting id => exact h.erase id
  | writing id ps =>
      unfold handleVolumeWrite
      dsimp only
      cases volumes.lookup id with
      | none => exact h
      | some v => exact h.insert hpc

/-- Every step keeps one entry per node. -/
theorem inv_inductive (w₀ : World) (h₀ : Inv w₀) : Lts.Inductive step w₀ Inv where
  init := h₀
  step := by
    intro a w w' hi hstep
    cases a with
    | removeVolume id force =>
        simp only [step] at hstep
        split at hstep
        · rename_i vs hrm
          cases hstep
          obtain ⟨v, hl, rfl | rfl⟩ := removeVolume_ok hrm
          · exact ⟨hi.volumes.erase id, hi.csi⟩
          · exact ⟨hi.volumes.insert (hi.volumes id v hl), hi.csi⟩
        · cases hstep
    | schedule task =>
        obtain ⟨⟨vs, ts⟩, hc, rfl⟩ := Option.map_eq_some_iff.mp hstep
        obtain ⟨gs, hg, hgs⟩ := Option.map_eq_some_iff.mp hc
        simp only [Prod.mk.injEq] at hgs
        obtain ⟨rfl, rfl⟩ := hgs
        exact ⟨TableNodup.foldl_insert (gather_nodup hi.volumes hg) hi.volumes, hi.csi⟩
    | freeVolumes id =>
        obtain ⟨v, hl, rfl⟩ := Option.map_eq_some_iff.mp hstep
        exact ⟨hi.volumes.insert_same_nodes hl (freeVolume_nodes _ v), hi.csi⟩
    | nodeUnpublished id node =>
        obtain ⟨v, hl, rfl⟩ := Option.map_eq_some_iff.mp hstep
        exact ⟨hi.volumes.insert_same_nodes hl (nodeUnpublished_nodes node v.publishStatus), hi.csi⟩
    | stopTask id state =>
        simp only [step] at hstep
        split at hstep
        · obtain ⟨t, -, rfl⟩ := Option.map_eq_some_iff.mp hstep
          exact ⟨hi.volumes, hi.csi⟩
        · cases hstep
    | csiRead id callOk ok =>
        simp only [step] at hstep
        split at hstep
        · cases hstep
          exact ⟨hi.volumes, csiNodup_handleVolumeRead hi.volumes id callOk ok⟩
        · cases hstep
    | csiWrite =>
        simp only [step] at hstep
        split at hstep
        · cases hstep
        · cases hstep
          exact ⟨tableNodup_handleVolumeWrite hi.volumes hi.csi, trivial⟩

/-- From a store whose volumes have one entry per node and an idle CSI
manager, every run keeps one entry per node in every volume and in what
the CSI manager is about to write. -/
theorem publishStatus_nodes_nodup (volumes : Table Volume) (tasks : Table VTask)
    (h : TableNodup volumes) {w : World} (hw : Lts.Reachable step ⟨volumes, tasks, .idle⟩ w) :
    TableNodup w.volumes ∧ CsiNodup w.csi :=
  have hi := (inv_inductive ⟨volumes, tasks, .idle⟩ ⟨h, trivial⟩).reachable hw
  ⟨hi.volumes, hi.csi⟩

-- ======================== the runs

/-- One created, active volume (ID 1) with the given publish status, and
the given tasks. -/
def oneVolume (ps : List PublishStatus) (tasks : Table VTask) : World :=
  ⟨(∅ : Table Volume).insert 1 ⟨1, .active, true, false, ps⟩, tasks, .idle⟩

/-- A task on node 2 desired to run with volume 1. -/
def taskOnNode2 : VTask := ⟨5, 2, .running, [1]⟩

/-- `handleVolume` reads volume 1, every plugin call succeeds, the
scheduler commits a task on node 2 with the volume, and `handleVolume`
writes: node 2's new entry is gone. Likewise, when node 1's last task
stops and `freeVolumes` moves node 1 to `PENDING_NODE_UNPUBLISH` in
between, the write sets it back to `PUBLISHED`. -/
theorem handle_volume_overwrites_publish_status :
    ((Lts.run step (oneVolume [⟨1, .pendingPublish⟩] ∅)
      [.csiRead 1 true (fun _ => true), .schedule taskOnNode2, .csiWrite]).map fun w =>
        ((w.volumes.lookup 1).map (·.publishStatus), w.tasks.lookup 5)) =
      some (some [⟨1, .published⟩], some taskOnNode2) ∧
    ((Lts.run step
      (oneVolume [⟨1, .published⟩, ⟨2, .pendingPublish⟩] ((∅ : Table VTask).insert 4 ⟨4, 1, .running, [1]⟩))
      [.csiRead 1 true (fun _ => true), .stopTask 4 .shutdown, .freeVolumes 1]).map fun w =>
        (w.volumes.lookup 1).map (·.publishStatus)) =
      some (some [⟨1, .pendingNodeUnpublish⟩, ⟨2, .pendingPublish⟩]) ∧
    ((Lts.run step
      (oneVolume [⟨1, .published⟩, ⟨2, .pendingPublish⟩] ((∅ : Table VTask).insert 4 ⟨4, 1, .running, [1]⟩))
      [.csiRead 1 true (fun _ => true), .stopTask 4 .shutdown, .freeVolumes 1, .csiWrite]).map fun w =>
        (w.volumes.lookup 1).map (·.publishStatus)) =
      some (some [⟨1, .published⟩, ⟨2, .published⟩]) := by
  decide

/-- `RemoveVolume` marks unused volume 1 for deletion; the scheduler then
commits a task on node 2 with it, adding a `PENDING_PUBLISH` entry; the
CSI manager deletes the volume. The task, still desired to run, is left
attached to a volume that no longer exists. -/
theorem volume_deleted_while_in_use :
    ((Lts.run step (oneVolume [] ∅) [.removeVolume 1 false, .schedule taskOnNode2]).map fun w =>
      (w.volumes.lookup 1).map fun v => (v.pendingDelete, v.publishStatus)) =
      some (some (true, [⟨2, .pendingPublish⟩])) ∧
    ((Lts.run step (oneVolume [] ∅)
      [.removeVolume 1 false, .schedule taskOnNode2, .csiRead 1 true (fun _ => true),
        .csiWrite]).map fun w => (w.volumes.lookup 1, w.tasks.lookup 5)) =
      some (none, some taskOnNode2) := by
  decide

end SwarmKit.Csi

import SwarmKit.Orchestrator.Dirty

/-
What the dirty check lets through (`Dirty.lean`).

# A placement change on a matching node is clean

Two specs that differ in the placement alone pass
`IsTaskDirtyPlacementConstraintsOnly`, whichever placement field
differs: constraints, preferences, platforms or `MaxReplicas`. When the
task's node satisfies the service's constraints, `IsTaskDirty` then
returns clean before it compares the endpoints
(`isTaskDirty_placement_only`). Only with equal placements does the
check compare the specs and the endpoints
(`isTaskDirty_of_placement_eq`).

# The updater leaves such tasks running

`Updater.Run` updates the dirty slots only; when every slot is one task
whose spec differs from the service's in the placement alone, on a node
that satisfies the constraints, it has no slot to update and completes,
leaving each task with its old placement and endpoint
(`placement_change_not_rolled_out`).
-/

namespace SwarmKit.Orchestrator.Dirty

variable {α ν : Type} [DecidableEq α]

-- ====================== the checks

theorem isTaskDirtyPlacementConstraintsOnly_eq_true {serviceTaskSpec : TaskSpec α} {t : Task α} :
    isTaskDirtyPlacementConstraintsOnly serviceTaskSpec t = true ↔
      serviceTaskSpec.placement ≠ t.spec.placement ∧
        { serviceTaskSpec with placement := t.spec.placement } = t.spec := by
  unfold isTaskDirtyPlacementConstraintsOnly
  split
  · next heq => simp [heq]
  · next hne => simp [hne]

/-- Equal placements: the check is not the placement-only one. -/
theorem isTaskDirtyPlacementConstraintsOnly_of_eq {serviceTaskSpec : TaskSpec α} {t : Task α}
    (h : serviceTaskSpec.placement = t.spec.placement) :
    isTaskDirtyPlacementConstraintsOnly serviceTaskSpec t = false := by
  unfold isTaskDirtyPlacementConstraintsOnly
  rw [if_pos h]

/-- A task whose spec differs from the service's in the placement alone,
on a node that satisfies the service's constraints, is clean, whatever
its endpoint. -/
theorem isTaskDirty_placement_only (satisfies : List String → ν → Bool) {s : Service α} {t : Task α}
    {n : ν} {p : Placement} (hp : s.spec.task.placement = some p) (hne : t.spec.placement ≠ some p)
    (hrest : { s.spec.task with placement := t.spec.placement } = t.spec) (hn : satisfies p.constraints n = true) :
    isTaskDirty satisfies s t (some n) = some false := by
  unfold isTaskDirty
  split
  · rfl
  · -- the placement-only check passes, and the node matches
    have honly : isTaskDirtyPlacementConstraintsOnly s.spec.task t = true :=
      isTaskDirtyPlacementConstraintsOnly_eq_true.mpr ⟨hp ▸ fun h => hne h.symm, hrest⟩
    have hmatch : nodeMatches satisfies s (some n) = some true := by
      rw [nodeMatches, hp, Option.map_some, hn]
    simp only [honly, if_true, hmatch, Option.map_some]

/-- With equal placements and different spec versions, the task is dirty
exactly when its spec (pull options ignored for a task that has its
image) or its endpoint's spec is not the service's. -/
theorem isTaskDirty_of_placement_eq (satisfies : List String → ν → Bool) {s : Service α} {t : Task α}
    (n : Option ν) (hv : ¬(t.specVersion.isSome ∧ s.specVersion.isSome ∧ s.specVersion = t.specVersion))
    (hp : s.spec.task.placement = t.spec.placement) :
    isTaskDirty satisfies s t n =
      some (!decide ((if ignorePullOpts t then withPullOptions s.spec.task t else s.spec.task) = t.spec) ||
        (t.endpoint.isSome && !decide (some s.spec.endpoint = t.endpoint))) := by
  unfold isTaskDirty
  rw [if_neg hv]
  dsimp only
  rw [isTaskDirtyPlacementConstraintsOnly_of_eq hp]
  rfl

-- ========================= updater

/-- The slots that `isSlotDirty` reports clean are no part of the run. -/
theorem dirtySlots_eq_nil {satisfies : List String → ν → Bool} {nodes : Nat → Option ν} {s : Service α} :
    ∀ {slots : List (List (Task α))}, (∀ slot ∈ slots, isSlotDirty satisfies nodes s slot = some false) →
      dirtySlots satisfies nodes s slots = some []
  | [], _ => rfl
  | slot :: slots, h => by
      have hrest := dirtySlots_eq_nil fun slot' hs => h slot' (List.mem_cons_of_mem slot hs)
      rw [dirtySlots, h slot List.mem_cons_self, hrest]
      rfl

/-- An update of the placement alone (its constraints, preferences,
platforms or `MaxReplicas`), whatever it does to the endpoint spec, is
not rolled out: when each slot is one task whose spec differs from the
new one in the placement alone, on a node that satisfies the new
constraints, `Updater.Run` finds no dirty slot. -/
theorem placement_change_not_rolled_out (satisfies : List String → ν → Bool) (nodes : Nat → Option ν)
    {s : Service α} {p : Placement} (hp : s.spec.task.placement = some p) (slots : List (List (Task α)))
    (hslots : ∀ slot ∈ slots, ∃ t n, slot = [t] ∧ nodes t.nodeID = some n ∧ t.spec.placement ≠ some p ∧
      { s.spec.task with placement := t.spec.placement } = t.spec ∧ satisfies p.constraints n = true) :
    dirtySlots satisfies nodes s slots = some [] := by
  apply dirtySlots_eq_nil
  intro slot hslot
  obtain ⟨t, n, rfl, hn, hne, hrest, hsat⟩ := hslots slot hslot
  rw [isSlotDirty, hn]
  exact isTaskDirty_placement_only satisfies hp hne hrest hsat

/-- A spec with placement `MaxReplicas` 2 and a new endpoint spec. -/
def scaledSpec : ServiceSpec Unit :=
  ⟨⟨none, some ⟨[], [], 2, []⟩, ()⟩, some ⟨.vip, [⟨"web", .tcp, 80, 8080, .ingress⟩]⟩⟩

/-- A running task of the previous spec: `MaxReplicas` 1, no ports. -/
def replicaTask : Task Unit :=
  ⟨1, 1, ⟨none, some ⟨[], [], 1, []⟩, ()⟩, some 1, some (some ⟨.vip, []⟩), .running, .running⟩

theorem placement_change_not_rolled_out_maxReplicas :
    replicaTask.spec.placement ≠ scaledSpec.task.placement ∧ some scaledSpec.endpoint ≠ replicaTask.endpoint ∧
      dirtySlots (fun _ _ => true) (fun _ => some ()) ⟨scaledSpec, some 2⟩ [[replicaTask]] = some [] := by
  refine ⟨by decide, by decide, ?_⟩
  exact placement_change_not_rolled_out (fun _ _ => true) (fun _ => some ()) (s := ⟨scaledSpec, some 2⟩) rfl
    [[replicaTask]] fun slot hslot => ⟨replicaTask, (), List.mem_singleton.mp hslot, rfl, by decide, rfl, rfl⟩

end SwarmKit.Orchestrator.Dirty

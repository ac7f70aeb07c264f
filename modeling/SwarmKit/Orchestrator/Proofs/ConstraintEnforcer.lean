import SwarmKit.Orchestrator.ConstraintEnforcer
import Mathlib.Algebra.Order.BigOperators.Group.List

/-
What the constraint enforcer does to a node's tasks
(`ConstraintEnforcer.lean`).

# The results

- `rejectNoncompliantTasks_lookup`: the check read by ID. A task filed
  under an ID the walk marked is read again and rejected unless desired
  past COMPLETED; no other task changes.
- `rejectNoncompliantTasks_of_fits`: when every task desired in
  [ASSIGNED, COMPLETED] meets its placement and holds no generic
  resource, and their reservations together fit the node's described
  resources, nothing changes.
- `rejectNoncompliantTasks_rejects`: with no generic resource assigned on
  the node, every such task whose placement rules the node out is
  rejected.

`enforcer_undoes_placements` shows why each result needs its
hypotheses. The walk selects by desired state, so a completed job task
is rejected and its reservation is counted against a running task's. A
task holding generic resources is rejected when `HasResource` holds of
what is left, which for a discrete resource means it asks for no less
than is left, and the walk then stops.

# The method

One inversion lemma says what a step of the walk can do
(`checkTasks_cons`); the walk's lemmas follow by induction on the
node's tasks. The batch has a closed form by ID
(`foldl_rejectTask_lookup`), since a second rejection of one task
changes nothing.
-/

namespace SwarmKit.Orchestrator.ConstraintEnforcer

open SwarmKit.Api (GenericResource)
open SwarmKit.Scheduler (TaskState)
open SwarmKit.Scheduler.Fit (Resources NodeAvailability)

-- ======================= the batch

/-- What the batch leaves of a task it reads again. -/
def afterReject (now : Int) (x : Task) : Task :=
  if TaskState.complete.rank < x.desiredState.rank then x else rejected now x

theorem afterReject_afterReject (now : Int) (x : Task) :
    afterReject now (afterReject now x) = afterReject now x := by
  unfold afterReject
  by_cases h : TaskState.complete.rank < x.desiredState.rank
  · simp [h]
  · simp [h, rejected]

theorem rejectTask_lookup (now : Int) (st : Store) (t : Task) (id : Nat) :
    (rejectTask now st t).tasks.lookup id =
      if id = t.id then (st.tasks.lookup id).map (afterReject now) else st.tasks.lookup id := by
  unfold rejectTask
  split
  · next h =>
    split
    · next hid => rw [hid, h]; rfl
    · rfl
  · next x h =>
    split
    · next hpast =>
      split
      · next hid => subst hid; simp [h, afterReject, hpast]
      · rfl
    · next hrun =>
      split
      · next hid => subst hid; simp [h, afterReject, hrun, AList.lookup_insert]
      · next hid => exact AList.lookup_insert_ne hid

/-- The batch over the marked tasks: every task filed under a marked ID
is read again and rejected unless desired past COMPLETED; nothing else
changes. -/
theorem foldl_rejectTask_lookup (now : Int) (id : Nat) :
    ∀ (L : List Task) (st : Store), (L.foldl (rejectTask now) st).tasks.lookup id =
      if id ∈ L.map (·.id) then (st.tasks.lookup id).map (afterReject now) else st.tasks.lookup id
  | [], st => by simp
  | t :: L, st => by
    rw [List.foldl_cons, foldl_rejectTask_lookup now id L, rejectTask_lookup, List.map_cons]
    -- a second rejection of one task changes nothing
    by_cases h1 : id = t.id <;> by_cases h2 : id ∈ L.map (·.id)
    · rw [if_pos h2, if_pos h1, if_pos (List.mem_cons_of_mem _ h2), Option.map_map,
        Function.comp_def]
      simp only [afterReject_afterReject]
    · rw [if_neg h2, if_pos h1, if_pos (List.mem_cons.mpr (.inl h1))]
    · rw [if_pos h2, if_neg h1, if_pos (List.mem_cons_of_mem _ h2)]
    · rw [if_neg h2, if_neg h1, if_neg fun h => (List.mem_cons.mp h).elim h1 h2]

-- ======================== the walk

/-- A task the walk looks at: desired state in [ASSIGNED, COMPLETED]. -/
def Selected (t : Task) : Prop :=
  TaskState.assigned.rank ≤ t.desiredState.rank ∧ t.desiredState.rank ≤ TaskState.complete.rank

instance : DecidablePred Selected := fun _ => inferInstanceAs (Decidable (_ ∧ _))

/-- One reservation summed over the tasks the walk looks at. -/
def reserved (f : Reservations → Int) (ts : List Task) : Int :=
  ((ts.filter fun t => decide (Selected t)).map fun t => (t.reservations.map f).getD 0).sum

theorem reserved_nonneg {f : Reservations → Int} {ts : List Task}
    (h : ∀ t ∈ ts, ∀ r, t.reservations = some r → 0 ≤ f r) : 0 ≤ reserved f ts := by
  apply List.sum_nonneg
  intro v hv
  obtain ⟨t, ht, rfl⟩ := List.mem_map.mp hv
  cases hr : t.reservations with
  | none => simp
  | some r => simpa using h t (List.mem_filter.mp ht).1 r hr

section Walk
variable (satisfies : List String → Node → Bool) (services : Nat → Option Service) (node : Node)

/-- What one step of the walk can do: go on, with the task marked or
not and with what is left of the resources, or stop after marking a
task that holds generic resources. -/
theorem checkTasks_cons (available : Resources) (x : Task) (ts acc : List Task) :
    (∃ available' acc', (acc' = acc ∨ acc' = acc ++ [x]) ∧
      checkTasks satisfies services node available (x :: ts) acc =
        checkTasks satisfies services node available' ts acc') ∨
    (x.assignedGenericResources ≠ [] ∧
      checkTasks satisfies services node available (x :: ts) acc = acc ++ [x]) := by
  rw [checkTasks.eq_2]
  split
  · exact .inl ⟨_, _, .inl rfl, rfl⟩
  · split
    · exact .inl ⟨_, _, .inr rfl, rfl⟩
    · split
      · exact .inl ⟨_, _, .inl rfl, rfl⟩
      · split
        · exact .inl ⟨_, _, .inr rfl, rfl⟩
        · split
          · exact .inl ⟨_, _, .inr rfl, rfl⟩
          · split
            · next hany =>
              refine .inr ⟨fun hnil => ?_, rfl⟩
              rw [hnil] at hany
              simp at hany
            · exact .inl ⟨_, _, .inl rfl, rfl⟩

/-- A marked task stays marked. -/
theorem checkTasks_acc :
    ∀ (ts : List Task) (available : Resources) (acc : List Task), ∀ y ∈ acc,
      y ∈ checkTasks satisfies services node available ts acc
  | [], _, _, _, hy => hy
  | x :: ts, available, acc, y, hy => by
    rcases checkTasks_cons satisfies services node available x ts acc with
      ⟨available', acc', hacc, heq⟩ | ⟨-, heq⟩
    · rw [heq]
      refine checkTasks_acc ts available' acc' y ?_
      rcases hacc with rfl | rfl
      · exact hy
      · exact List.mem_append_left _ hy
    · rw [heq]
      exact List.mem_append_left _ hy

/-- With no generic resource assigned on the node, the walk never stops
early, and every task it looks at whose placement rules the node out is
marked. -/
theorem mem_checkTasks :
    ∀ (ts : List Task) (available : Resources) (acc : List Task),
      (∀ x ∈ ts, x.assignedGenericResources = []) → ∀ t ∈ ts, Selected t →
      placementRejects satisfies (placementOf services t) node = true →
      t ∈ checkTasks satisfies services node available ts acc
  | [], _, _, _, _, ht, _, _ => (by cases ht)
  | x :: ts, available, acc, hgen, t, ht, hsel, hplace => by
    rcases List.mem_cons.mp ht with rfl | ht
    · -- the task is the one the walk is at: it is marked here
      rw [checkTasks.eq_2]
      rw [if_neg (not_or.mpr ⟨Nat.not_lt.mpr hsel.1, Nat.not_lt.mpr hsel.2⟩), if_pos hplace]
      exact checkTasks_acc satisfies services node ts available _ t (List.mem_append_right _ List.mem_cons_self)
    · rcases checkTasks_cons satisfies services node available x ts acc with
        ⟨available', acc', -, heq⟩ | ⟨hne, -⟩
      · rw [heq]
        exact mem_checkTasks ts available' acc' (fun y hy => hgen y (List.mem_cons_of_mem _ hy)) t ht hsel hplace
      · exact absurd (hgen x List.mem_cons_self) hne

/-- When every task the walk looks at meets its placement, holds no
generic resource, and their reservations together fit in what is left,
the walk marks nothing. -/
theorem checkTasks_fits :
    ∀ (ts : List Task) (available : Resources) (acc : List Task),
      (∀ t ∈ ts, Selected t → placementRejects satisfies (placementOf services t) node = false ∧
        t.assignedGenericResources = []) →
      (∀ t ∈ ts, ∀ r ∈ t.reservations, 0 ≤ r.memoryBytes ∧ 0 ≤ r.nanoCPUs) →
      reserved (·.memoryBytes) ts ≤ available.memoryBytes →
      reserved (·.nanoCPUs) ts ≤ available.nanoCPUs →
      checkTasks satisfies services node available ts acc = acc
  | [], _, _, _, _, _, _ => rfl
  | t :: ts, available, acc, hok, hpos, hmem, hcpu => by
    have hok' := fun x hx => hok x (List.mem_cons_of_mem _ hx)
    have hpos' := fun x hx => hpos x (List.mem_cons_of_mem _ hx)
    have hrest : 0 ≤ reserved (·.memoryBytes) ts ∧ 0 ≤ reserved (·.nanoCPUs) ts :=
      ⟨reserved_nonneg fun x hx r hr => (hpos' x hx r (Option.mem_def.mpr hr)).1,
        reserved_nonneg fun x hx r hr => (hpos' x hx r (Option.mem_def.mpr hr)).2⟩
    rw [checkTasks.eq_2]
    by_cases hsel : Selected t
    · have hsum : ∀ f : Reservations → Int,
          reserved f (t :: ts) = (t.reservations.map f).getD 0 + reserved f ts := by
        intro f
        simp [reserved, hsel]
      rw [hsum] at hmem hcpu
      obtain ⟨hplace, hgen⟩ := hok t List.mem_cons_self hsel
      rw [if_neg (not_or.mpr ⟨Nat.not_lt.mpr hsel.1, Nat.not_lt.mpr hsel.2⟩), hplace]
      cases hr : t.reservations with
      | none =>
        rw [hr] at hmem hcpu
        exact checkTasks_fits ts available acc hok' hpos' (by simpa using hmem) (by simpa using hcpu)
      | some r =>
        rw [hr] at hmem hcpu
        simp only [Option.map_some, Option.getD_some] at hmem hcpu
        obtain ⟨hm0, hc0⟩ := hpos t List.mem_cons_self r (Option.mem_def.mpr hr)
        -- the task fits, holds no generic resource, and leaves enough for the rest
        simp only [Bool.false_eq_true, if_false, hgen, List.any_nil]
        rw [if_neg (by omega), if_neg (by omega)]
        exact checkTasks_fits ts _ acc hok' hpos' (by dsimp only; omega) (by dsimp only; omega)
    · have hsum : ∀ f : Reservations → Int, reserved f (t :: ts) = reserved f ts := by
        intro f
        simp [reserved, hsel]
      rw [hsum] at hmem hcpu
      have hout : t.desiredState.rank < TaskState.assigned.rank ∨
          TaskState.complete.rank < t.desiredState.rank := by
        unfold Selected at hsel
        omega
      rw [if_pos hout]
      exact checkTasks_fits ts available acc hok' hpos' hmem hcpu

end Walk

-- ============ the node of the runs

/-- A node labelled `zone==east` and nothing else. -/
def zoneEast : List String → Node → Bool := fun cs _ => cs.all (· = "zone==east")

/-- An active node with 100 bytes of memory and one GPU. -/
def gpuNode : Node := ⟨1, .active, some ⟨1000, 100, [.discrete 5 1]⟩⟩

def runningTask : Task := ⟨0, 0, 1, .running, .running, none, none, [], "", "", none⟩

def busyTask : Task := { runningTask with id := 21, reservations := some ⟨0, 60⟩ }

def westTask : Task := { runningTask with id := 31, placement := some ["zone==west"] }

/-- A running task alone on the node, within its memory. -/
def storeFit : Store := ⟨(∅ : AList fun _ : Nat => Task).insert 21 busyTask, ∅, by decide⟩

/-- The running task placed before the node lost its label, alone. -/
def storeWest : Store := ⟨(∅ : AList fun _ : Nat => Task).insert 31 westTask, ∅, by decide⟩

-- ======================= the check

/-- What the enforcer starts from: the node's described resources, or
none. -/
def described (node : Node) : Resources := node.resources.getD ⟨0, 0, []⟩

theorem mem_findTasksByNode {st : Store} {n : Nat} {t : Task} (h : t ∈ st.findTasksByNode n) :
    st.tasks.lookup t.id = some t ∧ t.nodeID = n := by
  obtain ⟨hmem, hnode⟩ := List.mem_filter.mp h
  obtain ⟨e, he, rfl⟩ := List.mem_map.mp hmem
  refine ⟨?_, of_decide_eq_true hnode⟩
  rw [st.keyed e he]
  exact AList.mem_lookup_iff.mpr he

section Check
variable (satisfies : List String → Node → Bool) (now : Int) (node : Node) (st : Store)

/-- The check read by ID: on an active node, a task filed under an ID
the walk marked is read again and rejected unless desired past
COMPLETED; every other task is left as it was. -/
theorem rejectNoncompliantTasks_lookup (id : Nat) :
    (rejectNoncompliantTasks satisfies now node st).tasks.lookup id =
      if node.availability = .active ∧ id ∈ (checkTasks satisfies (st.services.lookup ·) node
          (described node) (st.findTasksByNode node.id) []).map (·.id) then
        (st.tasks.lookup id).map (afterReject now)
      else st.tasks.lookup id := by
  unfold rejectNoncompliantTasks
  by_cases hact : node.availability = .active
  · rw [if_neg (not_not.mpr hact), foldl_rejectTask_lookup]
    simp only [hact, true_and]
    rfl
  · rw [if_pos hact, if_neg fun h => hact h.1]

/-- When every task the walk looks at meets its placement, holds no
generic resource, and their reservations together fit in the node's
described resources, the check changes nothing. -/
theorem rejectNoncompliantTasks_of_fits
    (hok : ∀ t ∈ st.findTasksByNode node.id, Selected t →
      placementRejects satisfies (placementOf (st.services.lookup ·) t) node = false ∧
        t.assignedGenericResources = [])
    (hpos : ∀ t ∈ st.findTasksByNode node.id, ∀ r, t.reservations = some r →
      0 ≤ r.memoryBytes ∧ 0 ≤ r.nanoCPUs)
    (hmem : reserved (·.memoryBytes) (st.findTasksByNode node.id) ≤ (described node).memoryBytes)
    (hcpu : reserved (·.nanoCPUs) (st.findTasksByNode node.id) ≤ (described node).nanoCPUs) :
    rejectNoncompliantTasks satisfies now node st = st := by
  unfold rejectNoncompliantTasks
  split
  · rfl
  · show List.foldl (rejectTask now) st
      (checkTasks satisfies (st.services.lookup ·) node (described node) _ []) = st
    rw [checkTasks_fits satisfies _ node _ _ [] hok hpos hmem hcpu]
    rfl

end Check

theorem busy_task_kept :
    (∀ t ∈ storeFit.findTasksByNode gpuNode.id, Selected t →
      placementRejects zoneEast (placementOf (storeFit.services.lookup ·) t) gpuNode = false ∧
        t.assignedGenericResources = []) ∧
      (∀ t ∈ storeFit.findTasksByNode gpuNode.id, ∀ r ∈ t.reservations,
        0 ≤ r.memoryBytes ∧ 0 ≤ r.nanoCPUs) ∧
      reserved (·.memoryBytes) (storeFit.findTasksByNode gpuNode.id) ≤ (described gpuNode).memoryBytes ∧
      reserved (·.nanoCPUs) (storeFit.findTasksByNode gpuNode.id) ≤ (described gpuNode).nanoCPUs ∧
      rejectNoncompliantTasks zoneEast 0 gpuNode storeFit = storeFit :=
  ⟨by decide, by decide, by decide, by decide,
    rejectNoncompliantTasks_of_fits zoneEast 0 gpuNode storeFit (by decide) (by decide) (by decide)
      (by decide)⟩

/-- On an active node with no generic resource assigned, a task desired
in [ASSIGNED, COMPLETED] whose placement rules the node out is rejected. -/
theorem rejectNoncompliantTasks_rejects (satisfies : List String → Node → Bool) (now : Int)
    (node : Node) (st : Store) (hact : node.availability = .active)
    (hgen : ∀ x ∈ st.findTasksByNode node.id, x.assignedGenericResources = [])
    {t : Task} (ht : t ∈ st.findTasksByNode node.id) (hsel : Selected t)
    (hplace : placementRejects satisfies (placementOf (st.services.lookup ·) t) node = true) :
    (rejectNoncompliantTasks satisfies now node st).tasks.lookup t.id = some (rejected now t) := by
  have hmarked := mem_checkTasks satisfies (st.services.lookup ·) node _ (described node) [] hgen t ht
    hsel hplace
  rw [rejectNoncompliantTasks_lookup, if_pos ⟨hact, List.mem_map_of_mem hmarked⟩,
    (mem_findTasksByNode ht).1]
  simp [afterReject, Nat.not_lt.mpr hsel.2]

theorem west_task_rejected :
    gpuNode.availability = .active ∧
      (∀ x ∈ storeWest.findTasksByNode gpuNode.id, x.assignedGenericResources = []) ∧
      westTask ∈ storeWest.findTasksByNode gpuNode.id ∧ Selected westTask ∧
      placementRejects zoneEast (placementOf (storeWest.services.lookup ·) westTask) gpuNode = true ∧
      (rejectNoncompliantTasks zoneEast 0 gpuNode storeWest).tasks.lookup westTask.id =
        some (rejected 0 westTask) :=
  ⟨rfl, by decide, by decide, by decide, by decide,
    rejectNoncompliantTasks_rejects zoneEast 0 gpuNode storeWest rfl (by decide) (by decide)
      (by decide) (by decide)⟩

-- ================ the failing runs

/-- One reservation summed over the tasks the scheduler still counts on
the node: observed state in [ASSIGNED, RUNNING]. -/
def consumed (f : Reservations → Int) (ts : List Task) : Int :=
  ((ts.filter fun t => decide (TaskState.assigned.rank ≤ t.state.rank ∧
    t.state.rank ≤ TaskState.running.rank)).map fun t => (t.reservations.map f).getD 0).sum

/-- A job task that completed, placed before the node lost its label. -/
def finishedJob : Task :=
  { runningTask with id := 10, desiredState := .complete, state := .complete, placement := some ["zone==west"] }

def storeA : Store := ⟨(∅ : AList fun _ : Nat => Task).insert 10 finishedJob, ∅, by decide⟩

/-- A completed job task and a running task, each reserving 60 bytes. -/
def doneJob : Task :=
  { runningTask with id := 20, desiredState := .complete, state := .complete, reservations := some ⟨0, 60⟩ }

def storeB : Store :=
  ⟨((∅ : AList fun _ : Nat => Task).insert 21 busyTask).insert 20 doneJob, ∅, by decide⟩

/-- A running task holding the node's GPU, and a running task placed
before the node lost its label. -/
def gpuTask : Task :=
  { runningTask with id := 30, reservations := some ⟨0, 0⟩, assignedGenericResources := [.discrete 5 1] }

def storeC : Store :=
  ⟨((∅ : AList fun _ : Nat => Task).insert 31 westTask).insert 30 gpuTask, ∅, by decide⟩

/-- The enforcer undoes what the scheduler placed, and misses what it
should reject. A completed job task is overwritten with REJECTED. Of a
completed and a running task, 60 bytes each on 100, the running one is
rejected, although only it still holds memory. A task holding the
node's only GPU is rejected, and the walk then stops before the task
whose placement the node no longer meets. -/
theorem enforcer_undoes_placements :
    ((rejectNoncompliantTasks zoneEast 0 gpuNode storeA).tasks.lookup 10).map (·.state) =
        some .rejected ∧
      consumed (·.memoryBytes) (storeB.findTasksByNode gpuNode.id) = 60 ∧
      ((rejectNoncompliantTasks zoneEast 0 gpuNode storeB).tasks.lookup 21).map (·.state) =
        some .rejected ∧
      ((rejectNoncompliantTasks zoneEast 0 gpuNode storeC).tasks.lookup 30).map (·.state) =
        some .rejected ∧
      ((rejectNoncompliantTasks zoneEast 0 gpuNode storeC).tasks.lookup 31).map (·.state) =
        some .running := by
  decide



end SwarmKit.Orchestrator.ConstraintEnforcer

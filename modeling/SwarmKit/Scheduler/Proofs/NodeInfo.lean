import SwarmKit.Scheduler.NodeInfo
import SwarmKit.Lib.Lts

/-
The counters of a `NodeInfo` against the tasks it tracks
(`NodeInfo.lean`).

# The invariant

`addTask` and `removeTask` keep `ActiveTasksCount`,
`ActiveTasksCountByService` and the available CPU and memory by hand,
each call moving them by the change it makes to `Tasks`. Read as totals
over the tracked tasks (`AList.total`), every branch moves the counter
and the total by the same amount, provided a task ID keeps its service
and its reservations from call to call: `removeTask` decrements by the
tracked task's desired state but under the argument's service, and
refunds the argument's reservations. `Inv` states the equalities
together with that per-ID agreement; `Inv.addTask` and `Inv.removeTask`
are the step lemmas, and `nodeInfo_counters_track_tasks` the run.

# Generic resources

The counters balance; the generic units do not. `Claim` selects every
reservation from the list as it was before the claim, so two
reservations of one kind can select the same named unit, or together
more discrete units than the node has (`generic_claim_reuses_units`).
-/

namespace SwarmKit.Scheduler.Fit

open SwarmKit.Api

/-- What a task ID keeps from call to call: its service, its
reservations and its ports. -/
structure Fixed where
  serviceID : Nat
  reservations : Resources
  ports : List PortConfig
  deriving DecidableEq

/-- The fixed part of a task. -/
def Task.fixed (t : Task) : Fixed := ⟨t.serviceID, t.reservations, t.ports⟩

/-- One call on a `NodeInfo`. -/
inductive TaskCall where
  | add (t : Task)
  | remove (t : Task)

/-- The task a call is made with. -/
def TaskCall.task : TaskCall → Task
  | .add t => t
  | .remove t => t

namespace NodeInfo

/-- A call, made only with a task that agrees with `spec` on its ID. -/
def call (spec : Nat → Fixed) (c : TaskCall) (ni : NodeInfo) : Option NodeInfo :=
  if c.task.fixed = spec c.task.id then
    match c with
    | .add t => some (ni.addTask t).1
    | .remove t => some (ni.removeTask t).1
  else none

-- ========================== totals

/-- One for a tracked task that counts as active. -/
def activeOne (_ : Nat) (t : Task) : Int := if t.active then 1 else 0

/-- One for a tracked active task of service `s`. -/
def activeOf (s : Nat) (_ : Nat) (t : Task) : Int := if t.active ∧ t.serviceID = s then 1 else 0

/-- What `NodeInfo` says of its tracked tasks. -/
structure Inv (spec : Nat → Fixed) (init : Resources) (ni : NodeInfo) : Prop where
  /-- Every tracked task agrees with `spec` on its ID. -/
  fixed : ∀ id t, ni.tasks.lookup id = some t → t.fixed = spec id
  /-- `ActiveTasksCount` counts the active tracked tasks. -/
  count : ni.activeTasksCount = ni.tasks.total activeOne
  /-- `ActiveTasksCountByService[s]` counts those of service `s`. -/
  byService : ∀ s, ni.activeTasksCountByService s = ni.tasks.total (activeOf s)
  /-- The CPU left is the initial amount less the tracked reservations. -/
  nanoCPUs : ni.availableResources.nanoCPUs =
    init.nanoCPUs - ni.tasks.total fun _ t => t.reservations.nanoCPUs
  /-- The same for memory. -/
  memoryBytes : ni.availableResources.memoryBytes =
    init.memoryBytes - ni.tasks.total fun _ t => t.reservations.memoryBytes

@[simp] theorem bump_apply (m : Nat → Int) (k : Nat) (d : Int) (k' : Nat) :
    bump m k d k' = if k' = k then m k' + d else m k' := rfl

/-- Within its own service a task counts as it does overall. -/
theorem activeOf_of_serviceID {s k : Nat} {t : Task} (h : t.serviceID = s) :
    activeOf s k t = activeOne k t := by
  simp [activeOf, activeOne, h]

/-- Outside its own service a task counts nothing. -/
theorem activeOf_of_ne {s k : Nat} {t : Task} (h : t.serviceID ≠ s) : activeOf s k t = 0 := by
  simp [activeOf, h]

theorem Inv.empty (spec : Nat → Fixed) (n : Node) (init : Resources) :
    Inv spec init (NodeInfo.empty n init) where
  fixed := by simp [NodeInfo.empty]
  count := rfl
  byService := fun _ => rfl
  nanoCPUs := by simp [NodeInfo.empty]
  memoryBytes := by simp [NodeInfo.empty]

/-- The per-ID agreement survives storing a task that agrees. -/
theorem fixed_insert {spec : Nat → Fixed} {tasks : AList fun _ : Nat => Task}
    (h : ∀ id t, tasks.lookup id = some t → t.fixed = spec id) {t : Task}
    (ht : t.fixed = spec t.id) :
    ∀ id t', (tasks.insert t.id t).lookup id = some t' → t'.fixed = spec id := by
  intro id t' hl
  rcases AList.lookup_insert_eq_some hl with ⟨rfl, rfl⟩ | ⟨-, hl⟩
  · exact ht
  · exact h id t' hl

/-- A tracked task that agrees with `t`'s ID has `t`'s service and
reservations. -/
theorem Inv.same {spec : Nat → Fixed} {init : Resources} {ni : NodeInfo} (hi : Inv spec init ni)
    {t old : Task} (ht : t.fixed = spec t.id) (hl : ni.tasks.lookup t.id = some old) :
    old.serviceID = t.serviceID ∧ old.reservations = t.reservations := by
  have h := (hi.fixed t.id old hl).trans ht.symm
  simp only [Task.fixed, Fixed.mk.injEq] at h
  exact ⟨h.1, h.2.1⟩

-- ========================= addTask

section Add

variable {spec : Nat → Fixed} {init : Resources} {ni : NodeInfo} {t : Task}

/-- A tracked task crossing `Completed` replaces the tracked one and moves
both counters by the difference `d` of the two tasks' counts. -/
theorem Inv.addTask_tracked (hi : Inv spec init ni) (ht : t.fixed = spec t.id) {old : Task}
    (hl : ni.tasks.lookup t.id = some old) (d : Int)
    (hd : activeOne t.id t - activeOne t.id old = d) :
    Inv spec init { ni with
      tasks := ni.tasks.insert t.id t, activeTasksCount := ni.activeTasksCount + d,
      activeTasksCountByService := bump ni.activeTasksCountByService t.serviceID d } := by
  obtain ⟨hsvc, hres⟩ := hi.same ht hl
  -- the difference of the totals is the difference of the two entries
  have hmove : ∀ f : Nat → Task → Int, (ni.tasks.insert t.id t).total f =
      ni.tasks.total f - f t.id old + f t.id t := fun f => AList.total_insert_of_lookup f hl
  refine ⟨fixed_insert hi.fixed ht, ?_, ?_, ?_, ?_⟩
  · dsimp only
    rw [hmove, ← hi.count, ← hd]
    abel
  · intro s
    simp only [bump_apply]
    rw [hmove, ← hi.byService s]
    by_cases hs : s = t.serviceID
    · rw [if_pos hs, activeOf_of_serviceID hs.symm, activeOf_of_serviceID (hsvc.trans hs.symm),
        ← hd]
      abel
    · have hs' : old.serviceID ≠ s := fun h => hs (h ▸ hsvc)
      rw [if_neg hs, activeOf_of_ne (Ne.symm hs), activeOf_of_ne hs']
      abel
  · simp only [hmove, hres]
    rw [hi.nanoCPUs]
    abel
  · simp only [hmove, hres]
    rw [hi.memoryBytes]
    abel

/-- A new task is stored with the units `Claim` gave it, and its
reservations and state enter the counters. -/
theorem Inv.addTask_new (hi : Inv spec init ni) (ht : t.fixed = spec t.id)
    (hl : ni.tasks.lookup t.id = none) (assigned generic : List GenericResource) :
    Inv spec init { ni with
      tasks := ni.tasks.insert t.id { t with assignedGenericResources := assigned },
      availableResources := ⟨ni.availableResources.nanoCPUs - t.reservations.nanoCPUs,
        ni.availableResources.memoryBytes - t.reservations.memoryBytes, generic⟩,
      usedHostPorts := fun p => p ∈ t.hostPorts || ni.usedHostPorts p,
      activeTasksCount := ni.activeTasksCount + (if t.active then 1 else 0),
      activeTasksCountByService :=
        bump ni.activeTasksCountByService t.serviceID (if t.active then 1 else 0) } := by
  have hnot : t.id ∉ ni.tasks := AList.lookup_eq_none.mp hl
  -- the stored task differs from `t` only in its generic units
  set t' : Task := { t with assignedGenericResources := assigned }
  have hsvc : t'.serviceID = t.serviceID := rfl
  have hact : activeOne t.id t' = activeOne t.id t := rfl
  have hadd : ∀ f : Nat → Task → Int,
      (ni.tasks.insert t.id t').total f = f t.id t' + ni.tasks.total f :=
    fun f => AList.total_insert_of_notMem f _ hnot
  refine ⟨fixed_insert (t := t') hi.fixed ht, ?_, ?_, ?_, ?_⟩
  · dsimp only
    rw [hadd, ← hi.count, hact, activeOne, add_comm]
  · intro s
    simp only [bump_apply]
    rw [hadd, ← hi.byService s]
    by_cases hs : s = t.serviceID
    · rw [if_pos hs, activeOf_of_serviceID (hsvc.trans hs.symm), hact, activeOne, add_comm]
    · rw [if_neg hs, activeOf_of_ne (hsvc.trans_ne (Ne.symm hs)), zero_add]
  · simp only [hadd]
    rw [hi.nanoCPUs]
    abel
  · simp only [hadd]
    rw [hi.memoryBytes]
    abel

/-- `addTask` keeps the invariant. -/
theorem Inv.addTask (hi : Inv spec init ni) (ht : t.fixed = spec t.id) :
    Inv spec init (ni.addTask t).1 := by
  unfold NodeInfo.addTask
  cases hl : ni.tasks.lookup t.id with
  | some old =>
      dsimp only
      by_cases ha : t.active ∧ ¬old.active
      · rw [if_pos ha]
        exact hi.addTask_tracked ht hl 1 (by simp [activeOne, ha.1, ha.2])
      · rw [if_neg ha]
        by_cases hd : ¬t.active ∧ old.active
        · rw [if_pos hd]
          exact hi.addTask_tracked ht hl (-1) (by simp [activeOne, hd.1, hd.2])
        · rw [if_neg hd]
          exact hi
  | none =>
      dsimp only
      split <;> exact hi.addTask_new ht hl _ _

end Add

-- ====================== removeTask

/-- `removeTask` keeps the invariant. -/
theorem Inv.removeTask {spec : Nat → Fixed} {init : Resources} {ni : NodeInfo} {t : Task}
    (hi : Inv spec init ni) (ht : t.fixed = spec t.id) : Inv spec init (ni.removeTask t).1 := by
  unfold NodeInfo.removeTask
  cases hl : ni.tasks.lookup t.id with
  | none => exact hi
  | some old =>
      dsimp only
      obtain ⟨hsvc, hres⟩ := hi.same ht hl
      -- the erased entry is the tracked task, under its own service
      have hsub : ∀ f : Nat → Task → Int, (ni.tasks.erase t.id).total f =
          ni.tasks.total f - f t.id old := fun f => by
        rw [AList.total_erase_add hl (f := f)]
        abel
      refine ⟨fun id t' h => hi.fixed id t' (AList.lookup_erase_eq_some h).2, ?_, ?_, ?_, ?_⟩
      · rw [hsub, ← hi.count, activeOne]
      · intro s
        simp only [bump_apply]
        rw [hsub, ← hi.byService s]
        by_cases hs : s = t.serviceID
        · rw [if_pos hs, activeOf_of_serviceID (hsvc.trans hs.symm), activeOne, sub_eq_add_neg]
        · have hs' : old.serviceID ≠ s := fun h => hs (h ▸ hsvc)
          rw [if_neg hs, activeOf_of_ne hs', sub_zero]
      · simp only [hsub, hres]
        rw [hi.nanoCPUs]
        abel
      · simp only [hsub, hres]
        rw [hi.memoryBytes]
        abel

-- ============================ runs

/-- Every call keeps the invariant. -/
theorem inv_inductive (spec : Nat → Fixed) (n : Node) (init : Resources) :
    Lts.Inductive (call spec) (NodeInfo.empty n init) (Inv spec init) where
  init := Inv.empty spec n init
  step := by
    intro c ni ni' hi h
    unfold call at h
    split at h
    · rename_i hc
      cases c with
      | add t => cases h; exact hi.addTask hc
      | remove t => cases h; exact hi.removeTask hc
    · cases h

/-- `newNodeInfo` is the run of its tasks' `addTask` calls. -/
theorem newNodeInfo_run {spec : Nat → Fixed} :
    ∀ (ts : List Task) (ni : NodeInfo), (∀ t ∈ ts, t.fixed = spec t.id) →
      Lts.run (call spec) ni (ts.map .add) = some (ts.foldl (fun ni t => (ni.addTask t).1) ni) := by
  intro ts
  induction ts with
  | nil => intro ni _; rfl
  | cons t ts ih =>
      intro ni hts
      have ht : t.fixed = spec t.id := hts t (List.mem_cons_self ..)
      rw [List.map_cons, Lts.run_cons, List.foldl_cons]
      simp only [call, TaskCall.task, ht, if_true, Option.bind_some]
      exact ih _ fun t' h => hts t' (List.mem_cons_of_mem _ h)

/-- The invariant holds from `newNodeInfo` on: its tasks are a run of
`addTask` calls from `empty`. -/
theorem inv_inductive_newNodeInfo {spec : Nat → Fixed} (n : Node) (avail : Resources)
    (ts : List Task) (hts : ∀ t ∈ ts, t.fixed = spec t.id) :
    Lts.Inductive (call spec) (newNodeInfo n ts avail) (Inv spec avail) where
  init := (inv_inductive spec n avail).reachable
    (Lts.reachable_of_run (newNodeInfo_run ts _ hts))
  step := (inv_inductive spec n avail).step

/-- Removing an untracked task changes nothing. -/
theorem removeTask_untracked {ni : NodeInfo} {t : Task} (hl : ni.tasks.lookup t.id = none) :
    ni.removeTask t = (ni, false) := by
  unfold removeTask
  rw [hl]

/-- Adding a tracked task moves no resource and no port. -/
theorem addTask_tracked_frame {ni : NodeInfo} {t : Task} (hl : (ni.tasks.lookup t.id).isSome) :
    (ni.addTask t).1.availableResources = ni.availableResources ∧
      (ni.addTask t).1.usedHostPorts = ni.usedHostPorts := by
  obtain ⟨old, hold⟩ := Option.isSome_iff_exists.mp hl
  unfold addTask
  rw [hold]
  dsimp only
  split_ifs <;> exact ⟨rfl, rfl⟩

-- ============= the coarse NodeInfo

/-- The IDs `addTask` leaves tracked. -/
theorem mem_addTask {ni : NodeInfo} {t : Task} {id : Nat} :
    id ∈ (ni.addTask t).1.tasks ↔ id = t.id ∨ id ∈ ni.tasks := by
  unfold addTask
  cases hl : ni.tasks.lookup t.id with
  | some old =>
      -- a tracked task's ID is already there, whichever branch runs
      have ht : t.id ∈ ni.tasks := AList.lookup_isSome.mp (by simp [hl])
      have hself : id = t.id ∨ id ∈ ni.tasks ↔ id ∈ ni.tasks :=
        ⟨fun h => h.elim (fun e => e ▸ ht) fun hm => hm, Or.inr⟩
      dsimp only
      split_ifs <;> simp only [AList.mem_insert, hself]
  | none =>
      dsimp only
      split <;> exact AList.mem_insert _

end NodeInfo

/-- The counters of a `NodeInfo` reached from `newNodeInfo` by `addTask`
and `removeTask` calls, with tasks that keep their service, reservations
and ports per ID, count and sum exactly its tracked tasks; removing an
untracked task changes nothing, and adding a tracked one changes no
resource. -/
theorem nodeInfo_counters_track_tasks (spec : Nat → Fixed) (n : Node) (avail : Resources)
    (ts : List Task) (hts : ∀ t ∈ ts, t.fixed = spec t.id) :
    (∀ ni, Lts.Reachable (NodeInfo.call spec) (newNodeInfo n ts avail) ni →
      ni.activeTasksCount = (ni.tasks.entries.countP fun e => e.2.active : Int) ∧
      (∀ s, ni.activeTasksCountByService s =
        (ni.tasks.entries.countP fun e => e.2.active ∧ e.2.serviceID = s : Int)) ∧
      ni.availableResources.nanoCPUs =
        avail.nanoCPUs - (ni.tasks.entries.map fun e => e.2.reservations.nanoCPUs).sum ∧
      ni.availableResources.memoryBytes =
        avail.memoryBytes - (ni.tasks.entries.map fun e => e.2.reservations.memoryBytes).sum) ∧
    (∀ (ni : NodeInfo) (t : Task), ni.tasks.lookup t.id = none → ni.removeTask t = (ni, false)) ∧
    (∀ (ni : NodeInfo) (t : Task), (ni.tasks.lookup t.id).isSome →
      (ni.addTask t).1.availableResources = ni.availableResources ∧
      (ni.addTask t).1.usedHostPorts = ni.usedHostPorts) := by
  refine ⟨fun ni hr => ?_, fun _ _ hl => NodeInfo.removeTask_untracked hl,
    fun _ _ hl => NodeInfo.addTask_tracked_frame hl⟩
  have hi : NodeInfo.Inv spec avail ni :=
    (NodeInfo.inv_inductive_newNodeInfo n avail ts hts).reachable hr
  refine ⟨?_, fun s => ?_, hi.nanoCPUs, hi.memoryBytes⟩
  · have h := AList.total_ite_eq_countP (R := Int) (fun _ t => t.active = true) ni.tasks
    simp only [Bool.decide_eq_true] at h
    rw [hi.count]
    exact h
  · rw [hi.byService s]
    exact AList.total_ite_eq_countP (R := Int) (fun _ t => t.active = true ∧ t.serviceID = s) ni.tasks

/-- One running replica of service 7, reserving a quarter CPU and 1 MiB. -/
def replicaTask : Task := ⟨1, 7, .running, ⟨250000000, 1048576, []⟩, 0, [], []⟩

theorem nodeInfo_counters_track_tasks_replica :
    (∀ t ∈ [replicaTask], t.fixed = replicaTask.fixed) ∧
    (∀ ni, Lts.Reachable (NodeInfo.call fun _ => replicaTask.fixed)
        (newNodeInfo ⟨3, .ready, .active, none⟩ [replicaTask] ⟨2000000000, 4194304, []⟩) ni →
      ni.activeTasksCount = (ni.tasks.entries.countP fun e => e.2.active : Int) ∧
      (∀ s, ni.activeTasksCountByService s =
        (ni.tasks.entries.countP fun e => e.2.active ∧ e.2.serviceID = s : Int)) ∧
      ni.availableResources.nanoCPUs =
        2000000000 - (ni.tasks.entries.map fun e => e.2.reservations.nanoCPUs).sum ∧
      ni.availableResources.memoryBytes =
        4194304 - (ni.tasks.entries.map fun e => e.2.reservations.memoryBytes).sum) ∧
    (∀ (ni : NodeInfo) (t : Task), ni.tasks.lookup t.id = none → ni.removeTask t = (ni, false)) ∧
    (∀ (ni : NodeInfo) (t : Task), (ni.tasks.lookup t.id).isSome →
      (ni.addTask t).1.availableResources = ni.availableResources ∧
      (ni.addTask t).1.usedHostPorts = ni.usedHostPorts) :=
  have hts : ∀ t ∈ [replicaTask], t.fixed = replicaTask.fixed := by simp
  ⟨hts, nodeInfo_counters_track_tasks (fun _ => replicaTask.fixed) ⟨3, .ready, .active, none⟩
    ⟨2000000000, 4194304, []⟩ [replicaTask] hts⟩

-- =============== generic resources

/-- A node described with two named GPUs (kind 0, names 1 and 2), or
with three discrete ones; all of them available. -/
def gpuNode (generic : List GenericResource) : NodeInfo :=
  NodeInfo.empty ⟨1, .ready, .active, some generic⟩ ⟨0, 0, generic⟩

/-- A new task reserving one GPU twice, or two GPUs twice. -/
def gpuTask (value : Int) : Task :=
  ⟨1, 1, .running, ⟨0, 0, [.discrete 0 value, .discrete 0 value]⟩, 0, [], []⟩

open GenericResource in
/-- Each reservation of a task passes `HasEnough` against the node's
available list, and `Claim` then selects every one of them from that same
list: with named units the task is assigned the first unit twice, and
after `removeTask` the node lists that unit twice; with discrete units
the task is assigned four units of a node that had three. -/
theorem generic_claim_reuses_units :
    (let A : List GenericResource := [.named 0 1, .named 0 2]
     let r := (gpuNode A).addTask (gpuTask 1)
     validateTask (gpuTask 1).reservations.generic = true ∧
     ((gpuTask 1).reservations.generic.all fun g => hasEnough A g == .ok true) = true ∧
     r.1.availableResources.generic = [.named 0 2] ∧
     r.2.1.assignedGenericResources = [.named 0 1, .named 0 1] ∧
     (r.1.removeTask r.2.1).1.availableResources.generic = [.named 0 2, .named 0 1, .named 0 1] ∧
     ¬ (r.1.removeTask r.2.1).1.availableResources.generic.Perm A) ∧
    (let A : List GenericResource := [.discrete 0 3]
     let r := (gpuNode A).addTask (gpuTask 2)
     ((gpuTask 2).reservations.generic.all fun g => hasEnough A g == .ok true) = true ∧
     r.1.availableResources.generic = [] ∧
     r.2.1.assignedGenericResources = [.discrete 0 2, .discrete 0 2]) := by
  decide

end SwarmKit.Scheduler.Fit

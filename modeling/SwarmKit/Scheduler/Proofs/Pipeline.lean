import SwarmKit.Scheduler.Pipeline
import SwarmKit.Scheduler.Proofs.NodeInfo

/-
What an assignment of `scheduleNTasksOnNodes` may rely on
(`Pipeline.lean`).

# One assignment

The loop assigns a task only to a node that passed the pipeline with
every earlier assignment of the group applied: the first node because
its caller filtered it, every later one because `recheck` found it. The
write-back keeps the slice's `NodeInfo` the node set's, so the next
check reads what the assignment left. From a passing node, `addTask`
keeps each filter's promise (`Good.assign`): the service's active count
stays within `MaxReplicas`, the resources within what the node had, and
the task's host ports become used, so no second task of the group goes
to the node.

# The loop

`Good` carries those promises over the whole call (`good_loop`), and
`scheduleNTasksOnNodes_within_limits` states them for the node list a
leaf of the decision tree hands the loop: distinct nodes, each the node
set's current `NodeInfo`. `nodeSet.tree` pushes only nodes that pass the
pipeline and `orderedNodes` drops those that no longer do, so the first
node, whose task the loop does not check, passes it.
-/

namespace SwarmKit.Scheduler.Fit

open SwarmKit.Api

-- ========================= recheck

/-- A node `recheck` stops at passes the pipeline. -/
theorem recheck_passes (p : Pipeline) (nodes : List NodeInfo) {fuel nodeIter j : Nat}
    {failed failed' : List Nat} (h : recheck p nodes fuel nodeIter failed = (some j, failed')) :
    nodes[j % nodes.length]?.map p.process = some true := by
  induction fuel generalizing nodeIter failed with
  | zero =>
      simp only [recheck, Prod.mk.injEq, reduceCtorEq, false_and] at h
  | succ fuel ih =>
      unfold recheck at h
      dsimp only at h
      split at h
      · exact ih h
      · next hok =>
        simp only [Prod.mk.injEq, Option.some.injEq] at h
        rw [← h.1]
        obtain ⟨-, hpass⟩ := not_or.mp hok
        exact not_not.mp hpass

-- ===================== the filters

/-- What a node that passes the pipeline offers the task: the check of
each enabled filter. -/
theorem Pipeline.process_filters {p : Pipeline} {n : NodeInfo} (h : p.process n = true) :
    (resourceEnabled p.task = true → resourceCheck p.task n = true) ∧
      (hostPortEnabled p.task = true → hostPortCheck p.task n = true) ∧
      (maxReplicasEnabled p.task = true → maxReplicasCheck p.task n = true) := by
  simp only [Pipeline.process, Bool.and_eq_true, Bool.or_eq_true, Bool.not_eq_true'] at h
  obtain ⟨⟨⟨⟨-, hres⟩, -⟩, hports⟩, hmax⟩ := h
  refine ⟨fun he => ?_, fun he => ?_, fun he => ?_⟩
  · exact hres.resolve_left (by simp [he])
  · exact hports.resolve_left (by simp [he])
  · exact hmax.resolve_left (by simp [he])

/-- A task with nothing to check for `ResourceFilter` reserves no
NanoCPUs and no MemoryBytes. -/
theorem reservations_of_not_resourceEnabled {t : Task} (h : resourceEnabled t = false) :
    t.reservations.nanoCPUs = 0 ∧ t.reservations.memoryBytes = 0 := by
  simp only [resourceEnabled, Bool.or_eq_false_iff, decide_eq_false_iff_not, not_not] at h
  exact ⟨h.1.1, h.1.2⟩

/-- A count that passes `MaxReplicasFilter`, read back as a signed
count, leaves room for one more task. -/
theorem count_add_le_of_check {x : Int} {m : Nat} (hx : x < 2 ^ 64) (h : x % 2 ^ 64 < m)
    {d : Int} (hd : d ≤ 1) : x + d ≤ m := by
  omega

/-- A task of the group: the filters read the same service, reservations
and ports of it as of the pipeline's task. -/
structure SameSpec (u t : Task) : Prop where
  serviceID : t.serviceID = u.serviceID
  reservations : t.reservations = u.reservations
  ports : t.ports = u.ports

theorem SameSpec.hostPorts {u t : Task} (hs : SameSpec u t) : t.hostPorts = u.hostPorts := by
  simp only [Task.hostPorts, hs.ports]

-- ========================= addTask

/-- `addTask` of a task the node does not track: it is added, its
resources reserved, its ports used and the counters moved. -/
theorem addTask_untracked {ni : NodeInfo} {t : Task} (hl : ni.tasks.lookup t.id = none) :
    ∃ generic assigned, ni.addTask t =
      ({ ni with
        tasks := ni.tasks.insert t.id { t with assignedGenericResources := assigned },
        availableResources := ⟨ni.availableResources.nanoCPUs - t.reservations.nanoCPUs,
          ni.availableResources.memoryBytes - t.reservations.memoryBytes, generic⟩,
        usedHostPorts := fun q => q ∈ t.hostPorts || ni.usedHostPorts q,
        activeTasksCount := ni.activeTasksCount + if t.active then 1 else 0,
        activeTasksCountByService :=
          NodeInfo.bump ni.activeTasksCountByService t.serviceID (if t.active then 1 else 0) },
        { t with assignedGenericResources := assigned }, true) := by
  unfold NodeInfo.addTask
  rw [hl]
  dsimp only
  split
  · exact ⟨_, _, rfl⟩
  · exact ⟨_, _, rfl⟩

/-- `addTask` of a task the node does not track changes the node. -/
theorem addTask_untracked_changed {ni : NodeInfo} {t : Task} (hl : ni.tasks.lookup t.id = none) :
    (ni.addTask t).2.2 = true := by
  obtain ⟨_, _, h⟩ := addTask_untracked hl
  rw [h]

/-- The ports a node uses after a task it did not track. -/
theorem usedHostPorts_addTask_untracked {ni : NodeInfo} {t : Task}
    (hl : ni.tasks.lookup t.id = none) (q : HostPortSpec) :
    (ni.addTask t).1.usedHostPorts q = (q ∈ t.hostPorts || ni.usedHostPorts q) := by
  obtain ⟨_, _, h⟩ := addTask_untracked hl
  rw [h]

/-- `addTask` keeps the node. -/
@[simp] theorem addTask_node (ni : NodeInfo) (t : Task) : (ni.addTask t).1.node = ni.node := by
  unfold NodeInfo.addTask
  split
  · split_ifs <;> rfl
  · dsimp only

/-- What the pipeline allows of a node stays so when it gets one more
task of the group. -/
structure Within (p : Pipeline) (ni₀ ni : NodeInfo) : Prop where
  count : maxReplicasEnabled p.task = true →
    ni.activeTasksCountByService p.task.serviceID ≤
      max (ni₀.activeTasksCountByService p.task.serviceID) p.task.maxReplicas
  nanoCPUs : 0 ≤ ni.availableResources.nanoCPUs ∨
    ni.availableResources.nanoCPUs = ni₀.availableResources.nanoCPUs
  memoryBytes : 0 ≤ ni.availableResources.memoryBytes ∨
    ni.availableResources.memoryBytes = ni₀.availableResources.memoryBytes

theorem Within.refl (p : Pipeline) (ni : NodeInfo) : Within p ni ni :=
  ⟨fun _ => by omega, .inr rfl, .inr rfl⟩

/-- A reservation the node has room for, or none. -/
theorem sub_within {x x₀ r : Int} (hw : 0 ≤ x ∨ x = x₀) (hr : r ≤ x ∨ r = 0) :
    0 ≤ x - r ∨ x - r = x₀ := by
  rcases hr with hr | rfl
  · exact .inl (Int.sub_nonneg_of_le hr)
  · rwa [Int.sub_zero]

section Add

variable {p : Pipeline} {t : Task} {ni₀ node : NodeInfo}

/-- One more task of the group on a node that passes the pipeline keeps
the node within what the filters allow. -/
theorem Within.addTask (hw : Within p ni₀ node) (hs : SameSpec p.task t)
    (hpass : p.process node = true) (hl : node.tasks.lookup t.id = none)
    (hM : p.task.maxReplicas < 2 ^ 64)
    (hc₀ : ni₀.activeTasksCountByService p.task.serviceID < 2 ^ 64) :
    Within p ni₀ (node.addTask t).1 := by
  obtain ⟨generic, assigned, hadd⟩ := addTask_untracked hl
  obtain ⟨hres, -, hmax⟩ := Pipeline.process_filters hpass
  -- the reservation is within what the node has, or zero
  have hr : (p.task.reservations.nanoCPUs ≤ node.availableResources.nanoCPUs ∨
        p.task.reservations.nanoCPUs = 0) ∧
      (p.task.reservations.memoryBytes ≤ node.availableResources.memoryBytes ∨
        p.task.reservations.memoryBytes = 0) := by
    cases he : resourceEnabled p.task
    · have h0 := reservations_of_not_resourceEnabled he
      exact ⟨.inr h0.1, .inr h0.2⟩
    · have hc := hres he
      simp only [resourceCheck, Bool.and_eq_true, decide_eq_true_eq] at hc
      exact ⟨.inl hc.1.1, .inl hc.1.2⟩
  rw [hadd]
  refine ⟨fun he => ?_, ?_, ?_⟩
  · -- the count moves by at most one, from below the limit
    have hcheck := hmax he
    simp only [maxReplicasCheck, decide_eq_true_eq] at hcheck
    have hx : node.activeTasksCountByService p.task.serviceID < 2 ^ 64 := by
      have := hw.count he
      omega
    have hd : (if t.active then 1 else 0 : Int) ≤ 1 := by split <;> omega
    simp only [NodeInfo.bump_apply, hs.serviceID, if_true]
    have := count_add_le_of_check hx hcheck hd
    omega
  · simpa only [hs.reservations] using sub_within hw.nanoCPUs hr.1
  · simpa only [hs.reservations] using sub_within hw.memoryBytes hr.2

end Add

-- ====================== assignTask

/-- The assignment to a node the node set has, whose `NodeInfo` `addTask`
changes. -/
theorem assignTask_eq {a : Assign} {t : Task} {i : Nat} {node ni' : NodeInfo} {newT : Task}
    (hl : a.nodeSet.lookup node.node.id = some node) (hadd : node.addTask t = (ni', newT, true)) :
    assignTask t i node a = (ni', { a with
      nodeSet := updateNode ni' a.nodeSet, nodes := a.nodes.set i ni',
      decisions := a.decisions.insert t.id ⟨t, newT, node.node.id⟩,
      scheduled := a.scheduled + 1 }) := by
  unfold assignTask
  rw [hl]
  dsimp only
  rw [hadd]
  rfl

/-- `updateNode` of a node the set has. -/
theorem updateNode_of_mem {n : NodeInfo} {ns : NodeSet} (h : n.node.id ∈ ns) :
    updateNode n ns = ns.insert n.node.id n :=
  if_pos h

theorem mem_of_lookup {β : Type*} {s : AList fun _ : Nat => β} {k : Nat} {v : β}
    (h : s.lookup k = some v) : k ∈ s :=
  AList.lookup_isSome.mp (by rw [h]; rfl)

/-- Two nodes at different places of a slice of distinct nodes are
different nodes. -/
theorem id_ne_of_nodup {nodes : List NodeInfo} (hnd : (nodes.map (·.node.id)).Nodup) {i j : Nat}
    {ni nj : NodeInfo} (hi : nodes[i]? = some ni) (hj : nodes[j]? = some nj) (hij : i ≠ j) :
    ni.node.id ≠ nj.node.id := by
  intro heq
  have hi' : (nodes.map (·.node.id))[i]? = some ni.node.id := by
    rw [List.getElem?_map, hi]
    rfl
  have hj' : (nodes.map (·.node.id))[j]? = some ni.node.id := by
    rw [List.getElem?_map, hj, heq]
    rfl
  have hlen : i < (nodes.map (·.node.id)).length := (List.getElem?_eq_some_iff.mp hi').1
  exact hij ((List.getElem?_inj hlen hnd).mp (hi'.trans hj'.symm))

/-- The slice with a node replaced by one with its ID lists the same
IDs. -/
theorem map_id_set {nodes : List NodeInfo} {i : Nat} {node ni : NodeInfo}
    (hi : nodes[i]? = some node) (h : ni.node.id = node.node.id) :
    (nodes.set i ni).map (·.node.id) = nodes.map (·.node.id) := by
  apply List.ext_getElem?
  intro j
  rw [List.getElem?_map, List.getElem?_map, List.getElem?_set]
  split_ifs with hij hlt
  · subst hij
    rw [hi]
    exact congrArg some h
  · subst hij
    exact absurd (List.getElem?_eq_some_iff.mp hi).1 hlt
  · rfl

-- =================== the invariant

/-- Task `id` went to node `k` in the call from `a₀`: it has a decision
for `k`, and had none at the start. -/
def NewOn (a₀ a : Assign) (k id : Nat) : Prop :=
  id ∉ a₀.decisions ∧ ∃ d, a.decisions.lookup id = some d ∧ d.nodeID = k

theorem NewOn.not_start {a₀ : Assign} {k id : Nat} : ¬NewOn a₀ a₀ k id := by
  rintro ⟨hn, d, hd, -⟩
  exact hn (mem_of_lookup hd)

/-- A task new to the call after one more decision: the decided one, or
one new before. -/
theorem NewOn.of_insert {a₀ a a' : Assign} {k id : Nat} {t : Task} {d : Decision}
    (hd : a'.decisions = a.decisions.insert t.id d) (h : NewOn a₀ a' k id) :
    (id = t.id ∧ k = d.nodeID) ∨ NewOn a₀ a k id := by
  obtain ⟨h₀, d', hd', hk⟩ := h
  rw [hd] at hd'
  rcases AList.lookup_insert_eq_some hd' with ⟨rfl, rfl⟩ | ⟨-, hd'⟩
  · exact .inl ⟨rfl, hk.symm⟩
  · exact .inr ⟨h₀, d', hd', hk⟩

/-- What the call keeps from its start `a₀`: the slice's nodes stay
distinct and the node set's own, every node stays `Within` what it was,
the tasks a node tracks are the start's or decided, no decision of the
start is overwritten, and the tasks decided in the call are tasks of
the group whose host ports their node uses, one to a node when they
have host ports. -/
structure Good (p : Pipeline) (a₀ a : Assign) : Prop where
  distinct : (a.nodes.map (·.node.id)).Nodup
  fresh : ∀ (i : Nat) (ni : NodeInfo), a.nodes[i]? = some ni → a.nodeSet.lookup ni.node.id = some ni
  keyed : ∀ k ni, a.nodeSet.lookup k = some ni → ni.node.id = k
  within : ∀ k ni, a.nodeSet.lookup k = some ni →
    ∃ ni₀, a₀.nodeSet.lookup k = some ni₀ ∧ Within p ni₀ ni
  tracked : ∀ k ni, a.nodeSet.lookup k = some ni → ∀ id ∈ ni.tasks,
    (∃ ni₀, a₀.nodeSet.lookup k = some ni₀ ∧ id ∈ ni₀.tasks) ∨ id ∈ a.decisions
  earlier : ∀ id d, a₀.decisions.lookup id = some d → a.decisions.lookup id = some d
  grouped : ∀ id d, id ∉ a₀.decisions → a.decisions.lookup id = some d → SameSpec p.task d.old
  ports : ∀ k ni id, a.nodeSet.lookup k = some ni → NewOn a₀ a k id →
    ∀ q ∈ p.task.hostPorts, ni.usedHostPorts q = true
  unique : hostPortEnabled p.task = true →
    ∀ k id id', NewOn a₀ a k id → NewOn a₀ a k id' → id = id'

section Assign

variable {p : Pipeline} {a₀ a : Assign} {t : Task} {i : Nat} {node : NodeInfo}

/-- The call's start, with a slice of distinct nodes that are the node
set's own. -/
theorem Good.init (hd : (a₀.nodes.map (·.node.id)).Nodup)
    (hf : ∀ (i : Nat) (ni : NodeInfo), a₀.nodes[i]? = some ni → a₀.nodeSet.lookup ni.node.id = some ni)
    (hk : ∀ k ni, a₀.nodeSet.lookup k = some ni → ni.node.id = k) : Good p a₀ a₀ where
  distinct := hd
  fresh := hf
  keyed := hk
  within _ ni h := ⟨ni, h, Within.refl p ni⟩
  tracked _ ni h _ hid := .inl ⟨ni, h, hid⟩
  earlier _ _ h := h
  grouped _ _ hn h := absurd (mem_of_lookup h) hn
  ports _ _ _ _ hn := absurd hn NewOn.not_start
  unique _ _ _ _ hn := absurd hn NewOn.not_start

/-- Moving `nodeIter` and `failedConstraints` keeps the invariant. -/
theorem Good.moveIter (hg : Good p a₀ a) (nodeIter : Nat) (failed : List Nat) :
    Good p a₀ { a with nodeIter, failed } :=
  ⟨hg.distinct, hg.fresh, hg.keyed, hg.within, hg.tracked, hg.earlier, hg.grouped, hg.ports,
    hg.unique⟩

/-- A node with a task of the group decided on it in the call fails the
host-port check of the group's tasks. -/
theorem Good.hostPort_taken (hg : Good p a₀ a) (he : hostPortEnabled p.task = true)
    (hl : a.nodeSet.lookup node.node.id = some node) {id : Nat} (hn : NewOn a₀ a node.node.id id) :
    hostPortCheck p.task node = false := by
  obtain ⟨q, hq⟩ : ∃ q, q ∈ p.task.hostPorts :=
    List.exists_mem_of_ne_nil _ (by simpa [hostPortEnabled] using he)
  have hused := hg.ports _ _ id hl hn q hq
  rw [Bool.eq_false_iff]
  intro hcheck
  have hfree := List.all_eq_true.mp hcheck q hq
  rw [hused] at hfree
  cases hfree

/-- One assignment, of a task of the group that is undecided and tracked
by no node at the start, to a node of the slice that passes the
pipeline, keeps the invariant. -/
theorem Good.assign (hg : Good p a₀ a) (hs : SameSpec p.task t) (ht : t.id ∉ a.decisions)
    (hun : ∀ k ni, a₀.nodeSet.lookup k = some ni → t.id ∉ ni.tasks)
    (hi : a.nodes[i]? = some node) (hpass : p.process node = true)
    (hM : p.task.maxReplicas < 2 ^ 64)
    (hc₀ : ∀ k ni, a₀.nodeSet.lookup k = some ni →
      ni.activeTasksCountByService p.task.serviceID < 2 ^ 64) :
    Good p a₀ (assignTask t i node a).2 := by
  have hl : a.nodeSet.lookup node.node.id = some node := hg.fresh i node hi
  -- the task is new to the node: not one of the start's, not decided
  have hnew : node.tasks.lookup t.id = none := by
    refine AList.lookup_eq_none.mpr fun hm => ?_
    rcases hg.tracked _ _ hl _ hm with ⟨ni₀, h₀, hm₀⟩ | hd
    · exact hun _ _ h₀ hm₀
    · exact ht hd
  have hadd : node.addTask t = ((node.addTask t).1, (node.addTask t).2.1, true) := by
    rw [← addTask_untracked_changed hnew]
  rw [assignTask_eq hl hadd]
  set ni' := (node.addTask t).1 with hni'
  have hid : ni'.node.id = node.node.id := by rw [hni', addTask_node]
  rw [updateNode_of_mem (hid ▸ mem_of_lookup hl), hid]
  refine ⟨?distinct, ?fresh, ?keyed, ?within, ?tracked, ?earlier, ?grouped, ?ports, ?unique⟩
  case distinct =>
    rw [map_id_set hi hid]
    exact hg.distinct
  case fresh =>
    intro j nj hj
    rw [List.getElem?_set] at hj
    split_ifs at hj with hij hlt
    · cases hj
      rw [hid]
      exact AList.lookup_insert _
    · -- another place of the slice holds another node
      rw [AList.lookup_insert_ne (id_ne_of_nodup hg.distinct hj hi (Ne.symm hij))]
      exact hg.fresh j nj hj
  case keyed =>
    intro k ni h
    rcases AList.lookup_insert_eq_some h with ⟨rfl, rfl⟩ | ⟨-, h⟩
    · exact hid
    · exact hg.keyed k ni h
  case within =>
    intro k ni h
    rcases AList.lookup_insert_eq_some h with ⟨rfl, rfl⟩ | ⟨-, h⟩
    · obtain ⟨ni₀, h₀, hw⟩ := hg.within _ _ hl
      exact ⟨ni₀, h₀, hw.addTask hs hpass hnew hM (hc₀ _ _ h₀)⟩
    · exact hg.within k ni h
  case tracked =>
    intro k ni h id hm
    have hsub : id ∈ a.decisions →
        id ∈ a.decisions.insert t.id ⟨t, (node.addTask t).2.1, node.node.id⟩ :=
      fun hd => (AList.mem_insert _).mpr (.inr hd)
    rcases AList.lookup_insert_eq_some h with ⟨rfl, rfl⟩ | ⟨-, h⟩
    · rcases NodeInfo.mem_addTask.mp hm with rfl | hm
      · exact .inr ((AList.mem_insert _).mpr (.inl rfl))
      · exact (hg.tracked _ _ hl _ hm).imp_right hsub
    · exact (hg.tracked k ni h id hm).imp_right hsub
  case earlier =>
    intro id d h
    have hne : id ≠ t.id := fun e => ht (e ▸ mem_of_lookup (hg.earlier id d h))
    rw [AList.lookup_insert_ne hne]
    exact hg.earlier id d h
  case grouped =>
    intro id d hn h
    rcases AList.lookup_insert_eq_some h with ⟨rfl, rfl⟩ | ⟨-, h⟩
    · exact hs
    · exact hg.grouped id d hn h
  case ports =>
    intro k ni id h hn q hq
    rcases AList.lookup_insert_eq_some h with ⟨rfl, rfl⟩ | ⟨hk, h⟩
    · -- the node now uses the group's ports
      rw [hni', usedHostPorts_addTask_untracked hnew, hs.hostPorts]
      simp [hq]
    · rcases NewOn.of_insert rfl hn with ⟨-, rfl⟩ | hn
      · exact absurd rfl hk
      · exact hg.ports k ni id h hn q hq
  case unique =>
    intro he k id id' hn hn'
    -- the node passed the check, so no earlier task of the call is on it
    have hfree : ∀ id, ¬NewOn a₀ a node.node.id id := fun id hn => by
      have hcheck := (Pipeline.process_filters hpass).2.1 he
      rw [hg.hostPort_taken he hl hn] at hcheck
      cases hcheck
    rcases NewOn.of_insert rfl hn with ⟨rfl, rfl⟩ | hn <;>
      rcases NewOn.of_insert rfl hn' with ⟨rfl, hk⟩ | hn'
    · rfl
    · exact absurd hn' (hfree id')
    · subst hk
      exact absurd hn (hfree id)
    · exact hg.unique he k id id' hn hn'

end Assign

-- ======================== the loop

section Loop

variable {p : Pipeline} {a₀ : Assign}

/-- The loop, from a state the invariant holds of whose node at
`nodeIter` passes the pipeline, over tasks of the group that no node
tracked at the start, keeps the invariant. The induction is on the
tasks left; `recheck` hands each next round a passing node. -/
theorem good_loop (nodeLess : NodeInfo → NodeInfo → Bool) (n : Nat)
    (hM : p.task.maxReplicas < 2 ^ 64)
    (hc₀ : ∀ k ni, a₀.nodeSet.lookup k = some ni →
      ni.activeTasksCountByService p.task.serviceID < 2 ^ 64)
    {ts : List Task} (hs : ∀ t ∈ ts, SameSpec p.task t)
    (hun : ∀ t ∈ ts, ∀ k ni, a₀.nodeSet.lookup k = some ni → t.id ∉ ni.tasks)
    {a : Assign} (hg : Good p a₀ a)
    (hpass : a.nodes[a.nodeIter % a.nodes.length]?.map p.process = some true) :
    Good p a₀ (scheduleNTasksOnNodes p nodeLess n ts a) := by
  induction ts generalizing a with
  | nil => exact hg
  | cons t ts ih =>
    have hs' : ∀ u ∈ ts, SameSpec p.task u := fun u hu => hs u (List.mem_cons_of_mem _ hu)
    have hun' : ∀ u ∈ ts, ∀ k ni, a₀.nodeSet.lookup k = some ni → u.id ∉ ni.tasks :=
      fun u hu => hun u (List.mem_cons_of_mem _ hu)
    unfold scheduleNTasksOnNodes
    split_ifs with hd
    · -- decided with an earlier group: skipped
      exact ih hs' hun' hg hpass
    · dsimp only
      split
      · exact hg
      · next node hi =>
        rw [hi, Option.map_some, Option.some.injEq] at hpass
        have hg' := hg.assign (hs t List.mem_cons_self) hd (hun t List.mem_cons_self) hi hpass
          hM hc₀
        -- name the assignment's result, then follow the loop's exits
        generalize assignTask t _ node a = r at hg' ⊢
        obtain ⟨nodeInfo, a'⟩ := r
        dsimp only
        split_ifs
        · exact hg'
        · split
          · exact hg'.moveIter _ _
          · next j failed hr =>
            exact ih hs' hun' (hg'.moveIter _ _) (recheck_passes p _ hr)

end Loop

-- ======================== the call

/-- `scheduleNTasksOnNodes` on the node list of a decision tree's leaf:
distinct nodes, each the node set's current `NodeInfo`, all passing the
pipeline (only the first is needed), and tasks of the group no node
tracks. Afterwards
every node is `Within` what it was: with `MaxReplicas` set, the
service's active count is at most the limit or what it already was, and
NanoCPUs and MemoryBytes are not negative or as they were; and no two
tasks decided in the call share a host port on a node. The counts and
the limit are in the range of their Go types. -/
theorem scheduleNTasksOnNodes_within_limits (p : Pipeline)
    (nodeLess : NodeInfo → NodeInfo → Bool) (n : Nat) (ts : List Task) (nodes : List NodeInfo)
    (nodeSet : NodeSet) (decisions : AList fun _ : Nat => Decision)
    (hgroup : ∀ t ∈ ts, SameSpec p.task t)
    (huntracked : ∀ t ∈ ts, ∀ k ni, nodeSet.lookup k = some ni → t.id ∉ ni.tasks)
    (hdistinct : (nodes.map (·.node.id)).Nodup)
    (hfresh : ∀ (i : Nat) (ni : NodeInfo), nodes[i]? = some ni → nodeSet.lookup ni.node.id = some ni)
    (hkeyed : ∀ k ni, nodeSet.lookup k = some ni → ni.node.id = k)
    (hfirst : nodes[0]?.map p.process = some true) (hM : p.task.maxReplicas < 2 ^ 64)
    (hcounts : ∀ k ni, nodeSet.lookup k = some ni →
      ni.activeTasksCountByService p.task.serviceID < 2 ^ 64) :
    let a := scheduleNTasksOnNodes p nodeLess n ts ⟨nodes, nodeSet, 0, [], decisions, 0⟩
    (∀ k ni, a.nodeSet.lookup k = some ni → ∃ ni₀, nodeSet.lookup k = some ni₀ ∧ Within p ni₀ ni) ∧
      ∀ id id' d d', id ≠ id' → id ∉ decisions → id' ∉ decisions →
        a.decisions.lookup id = some d → a.decisions.lookup id' = some d' →
        d.nodeID = d'.nodeID → ∀ q ∈ d.old.hostPorts, q ∉ d'.old.hostPorts := by
  intro a
  have hstart : (nodes[0 % nodes.length]?).map p.process = some true := by
    rw [Nat.zero_mod]
    exact hfirst
  have hg : Good p ⟨nodes, nodeSet, 0, [], decisions, 0⟩ a :=
    good_loop nodeLess n hM hcounts hgroup huntracked (Good.init hdistinct hfresh hkeyed) hstart
  refine ⟨hg.within, fun id id' d d' hne hn hn' hd hd' hk q hq _ => hne ?_⟩
  -- a shared port is a port of the group, and the group's tasks go one to a node
  have he : hostPortEnabled p.task = true := by
    rw [(hg.grouped id d hn hd).hostPorts] at hq
    simp [hostPortEnabled, List.ne_nil_of_mem hq]
  exact hg.unique he d.nodeID id id' ⟨hn, d, hd, rfl⟩ ⟨hn', d', hd', hk.symm⟩

/-- A task of service 1 at most one of which may run on a node. -/
def replica (id : Nat) : Task :=
  ⟨id, 1, .running, ⟨0, 0, []⟩, 1, [], []⟩

/-- A ready, active node with room to spare and no task. -/
def readyNode (id : Nat) : NodeInfo :=
  NodeInfo.empty ⟨id, .ready, .active, some []⟩ ⟨1000, 1000, []⟩

/-- The pipeline set for the replicas. -/
def replicaPipeline : Pipeline := ⟨replica 0, fun _ => true⟩

/-- Two replicas for one ready node: the first is placed, the second
fails `MaxReplicasFilter`, and the node stays within the limit. -/
theorem replicas_within_limits :
    let a := scheduleNTasksOnNodes replicaPipeline (fun _ _ => false) 2 [replica 5, replica 6]
      ⟨[readyNode 1], (∅ : NodeSet).insert 1 (readyNode 1), 0, [], ∅, 0⟩
    (∀ k ni, a.nodeSet.lookup k = some ni →
        ∃ ni₀, ((∅ : NodeSet).insert 1 (readyNode 1)).lookup k = some ni₀ ∧
          Within replicaPipeline ni₀ ni) ∧
      ∀ id id' d d', id ≠ id' → id ∉ (∅ : AList fun _ : Nat => Decision) →
        id' ∉ (∅ : AList fun _ : Nat => Decision) →
        a.decisions.lookup id = some d → a.decisions.lookup id' = some d' →
        d.nodeID = d'.nodeID → ∀ q ∈ d.old.hostPorts, q ∉ d'.old.hostPorts := by
  -- the one node of the set
  have hone : ∀ k ni, ((∅ : NodeSet).insert 1 (readyNode 1)).lookup k = some ni →
      k = 1 ∧ ni = readyNode 1 := by
    intro k ni h
    rcases AList.lookup_insert_eq_some h with hk | ⟨-, h⟩
    · exact hk
    · cases h
  refine scheduleNTasksOnNodes_within_limits replicaPipeline _ 2 _ _ _ _ ?_ ?_ (by decide) ?_ ?_
    rfl (by decide) ?_
  · intro t ht
    simp only [List.mem_cons, List.not_mem_nil, or_false] at ht
    rcases ht with rfl | rfl <;> exact ⟨rfl, rfl, rfl⟩
  · intro t _ k ni h
    rw [(hone k ni h).2]
    exact AList.notMem_empty _
  · intro i ni h
    rcases i with _ | i
    · cases h
      rfl
    · simp at h
  · intro k ni h
    obtain ⟨rfl, rfl⟩ := hone k ni h
    rfl
  · intro k ni h
    rw [(hone k ni h).2]
    decide

end SwarmKit.Scheduler.Fit

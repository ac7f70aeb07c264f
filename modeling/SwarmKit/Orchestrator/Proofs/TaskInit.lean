import SwarmKit.Orchestrator.TaskInit
import SwarmKit.Lib.Lts

/-
What a new leader's restart supervisor decides (`TaskInit.lean`).

# Counts

With a limit and no window, an entry of the history is a count of the
restarts of one spec version (`Counts`). A record of a task of that
version adds one (`recordRestartHistory_counts`), a record under
another tuple leaves the entry alone, and `shouldRestart` compares the
count with the limit (`shouldRestart_counts`).

# The rebuilt count

`CheckTasks` records all but the first task of the newest version of an
instance, so the rebuilt entry counts that many
(`rebuildInstance_counts`), whatever the other instances
(`rebuildHistory_counts`), and a new leader decides on a task of that
version by the number of its tasks of that version, minus one
(`shouldRestart_rebuilt`).

# Where the live count differs

The live supervisor counts the replacements `Restart` created for the
version. `Restart` creates the replacement from the service as it is
now, so when a task of the old version fails after the service was
updated, the first task of the new version is a replacement, counted
live but not rebuilt. With a limit of one, the old leader then stops
restarting the slot while a new leader restarts it once more
(`failover_forgets_restart`).
-/

namespace SwarmKit.Orchestrator

-- ========================== counts

/-- The history of `sid` and `tuple` counts `k` restarts of spec version
`v` and keeps no window list; an absent entry counts none. -/
def Counts (s : Supervisor) (sid : Nat) (tuple : SlotTuple) (v k : Nat) : Prop :=
  s.historyByService sid tuple = none ∧ k = 0 ∨ s.historyByService sid tuple = some ⟨k, none, v⟩

theorem Counts.congr {s s' : Supervisor} {sid : Nat} {tuple : SlotTuple} {v k : Nat}
    (h : s'.historyByService sid tuple = s.historyByService sid tuple) (hc : Counts s sid tuple v k) :
    Counts s' sid tuple v k := by
  unfold Counts
  rw [h]
  exact hc

theorem setHistory_ne {s : Supervisor} {sid sid' : Nat} {tuple tuple' : SlotTuple} {info : InstanceRestartInfo}
    (h : ¬ (sid' = sid ∧ tuple' = tuple)) :
    (s.setHistory sid tuple info).historyByService sid' tuple' = s.historyByService sid' tuple' := by
  simp only [Supervisor.setHistory, if_neg h]

/-- A record under another tuple leaves the entry alone. -/
theorem recordRestartHistory_ne {tuple tuple' : SlotTuple} (h : tuple' ≠ tuple) (t : Task) (now : Int)
    (s : Supervisor) (sid : Nat) :
    (recordRestartHistory tuple t now s).historyByService sid tuple' = s.historyByService sid tuple' := by
  unfold recordRestartHistory
  split
  · rfl
  · split
    · rfl
    · exact setHistory_ne fun h' => h h'.2

section
variable {p : RestartPolicy} {v : Nat}

/-- A record of a task of version `v`, under a limit with no window,
adds one to a count of that version. -/
theorem recordRestartHistory_counts {tuple : SlotTuple} {t : Task} {now : Int} {s : Supervisor} {k : Nat}
    (hp : t.restart = some p) (hmax : p.maxAttempts ≠ 0) (hwin : p.window = 0) (hv : t.specVersion = some v)
    (hc : Counts s t.serviceID tuple v k) : Counts (recordRestartHistory tuple t now s) t.serviceID tuple v (k + 1) := by
  right
  unfold recordRestartHistory
  rcases hc with ⟨hn, rfl⟩ | hs
  · -- a new entry starts at the task's version
    by_cases h0 : v = 0
    · simp [hp, hmax, hwin, hv, hn, h0, Supervisor.setHistory]
    · simp [hp, hmax, hwin, hv, hn, h0, Supervisor.setHistory]
  · simp [hp, hmax, hwin, hv, hs, Supervisor.setHistory]

theorem foldl_recordRestartHistory_counts {tuple : SlotTuple} (now : Int) {sid : Nat}
    (hmax : p.maxAttempts ≠ 0) (hwin : p.window = 0) :
    ∀ (l : List Task) (s : Supervisor) (k : Nat),
      (∀ t ∈ l, t.serviceID = sid ∧ t.restart = some p ∧ t.specVersion = some v) → Counts s sid tuple v k →
      Counts (l.foldl (fun s t => recordRestartHistory tuple t now s) s) sid tuple v (k + l.length)
  | [], _, _, _, hc => hc
  | t :: l, s, k, hl, hc => by
    obtain ⟨hsid, hp, hv⟩ := hl t List.mem_cons_self
    have hc' : Counts (recordRestartHistory tuple t now s) sid tuple v (k + 1) := by
      subst hsid
      exact recordRestartHistory_counts hp hmax hwin hv hc
    have := foldl_recordRestartHistory_counts now hmax hwin l _ (k + 1) (fun x hx => hl x (List.mem_cons_of_mem _ hx)) hc'
    rw [List.foldl_cons, List.length_cons]
    rwa [Nat.add_right_comm, Nat.add_assoc] at this

/-- With a limit and no window, a count of the task's version decides:
the task restarts while the count is below the limit. -/
theorem shouldRestart_counts {t : Task} {service : Service} {s : Supervisor} {k : Nat}
    (hp : t.restart = some p) (hmax : 0 < p.maxAttempts) (hwin : p.window = 0) (hv : t.specVersion = some v)
    (hc : Counts s t.serviceID (instanceTuple t service) v k) :
    (shouldRestart t service s).1 = (conditionAllows t service && decide (k < p.maxAttempts)) := by
  unfold shouldRestart
  cases hcond : conditionAllows t service
  · rfl
  · have hmax' : p.maxAttempts ≠ 0 := Nat.pos_iff_ne_zero.mp hmax
    rcases hc with ⟨hn, rfl⟩ | hs
    · simp [hp, hmax', hn, hmax]
    · simp [hp, hmax', hs, hv, hwin]

-- ===================== the rebuild

/-- The tasks of the newest version of an instance. -/
def upToDate (inst : List Task) : List Task := inst.filter (·.specVersion = some (maxSpecVersion inst))

/-- `rebuildInstance`, on the sorted tasks of the newest version. -/
theorem rebuildInstance_eq (now : Int) (s : Supervisor) (tuple : SlotTuple) (inst : List Task) :
    rebuildInstance now s tuple inst =
      if ((upToDate inst).mergeSort fun a b => !createdLess b a).length < 2 then s
      else (((upToDate inst).mergeSort fun a b => !createdLess b a).drop 1).foldl
        (fun s t => recordRestartHistory tuple t now s) s := rfl

/-- `CheckTasks` counts every task of the newest version of an instance
but the first. -/
theorem rebuildInstance_counts (now : Int) {s : Supervisor} {tuple : SlotTuple} {inst : List Task}
    (hup : ∀ t ∈ upToDate inst, t.serviceID = tuple.serviceID ∧ t.restart = some p)
    (hmax : p.maxAttempts ≠ 0) (hwin : p.window = 0) (hfresh : s.historyByService tuple.serviceID tuple = none) :
    Counts (rebuildInstance now s tuple inst) tuple.serviceID tuple (maxSpecVersion inst)
      ((upToDate inst).length - 1) := by
  have hperm := List.mergeSort_perm (upToDate inst) fun a b => !createdLess b a
  rw [rebuildInstance_eq]
  split
  · next hlt =>
      rw [hperm.length_eq] at hlt
      exact .inl ⟨hfresh, by omega⟩
  · next hge =>
      rw [hperm.length_eq] at hge
      -- each task recorded is one of the newest version
      have hl : ∀ t ∈ ((upToDate inst).mergeSort fun a b => !createdLess b a).drop 1,
          t.serviceID = tuple.serviceID ∧ t.restart = some p ∧ t.specVersion = some (maxSpecVersion inst) := by
        intro t ht
        have hmem : t ∈ upToDate inst := hperm.mem_iff.mp (List.mem_of_mem_drop ht)
        obtain ⟨hsid, hp⟩ := hup t hmem
        exact ⟨hsid, hp, of_decide_eq_true (List.mem_filter.mp hmem).2⟩
      have := foldl_recordRestartHistory_counts now hmax hwin _ s 0 hl (.inl ⟨hfresh, rfl⟩)
      rw [List.length_drop, hperm.length_eq, Nat.zero_add] at this
      exact this

theorem foldl_rebuildInstance_ne (now : Int) (sid : Nat) {tuple : SlotTuple} :
    ∀ (es : List (Σ _ : SlotTuple, List Task)) (s : Supervisor), tuple ∉ es.map (·.1) →
      (es.foldl (fun s e => rebuildInstance now s e.1 e.2) s).historyByService sid tuple =
        s.historyByService sid tuple
  | [], _, _ => rfl
  | e :: es, s, h => by
    have hne : tuple ≠ e.1 := fun h' => h (h' ▸ List.mem_cons_self)
    rw [List.foldl_cons, foldl_rebuildInstance_ne now sid es _ fun h' => h (List.mem_cons_of_mem _ h')]
    -- one instance's records are all under its own tuple
    rw [rebuildInstance_eq]
    split
    · rfl
    · exact foldl_ne hne _ _
where
  foldl_ne {tuple' : SlotTuple} (hne : tuple ≠ tuple') :
      ∀ (l : List Task) (s : Supervisor),
        (l.foldl (fun s t => recordRestartHistory tuple' t now s) s).historyByService sid tuple =
          s.historyByService sid tuple
    | [], _ => rfl
    | t :: l, s => by
      rw [List.foldl_cons, foldl_ne hne l, recordRestartHistory_ne hne]

/-- The rebuilt entry of an instance counts every task of its newest
version but the first, whatever the other instances. -/
theorem rebuildHistory_counts (now : Int) {instances : Instances} {tuple : SlotTuple} {inst : List Task}
    (hlook : instances.lookup tuple = some inst)
    (hup : ∀ t ∈ upToDate inst, t.serviceID = tuple.serviceID ∧ t.restart = some p)
    (hmax : p.maxAttempts ≠ 0) (hwin : p.window = 0) {s : Supervisor}
    (hfresh : s.historyByService tuple.serviceID tuple = none) :
    Counts (rebuildHistory now instances s) tuple.serviceID tuple (maxSpecVersion inst)
      ((upToDate inst).length - 1) := by
  have hmem : (⟨tuple, inst⟩ : Σ _ : SlotTuple, List Task) ∈ instances.entries :=
    List.mem_dlookup_iff instances.nodupKeys |>.mp hlook
  obtain ⟨pre, post, hsplit⟩ := List.append_of_mem hmem
  -- the instance's tuple is in neither part around it
  have hkeys := instances.nodupKeys
  rw [List.NodupKeys, hsplit, List.keys_append, List.keys_cons, List.nodup_append] at hkeys
  have hpre : tuple ∉ pre.map (·.1) := fun h => hkeys.2.2 tuple h tuple List.mem_cons_self rfl
  have hpost : tuple ∉ post.map (·.1) := (List.nodup_cons.mp hkeys.2.1).1
  have heq : rebuildHistory now instances s =
      post.foldl (fun s e => rebuildInstance now s e.1 e.2)
        (rebuildInstance now (pre.foldl (fun s e => rebuildInstance now s e.1 e.2) s) tuple inst) := by
    unfold rebuildHistory
    rw [hsplit, List.foldl_append, List.foldl_cons]
  rw [heq]
  apply Counts.congr (foldl_rebuildInstance_ne now _ post _ hpost)
  apply rebuildInstance_counts now hup hmax hwin
  rw [foldl_rebuildInstance_ne now _ pre _ hpre]
  exact hfresh

/-- A new leader's supervisor decides on a task of the newest version of
its instance as one that counted every task of that version but the
first as a restart. -/
theorem shouldRestart_rebuilt (now : Int) {instances : Instances} {t : Task} {service : Service}
    {inst : List Task} (hlook : instances.lookup (instanceTuple t service) = some inst)
    (hup : ∀ x ∈ upToDate inst, x.serviceID = t.serviceID ∧ x.restart = some p)
    (hp : t.restart = some p) (hmax : 0 < p.maxAttempts) (hwin : p.window = 0)
    (hv : t.specVersion = some (maxSpecVersion inst)) :
    (shouldRestart t service (rebuildHistory now instances Supervisor.new)).1 =
      (conditionAllows t service && decide ((upToDate inst).length - 1 < p.maxAttempts)) :=
  shouldRestart_counts hp hmax hwin hv
    (rebuildHistory_counts now hlook hup (Nat.pos_iff_ne_zero.mp hmax) hwin rfl)

end

namespace Replicated

open SwarmKit.Scheduler.Fit (Node)

-- =========================== a run

/-- Service 1 at spec version `v`: one replica, restarted on any exit at
most once, with no window. -/
def limitedService (v : Nat) : Service := ⟨1, .replicated 1, some ⟨.any, none, 1, 0⟩, some v, 0⟩

/-- Node 2, ready and active. -/
def readyNode : Node := ⟨2, .ready, .active, some []⟩

/-- Node 2 and nothing else. -/
def emptyCluster : World where
  store := ⟨∅, (∅ : Table Node).insert 2 readyNode, ∅, 10⟩
  sup := Supervisor.new
  queue := []
  restartTasks := []
  reconcileServices := ∅

/-- The orchestrator handles its next event, its batches committing. -/
def handleNext : LeaderAct := .orchestrator (.handle true (fun _ => true) 0)

/-- The service is created and its task 10 runs on node 2; the service
is updated to version 2; task 10 fails and is replaced by task 11, of
version 2, which starts and runs on node 2. -/
def updatedThenRestarted : List LeaderAct :=
  [.orchestrator (.setService (limitedService 1)), handleNext, handleNext, handleNext, handleNext,
    .orchestrator (.run 10 2), handleNext, handleNext,
    .orchestrator (.setService (limitedService 2)), handleNext, handleNext,
    .orchestrator (.fail 10), handleNext, handleNext, handleNext, handleNext, handleNext,
    .orchestrator (.finishDelay 11), handleNext, handleNext,
    .orchestrator (.run 11 2), handleNext, handleNext]

/-- Task 11 fails, and the orchestrator handles it. -/
def replacementFails : List LeaderAct := [.orchestrator (.fail 11), handleNext, handleNext]

/-- The store's tasks with their spec versions. -/
def taskVersions (w : World) : List (Nat × Option Nat) := w.store.tasks.entries.map fun e => (e.1, e.2.specVersion)

/-- After the slot's task of version 1 was replaced by one of version 2,
the leader does not replace the latter when it fails, while a new
leader after a failover does. -/
theorem failover_forgets_restart :
    (Lts.run leaderStep emptyCluster (updatedThenRestarted ++ replacementFails)).map taskVersions =
        some [(11, some 2), (10, some 1)] ∧
      (Lts.run leaderStep emptyCluster
          (updatedThenRestarted ++ .failover 0 true (fun _ => true) :: replacementFails)).map taskVersions =
        some [(12, some 2), (11, some 2), (10, some 1)] := by
  decide +kernel

end Replicated

end SwarmKit.Orchestrator

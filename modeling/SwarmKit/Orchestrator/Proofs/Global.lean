import SwarmKit.Orchestrator.Global
import SwarmKit.Orchestrator.Proofs.Reconcile
import Mathlib.Data.List.DropRight

/-
Per-service reconciliation of one node by the global orchestrator
(`Global.lean`).

# The result

`reconcileOneNode_per_service`: while no global service is rolling back,
the pass on an active node the orchestrator knows is the per-service
passes one after another, each computed as if its service were the only
global one. The first loop filters every entry again with each later
service; that changes nothing then, because what `UpdatableTasksInSlot`
keeps of a slot any other global service keeps again
(`Settled.refilter`), and the restart history it prunes on the way gives
the same answer the second time (`shouldRestart_keep`).

`rollback_elsewhere_restarts_task` is the case the hypothesis leaves
out. A service rolling back, ranged after a service whose only task on
the node has finished and is not to be restarted, deletes that service's
entry, and the batch then adds a new task for it; ranged before it, or
absent, it does not.

# The layers

- The supervisor: `shouldRestart` reads and writes only the history of
  the task's service (`shouldRestart_agree`, `shouldRestart_frame`),
  reads the service only through its mode (`shouldRestart_mode`), and a
  refusal stays a refusal (`shouldRestart_keep`).
- A slot: the same for `UpdatableTasksInSlot`, and `Settled`, the
  entries a second filtering keeps.
- The loops: the inner loop by key (`refilter_lookup`), one pass of the
  outer loop (`gatherService_step`) with its invariant `Gathered`, the
  whole loop (`gatherTasks_own_entry`), and the batch, which reads of the
  map only the service's own entry (`reconcileServiceOnNode_congr`).
-/

namespace SwarmKit.Orchestrator.Global

open SwarmKit.Scheduler (TaskState)
open SwarmKit.Scheduler.Fit (Node)

-- ================== the supervisor

/-- Two supervisors that keep one restart history for a service. -/
def AgreeOn (sid : Nat) (s₁ s₂ : Supervisor) : Prop :=
  s₁.historyByService sid = s₂.historyByService sid

theorem AgreeOn.symm {sid : Nat} {s₁ s₂ : Supervisor} (h : AgreeOn sid s₁ s₂) : AgreeOn sid s₂ s₁ :=
  Eq.symm h

theorem AgreeOn.trans {sid : Nat} {s₁ s₂ s₃ : Supervisor} (h₁ : AgreeOn sid s₁ s₂)
    (h₂ : AgreeOn sid s₂ s₃) : AgreeOn sid s₁ s₃ :=
  Eq.trans h₁ h₂

theorem AgreeOn.setHistory {sid : Nat} {s₁ s₂ : Supervisor} (h : AgreeOn sid s₁ s₂) (sid' : Nat)
    (tuple : SlotTuple) (info : InstanceRestartInfo) :
    AgreeOn sid (s₁.setHistory sid' tuple info) (s₂.setHistory sid' tuple info) := by
  unfold AgreeOn at h ⊢
  funext k
  simp only [Supervisor.setHistory, h]

theorem shouldRestart_mode {svc₁ svc₂ : Service} (h : svc₁.mode = svc₂.mode) (t : Task)
    (s : Supervisor) : shouldRestart t svc₁ s = shouldRestart t svc₂ s := by
  have hc : conditionAllows t svc₁ = conditionAllows t svc₂ := by
    simp only [conditionAllows, Service.isReplicatedJob, Service.isGlobalJob, h]
  have hi : instanceTuple t svc₁ = instanceTuple t svc₂ := by
    unfold instanceTuple Service.isGlobalService
    rw [h]
  simp only [shouldRestart, hc, hi]

theorem shouldRestart_agree {t : Task} (svc : Service) {s₁ s₂ : Supervisor}
    (h : AgreeOn t.serviceID s₁ s₂) :
    (shouldRestart t svc s₁).1 = (shouldRestart t svc s₂).1 ∧
      AgreeOn t.serviceID (shouldRestart t svc s₁).2 (shouldRestart t svc s₂).2 := by
  have h' := h
  unfold AgreeOn at h'
  unfold shouldRestart
  dsimp only
  rw [h']
  repeat' split
  all_goals first | exact ⟨rfl, h⟩ | exact ⟨rfl, h.setHistory _ _ _⟩

/-- `shouldRestart` writes no history but the task's service's. -/
theorem shouldRestart_frame {t : Task} {svc : Service} {sid : Nat} (h : sid ≠ t.serviceID)
    (s : Supervisor) : AgreeOn sid (shouldRestart t svc s).2 s := by
  unfold shouldRestart
  dsimp only
  repeat' split
  all_goals first | rfl | (funext k; simp [Supervisor.setHistory, h])

theorem windowCount_kept {insts kept : List Int} {ts : Int} {w : Nat}
    (h : (windowCount insts ts w).2 = some kept) : windowCount kept ts w = windowCount insts ts w := by
  have hk : kept = insts.dropWhile fun r => r ≤ ts - w := by
    unfold windowCount at h
    dsimp only at h
    split at h
    · cases h
    · exact (Option.some.inj h).symm
  subst hk
  simp only [windowCount, List.dropWhile_idempotent]

/-- A count that reaches the limit keeps a non-empty list. -/
theorem windowCount_some {insts : List Int} {ts : Int} {w m : Nat} (hm : 0 < m)
    (h : ¬ (windowCount insts ts w).1 < m) : ∃ kept, (windowCount insts ts w).2 = some kept := by
  unfold windowCount at h ⊢
  dsimp only at h ⊢
  split
  · rename_i he
    simp [he] at h
    omega
  · exact ⟨_, rfl⟩

theorem shouldRestart_keep {t : Task} {svc : Service} {s s' : Supervisor}
    (h : shouldRestart t svc s = (false, s')) : (shouldRestart t svc s').1 = false := by
  unfold shouldRestart at h ⊢
  dsimp only at h ⊢
  repeat' split at h
  -- every branch but the pruning one leaves the supervisor as it was
  any_goals simp_all
  -- the pruning one: what is kept prunes to itself
  obtain ⟨hle, rfl⟩ := h
  obtain ⟨kept, hk⟩ := windowCount_some (Nat.pos_of_ne_zero ‹_›) (Nat.not_lt.mpr hle)
  simp [Supervisor.setHistory, windowCount_kept hk, *]

-- ========================== a slot

theorem GlobalService.mode (c : GlobalService) : c.service.mode = .global := by
  have h := c.global
  revert h
  unfold Service.isGlobalService
  cases c.service.mode <;> simp

/-- With no rollback under way the service's status is not read. -/
theorem updatableTasksInSlot_steady {c : GlobalService} (hc : c.updateStatus ≠ some .rollbackStarted)
    (slot : List Task) (s : Supervisor) :
    updatableTasksInSlot slot c s = Replicated.updatableTasksInSlot slot c.service s := by
  unfold updatableTasksInSlot
  rw [if_neg fun h => hc h.1]

theorem updatableTasksInSlot_sub (slot : List Task) (c : GlobalService) (s : Supervisor) :
    ∀ t ∈ (updatableTasksInSlot slot c s).1, t ∈ slot := by
  unfold updatableTasksInSlot
  split
  · intro t ht
    cases ht
  · exact (Replicated.updatableTasksInSlot_mem slot c.service s).1

theorem updatableTasksInSlot_of_running {slot : List Task}
    (h : slot.filter (·.desiredState.rank ≤ TaskState.running.rank) ≠ []) (svc : Service) (s : Supervisor) :
    Replicated.updatableTasksInSlot slot svc s = (slot.filter (·.desiredState.rank ≤ TaskState.running.rank), s) := by
  unfold Replicated.updatableTasksInSlot
  split
  · rfl
  · dsimp only
    rw [if_pos (by simpa using h)]

/-- With no task desired to run, the newest task of the slot decides. -/
theorem updatableTasksInSlot_of_stopped {t : Task} {ts : List Task}
    (h : (t :: ts).filter (·.desiredState.rank ≤ TaskState.running.rank) = []) (svc : Service) (s : Supervisor) :
    Replicated.updatableTasksInSlot (t :: ts) svc s =
      (if (shouldRestart (Replicated.newestTask t ts) svc s).1 then [] else [Replicated.newestTask t ts],
        (shouldRestart (Replicated.newestTask t ts) svc s).2) := by
  unfold Replicated.updatableTasksInSlot
  dsimp only
  rw [if_neg (by simp [h])]
  rcases shouldRestart (Replicated.newestTask t ts) svc s with ⟨_ | _, s'⟩ <;> rfl

section Slot
variable {slot : List Task} {sid : Nat}

theorem updatableTasksInSlot_agree (hslot : ∀ t ∈ slot, t.serviceID = sid) (c : GlobalService)
    {s₁ s₂ : Supervisor} (h : AgreeOn sid s₁ s₂) :
    (updatableTasksInSlot slot c s₁).1 = (updatableTasksInSlot slot c s₂).1 ∧
      AgreeOn sid (updatableTasksInSlot slot c s₁).2 (updatableTasksInSlot slot c s₂).2 := by
  unfold updatableTasksInSlot
  split
  · exact ⟨rfl, h⟩
  · match slot, hslot with
    | [], _ => exact ⟨rfl, h⟩
    | t :: ts, hslot =>
      by_cases hrun : (t :: ts).filter (·.desiredState.rank ≤ TaskState.running.rank) = []
      · rw [updatableTasksInSlot_of_stopped hrun, updatableTasksInSlot_of_stopped hrun]
        have hsid := hslot _ (Replicated.newestTask_mem t ts)
        obtain ⟨h1, h2⟩ := shouldRestart_agree (t := Replicated.newestTask t ts) c.service
          (by rw [hsid]; exact h)
        rw [hsid] at h2
        exact ⟨by rw [h1], h2⟩
      · rw [updatableTasksInSlot_of_running hrun, updatableTasksInSlot_of_running hrun]
        exact ⟨rfl, h⟩

/-- Filtering a slot writes no history but its service's. -/
theorem updatableTasksInSlot_frame (hslot : ∀ t ∈ slot, t.serviceID = sid) (c : GlobalService)
    {sid' : Nat} (hne : sid' ≠ sid) (s : Supervisor) :
    AgreeOn sid' (updatableTasksInSlot slot c s).2 s := by
  unfold updatableTasksInSlot
  split
  · rfl
  · match slot, hslot with
    | [], _ => rfl
    | t :: ts, hslot =>
      by_cases hrun : (t :: ts).filter (·.desiredState.rank ≤ TaskState.running.rank) = []
      · rw [updatableTasksInSlot_of_stopped hrun]
        exact shouldRestart_frame (by rw [hslot _ (Replicated.newestTask_mem t ts)]; exact hne) s
      · rw [updatableTasksInSlot_of_running hrun]
        rfl

end Slot

-- ================= settled entries

/-- An entry the first loop keeps as it is: tasks desired to run, or the
one task, not desired to run, of a slot whose newest task is not to be
restarted. -/
def Settled (e : List Task) (s : Supervisor) : Prop :=
  (e ≠ [] ∧ ∀ t ∈ e, t.desiredState.rank ≤ TaskState.running.rank) ∨
    ∃ t, e = [t] ∧ ¬ t.desiredState.rank ≤ TaskState.running.rank ∧
      ∀ svc : Service, svc.mode = .global → (shouldRestart t svc s).1 = false

section Settled
variable {e : List Task} {s : Supervisor}

theorem Settled.ne_nil (h : Settled e s) : e ≠ [] := by
  rcases h with ⟨hne, -⟩ | ⟨t, rfl, -⟩
  · exact hne
  · exact List.cons_ne_nil t []

theorem Settled.agree {sid : Nat} (hown : ∀ t ∈ e, t.serviceID = sid) {s' : Supervisor}
    (h : AgreeOn sid s s') (hs : Settled e s) : Settled e s' := by
  rcases hs with hrun | ⟨t, rfl, hstop, hkeep⟩
  · exact .inl hrun
  · refine .inr ⟨t, rfl, hstop, fun svc hsvc => ?_⟩
    have hsid : AgreeOn t.serviceID s s' := by
      rw [hown t List.mem_cons_self]
      exact h
    rw [← (shouldRestart_agree svc hsid).1]
    exact hkeep svc hsvc

/-- A settled entry filtered again with a service that is not rolling
back comes out as it was, and settled. -/
theorem Settled.refilter (hs : Settled e s) {c : GlobalService}
    (hc : c.updateStatus ≠ some .rollbackStarted) :
    (updatableTasksInSlot e c s).1 = e ∧ Settled e (updatableTasksInSlot e c s).2 := by
  rw [updatableTasksInSlot_steady hc]
  rcases hs with ⟨hne, hrun⟩ | ⟨t, rfl, hstop, hkeep⟩
  · have hfilter : e.filter (·.desiredState.rank ≤ TaskState.running.rank) = e :=
      List.filter_eq_self.mpr fun t ht => decide_eq_true (hrun t ht)
    rw [updatableTasksInSlot_of_running (by rw [hfilter]; exact hne), hfilter]
    exact ⟨rfl, .inl ⟨hne, hrun⟩⟩
  · have hnone : [t].filter (·.desiredState.rank ≤ TaskState.running.rank) = [] := by
      simp [hstop]
    have hfalse := hkeep c.service c.mode
    have hnew : Replicated.newestTask t [] = t := rfl
    rw [updatableTasksInSlot_of_stopped hnone]
    simp only [hnew, hfalse, Bool.false_eq_true, if_false, true_and]
    refine .inr ⟨t, rfl, hstop, fun svc hsvc => ?_⟩
    rw [shouldRestart_mode (hsvc.trans c.mode.symm)]
    exact shouldRestart_keep (Prod.ext hfalse rfl)

/-- What a service that is not rolling back keeps of a slot is settled. -/
theorem updatableTasksInSlot_settled {slot : List Task} {c : GlobalService}
    (hc : c.updateStatus ≠ some .rollbackStarted) (hne : (updatableTasksInSlot slot c s).1 ≠ []) :
    Settled (updatableTasksInSlot slot c s).1 (updatableTasksInSlot slot c s).2 := by
  rw [updatableTasksInSlot_steady hc] at hne ⊢
  match slot with
  | [] => exact absurd rfl hne
  | t :: ts =>
    by_cases hrun : (t :: ts).filter (·.desiredState.rank ≤ TaskState.running.rank) = []
    · rw [updatableTasksInSlot_of_stopped hrun] at hne ⊢
      have hstop : ¬ (Replicated.newestTask t ts).desiredState.rank ≤ TaskState.running.rank := by
        intro h
        have := List.filter_eq_nil_iff.mp hrun _ (Replicated.newestTask_mem t ts)
        exact this (decide_eq_true h)
      cases hb : (shouldRestart (Replicated.newestTask t ts) c.service s).1
      · refine .inr ⟨_, by simp, hstop, fun svc hsvc => ?_⟩
        rw [shouldRestart_mode (hsvc.trans c.mode.symm)]
        exact shouldRestart_keep (Prod.ext hb rfl)
      · simp [hb] at hne
    · rw [updatableTasksInSlot_of_running hrun] at hne ⊢
      exact .inl ⟨hne, fun t ht => of_decide_eq_true (List.mem_filter.mp ht).2⟩

end Settled

-- ======================= the loops

/-- The entry a filtered slot leaves in the map. -/
def entryOf (u : List Task) : Option (List Task) := if u.isEmpty then none else some u

theorem entryOf_eq_some {u e : List Task} (h : entryOf u = some e) : u = e ∧ e ≠ [] := by
  unfold entryOf at h
  split at h
  · cases h
  · next hne =>
    cases h
    exact ⟨rfl, fun he => hne (by simp [he])⟩

theorem entryOf_of_ne_nil {e : List Task} (h : e ≠ []) : entryOf e = some e := by
  simp [entryOf, h]

theorem appendTasks_lookup (id : Nat) (l : List Task) (m : Table (List Task)) (k : Nat) :
    (appendTasks id l m).lookup k =
      if k = id ∧ l.filter (·.serviceID = id) ≠ [] then
        some ((m.lookup id).getD [] ++ l.filter (·.serviceID = id))
      else m.lookup k := by
  induction l generalizing m with
  | nil => simp [appendTasks]
  | cons t l ih =>
    have hstep : appendTasks id (t :: l) m = appendTasks id l
        (if t.serviceID ≠ id then m else m.insert id ((m.lookup id).getD [] ++ [t])) := rfl
    rw [hstep, ih]
    by_cases ht : t.serviceID = id
    · by_cases hk : k = id
      · subst hk
        by_cases hl : l.filter (·.serviceID = k) = [] <;> simp [ht, hl, AList.lookup_insert]
      · simp [ht, hk, AList.lookup_insert_ne hk]
    · simp [ht]

/-- The inner loop over the entries `L` of the map: every entry visited
is the service's filter of it, and every other key keeps its entry and
its history. -/
theorem foldl_refilterSlot (c : GlobalService) :
    ∀ (L : List (Σ _ : Nat, List Task)) (m : Table (List Task)) (s : Supervisor),
      L.NodupKeys → (∀ e ∈ L, ∀ t ∈ e.2, t.serviceID = e.1) →
      (∀ k ∉ L.keys, (L.foldl (refilterSlot c) (m, s)).1.lookup k = m.lookup k ∧
        AgreeOn k (L.foldl (refilterSlot c) (m, s)).2 s) ∧
      ∀ e ∈ L, (L.foldl (refilterSlot c) (m, s)).1.lookup e.1 = entryOf (updatableTasksInSlot e.2 c s).1 ∧
        AgreeOn e.1 (L.foldl (refilterSlot c) (m, s)).2 (updatableTasksInSlot e.2 c s).2
  | [], _, _, _, _ => ⟨fun _ _ => ⟨rfl, rfl⟩, fun _ he => (by cases he)⟩
  | e₀ :: L, m, s, hnd, hown => by
    obtain ⟨he₀, hnd⟩ := List.nodupKeys_cons.mp hnd
    have hown₀ := hown e₀ List.mem_cons_self
    have hownL : ∀ e ∈ L, ∀ t ∈ e.2, t.serviceID = e.1 := fun e he => hown e (List.mem_cons_of_mem _ he)
    -- the entry `e₀` is visited first, then the rest from what it left
    set m' := if (updatableTasksInSlot e₀.2 c s).1.isEmpty then m.erase e₀.1
      else m.insert e₀.1 (updatableTasksInSlot e₀.2 c s).1 with hm'
    have hfold : (e₀ :: L).foldl (refilterSlot c) (m, s) =
        L.foldl (refilterSlot c) (m', (updatableTasksInSlot e₀.2 c s).2) := rfl
    have hm'_ne : ∀ k ≠ e₀.1, m'.lookup k = m.lookup k := by
      intro k hk
      rw [hm']
      split
      · exact AList.lookup_erase_ne hk
      · exact AList.lookup_insert_ne hk
    have hm'_self : m'.lookup e₀.1 = entryOf (updatableTasksInSlot e₀.2 c s).1 := by
      rw [hm', entryOf]
      split
      · exact AList.lookup_erase _ _
      · exact AList.lookup_insert _
    obtain ⟨ihout, ihin⟩ := foldl_refilterSlot c L m' _ hnd hownL
    rw [hfold]
    refine ⟨fun k hk => ?_, fun e he => ?_⟩
    · rw [List.keys_cons, List.mem_cons, not_or] at hk
      obtain ⟨hout, hrest⟩ := ihout k hk.2
      exact ⟨hout.trans (hm'_ne k hk.1), hrest.trans (updatableTasksInSlot_frame hown₀ c hk.1 s)⟩
    · rcases List.mem_cons.mp he with rfl | he
      · exact ihout e.1 he₀
          |>.imp (fun h => h.trans hm'_self) id
      · have hne : e.1 ≠ e₀.1 := fun h => he₀ (h ▸ List.mem_keys_of_mem he)
        have hagree := updatableTasksInSlot_agree (hownL e he) c
          (updatableTasksInSlot_frame hown₀ c hne s)
        obtain ⟨hin, hhist⟩ := ihin e he
        exact ⟨hin.trans (by rw [hagree.1]), hhist.trans hagree.2⟩

theorem updatableTasksInSlot_nil (c : GlobalService) (s : Supervisor) :
    (updatableTasksInSlot [] c s).1 = [] := by
  unfold updatableTasksInSlot
  split <;> rfl

/-- A map each of whose entries holds tasks of the service it is under. -/
def Owned (m : Table (List Task)) : Prop :=
  ∀ k e, m.lookup k = some e → ∀ t ∈ e, t.serviceID = k

/-- The inner loop read by key: a key without an entry keeps none and
its history, and an entry becomes the service's filter of it. -/
theorem refilter_lookup {m : Table (List Task)} (hm : Owned m) (c : GlobalService) (s : Supervisor)
    (k : Nat) :
    (m.lookup k = none → (m.entries.foldl (refilterSlot c) (m, s)).1.lookup k = none ∧
        AgreeOn k (m.entries.foldl (refilterSlot c) (m, s)).2 s) ∧
      ∀ e, m.lookup k = some e →
        (m.entries.foldl (refilterSlot c) (m, s)).1.lookup k = entryOf (updatableTasksInSlot e c s).1 ∧
          AgreeOn k (m.entries.foldl (refilterSlot c) (m, s)).2 (updatableTasksInSlot e c s).2 := by
  have hown : ∀ e ∈ m.entries, ∀ t ∈ e.2, t.serviceID = e.1 := fun e he =>
    hm e.1 e.2 (AList.mem_lookup_iff.mpr he)
  obtain ⟨hout, hin⟩ := foldl_refilterSlot c m.entries m s m.nodupKeys hown
  refine ⟨fun hk => ?_, fun e he => hin ⟨k, e⟩ (AList.mem_lookup_iff.mp he)⟩
  have hnot : k ∉ m.entries.keys := fun h => AList.lookup_eq_none.mp hk (AList.mem_keys.mpr h)
  obtain ⟨h1, h2⟩ := hout k hnot
  exact ⟨h1.trans hk, h2⟩

/-- The map of the first loop between two services: entries held by
their own service's tasks and settled, and none yet for the services to
come, whose histories are as the pass found them. -/
structure Gathered (rest : List GlobalService) (sup₀ : Supervisor) (m : Table (List Task))
    (s : Supervisor) : Prop where
  owned : Owned m
  settled : ∀ k e, m.lookup k = some e → Settled e s
  fresh : ∀ c ∈ rest, m.lookup c.service.id = none ∧ AgreeOn c.service.id s sup₀

section Step
variable (l : List Task) {c : GlobalService} {rest : List GlobalService} {sup₀ : Supervisor}
  {m : Table (List Task)} {s : Supervisor}

/-- Appending the service's tasks opens its entry and touches no other. -/
theorem appendTasks_fresh (hm : m.lookup c.service.id = none) (k : Nat) :
    (appendTasks c.service.id l m).lookup k =
      if k = c.service.id ∧ l.filter (·.serviceID = c.service.id) ≠ [] then
        some (l.filter (·.serviceID = c.service.id))
      else m.lookup k := by
  rw [appendTasks_lookup, hm]
  rfl

theorem appendTasks_owned (hm : Owned m) (hfresh : m.lookup c.service.id = none) :
    Owned (appendTasks c.service.id l m) := by
  intro k e he t ht
  rw [appendTasks_fresh l hfresh] at he
  split at he
  · next hk =>
    cases he
    rw [hk.1]
    exact of_decide_eq_true (List.mem_filter.mp ht).2
  · exact hm k e he t ht

/-- One pass of the outer loop with a service that is not rolling back:
its entry is its own filter of its own tasks, with the history the pass
found; the other entries stay; and the map is gathered for the services
after it. -/
theorem gatherService_step (hnd : c.service.id ∉ rest.map (·.service.id))
    (hc : c.updateStatus ≠ some .rollbackStarted) (hg : Gathered (c :: rest) sup₀ m s) :
    (gatherService l (m, s) c).1.lookup c.service.id =
        entryOf (updatableTasksInSlot (l.filter (·.serviceID = c.service.id)) c sup₀).1 ∧
      (∀ k ≠ c.service.id, (gatherService l (m, s) c).1.lookup k = m.lookup k) ∧
      Gathered rest sup₀ (gatherService l (m, s) c).1 (gatherService l (m, s) c).2 := by
  obtain ⟨hfresh, hhist⟩ := hg.fresh c List.mem_cons_self
  have happ := appendTasks_fresh l hfresh
  have hr := refilter_lookup (appendTasks_owned l hg.owned hfresh) c s
  have hgs : gatherService l (m, s) c =
      (appendTasks c.service.id l m).entries.foldl (refilterSlot c) (appendTasks c.service.id l m, s) := rfl
  rw [hgs]
  -- an entry of the services before stays, settled
  have hold : ∀ k ≠ c.service.id, ∀ e, m.lookup k = some e →
      ((appendTasks c.service.id l m).entries.foldl (refilterSlot c) (appendTasks c.service.id l m, s)).1.lookup k = some e ∧
      Settled e ((appendTasks c.service.id l m).entries.foldl (refilterSlot c) (appendTasks c.service.id l m, s)).2 := by
    intro k hk e he
    have he₁ : (appendTasks c.service.id l m).lookup k = some e := by
      rw [happ, if_neg fun h => hk h.1, he]
    obtain ⟨hkeep, hset⟩ := (hg.settled k e he).refilter hc
    obtain ⟨h1, h2⟩ := (hr k).2 e he₁
    rw [hkeep, entryOf_of_ne_nil (hg.settled k e he).ne_nil] at h1
    exact ⟨h1, hset.agree (hg.owned k e he) h2.symm⟩
  have hrest : ∀ k ≠ c.service.id,
      ((appendTasks c.service.id l m).entries.foldl (refilterSlot c) (appendTasks c.service.id l m, s)).1.lookup k = m.lookup k := by
    intro k hk
    cases he : m.lookup k with
    | none => exact ((hr k).1 (by rw [happ, if_neg fun h => hk h.1, he])).1
    | some e => exact (hold k hk e he).1
  set own := l.filter (·.serviceID = c.service.id) with hown_def
  set r := (appendTasks c.service.id l m).entries.foldl (refilterSlot c) (appendTasks c.service.id l m, s)
  -- the service's own entry: its filter of its own tasks, if any
  have hself : own ≠ [] → r.1.lookup c.service.id = entryOf (updatableTasksInSlot own c s).1 ∧
      AgreeOn c.service.id r.2 (updatableTasksInSlot own c s).2 := fun hne =>
    (hr c.service.id).2 own (by rw [happ, if_pos ⟨rfl, hne⟩])
  have hnone : own = [] → r.1.lookup c.service.id = none := fun he =>
    ((hr c.service.id).1 (by rw [happ, if_neg fun h => h.2 he, hfresh])).1
  have hsub : ∀ t ∈ (updatableTasksInSlot own c s).1, t.serviceID = c.service.id := fun t ht =>
    of_decide_eq_true (List.mem_filter.mp (updatableTasksInSlot_sub own c s t ht)).2
  have hmine : ∀ e, r.1.lookup c.service.id = some e →
      e = (updatableTasksInSlot own c s).1 ∧ e ≠ [] ∧ AgreeOn c.service.id r.2 (updatableTasksInSlot own c s).2 := by
    intro e he
    by_cases hne : own = []
    · rw [hnone hne] at he
      cases he
    · obtain ⟨h1, h2⟩ := hself hne
      obtain ⟨rfl, hne'⟩ := entryOf_eq_some (h1 ▸ he)
      exact ⟨rfl, hne', h2⟩
  refine ⟨?_, hrest, ⟨?_, ?_, ?_⟩⟩
  · by_cases hne : own = []
    · rw [hnone hne, hne, updatableTasksInSlot_nil]
      rfl
    · have hsvc : ∀ t ∈ own, t.serviceID = c.service.id := fun t ht =>
        of_decide_eq_true (List.mem_filter.mp ht).2
      rw [(hself hne).1, (updatableTasksInSlot_agree hsvc c hhist).1]
  · intro k e he
    by_cases hk : k = c.service.id
    · subst hk
      obtain ⟨rfl, -, -⟩ := hmine e he
      exact hsub
    · rw [hrest k hk] at he
      exact hg.owned k e he
  · intro k e he
    by_cases hk : k = c.service.id
    · subst hk
      obtain ⟨rfl, hne, hagree⟩ := hmine e he
      exact (updatableTasksInSlot_settled hc hne).agree hsub hagree.symm
    · rw [hrest k hk] at he
      exact (hold k hk e he).2
  · intro c' hc'
    have hne : c'.service.id ≠ c.service.id := fun h => hnd (h ▸ List.mem_map_of_mem hc')
    obtain ⟨hnil, hagree⟩ := hg.fresh c' (List.mem_cons_of_mem _ hc')
    refine ⟨(hrest _ hne).trans hnil, ?_⟩
    have hm₁ : (appendTasks c.service.id l m).lookup c'.service.id = none := by
      rw [happ, if_neg fun h => hne h.1, hnil]
    exact ((hr c'.service.id).1 hm₁).2.trans hagree

end Step

/-- The outer loop over the services still to come, none rolling back:
each gets its own entry, and every other key keeps the one it had. -/
theorem foldl_gatherService (l : List Task) (sup₀ : Supervisor) :
    ∀ (rest : List GlobalService) (m : Table (List Task)) (s : Supervisor),
      (rest.map (·.service.id)).Nodup → (∀ c ∈ rest, c.updateStatus ≠ some .rollbackStarted) →
      Gathered rest sup₀ m s →
      (∀ c ∈ rest, (rest.foldl (gatherService l) (m, s)).1.lookup c.service.id =
        entryOf (updatableTasksInSlot (l.filter (·.serviceID = c.service.id)) c sup₀).1) ∧
      ∀ k ∉ rest.map (·.service.id), (rest.foldl (gatherService l) (m, s)).1.lookup k = m.lookup k
  | [], _, _, _, _, _ => ⟨fun _ h => (by cases h), fun _ _ => rfl⟩
  | c :: rest, m, s, hnd, hsteady, hg => by
    rw [List.map_cons, List.nodup_cons] at hnd
    obtain ⟨hown, hother, hg'⟩ := gatherService_step l hnd.1 (hsteady c List.mem_cons_self) hg
    obtain ⟨ihin, ihout⟩ := foldl_gatherService l sup₀ rest _ _ hnd.2
      (fun c' h => hsteady c' (List.mem_cons_of_mem _ h)) hg'
    refine ⟨fun c' hc' => ?_, fun k hk => ?_⟩
    · rcases List.mem_cons.mp hc' with rfl | hc'
      · exact (ihout _ hnd.1).trans hown
      · exact ihin c' hc'
    · rw [List.map_cons, List.mem_cons, not_or] at hk
      exact (ihout k hk.2).trans (hother k hk.1)

/-- With no global service rolling back, the first loop leaves each
service the entry it would have alone: `UpdatableTasksInSlot` of its own
tasks on the node, from the supervisor the pass started with. -/
theorem gatherTasks_own_entry (l : List Task) {services : List GlobalService} (sup₀ : Supervisor)
    (hnd : (services.map (·.service.id)).Nodup)
    (hsteady : ∀ c ∈ services, c.updateStatus ≠ some .rollbackStarted) {c : GlobalService}
    (hc : c ∈ services) :
    (gatherTasks l services sup₀).1.lookup c.service.id =
      entryOf (updatableTasksInSlot (l.filter (·.serviceID = c.service.id)) c sup₀).1 := by
  have hstart : Gathered services sup₀ ∅ sup₀ :=
    ⟨fun k e h => by simp at h, fun k e h => by simp at h, fun c _ => ⟨AList.lookup_empty _, rfl⟩⟩
  exact (foldl_gatherService l sup₀ services ∅ sup₀ hnd hsteady hstart).1 c hc

section Batch
variable (isTaskDirty : Service → Task → Node → Bool) (nodeMatches : Service → Node → Bool)
  (now : Int) (node : Node)

/-- The batch reads of the map only the service's own entry: an empty
map has no entry for it either, and an empty entry adds a task too. -/
theorem reconcileServiceOnNode_congr {tasks₁ tasks₂ : Table (List Task)} {c : GlobalService}
    (h : tasks₁.lookup c.service.id = tasks₂.lookup c.service.id) (st : Store) :
    reconcileServiceOnNode isTaskDirty nodeMatches now node tasks₁ st c =
      reconcileServiceOnNode isTaskDirty nodeMatches now node tasks₂ st c := by
  have hnil : ∀ tasks : Table (List Task), tasks.entries.isEmpty = true →
      tasks.lookup c.service.id = none := by
    intro tasks he
    rw [AList.lookup_eq_none, AList.mem_keys, AList.keys, List.isEmpty_iff.mp he]
    exact List.not_mem_nil
  unfold reconcileServiceOnNode
  by_cases h₁ : tasks₁.entries.isEmpty <;> by_cases h₂ : tasks₂.entries.isEmpty
  · simp only [h₁, h₂, if_true]
  · have := hnil tasks₁ h₁
    simp [h₁, h₂, ← h, this, shutdownTasks]
  · have := hnil tasks₂ h₂
    simp [h₁, h₂, h, this, shutdownTasks]
  · simp only [h₁, h₂, h, Bool.false_eq_true, if_false]

/-- With no global service rolling back, the pass on an active node the
orchestrator knows is the services' passes one after another, each
computed as if the service were the only global one. -/
theorem reconcileOneNode_per_service (g : World) (n : Node)
    (hactive : node.availability = .active) (hup : node.state ≠ .down)
    (hknown : g.nodes.lookup node.id = some n)
    (hsteady : ∀ c ∈ g.globalServices, c.updateStatus ≠ some .rollbackStarted) :
    (reconcileOneNode isTaskDirty nodeMatches now node g).store =
      g.globalServices.foldl (fun st c => reconcileServiceOnNode isTaskDirty nodeMatches now n
        (gatherTasks (g.store.findTasksByNode n.id) [c] g.restarts).1 st c) g.store := by
  unfold reconcileOneNode
  rw [if_neg (by rw [hactive]; decide), if_neg hup, if_neg (by rw [hactive]; decide), hknown]
  refine List.foldl_ext _ _ _ fun st c hc => reconcileServiceOnNode_congr isTaskDirty nodeMatches now n ?_ st
  have hone : [c].map (·.service.id) = [c.service.id] := rfl
  rw [gatherTasks_own_entry _ _ g.nodup hsteady hc,
    gatherTasks_own_entry _ _ (by rw [hone]; exact List.nodup_singleton _)
      (fun c' h => by rw [List.mem_singleton.mp h]; exact hsteady c hc) (List.mem_singleton_self c)]

end Batch

-- ======================== the runs

/-- A restart policy that never restarts. -/
def noRestart : RestartPolicy := ⟨.none, none, 0, 0⟩

def webA : Service := ⟨1, .global, some noRestart, some 1, 0⟩

def webB : Service := ⟨2, .global, none, some 1, 0⟩

/-- An active, ready node. -/
def nodeN : Node := ⟨7, .ready, .active, some []⟩

/-- `webA`'s task on the node: it completed, and its policy kept it from
being restarted, so it is desired to shut down. -/
def finishedA : Task :=
  ⟨3, webA.id, 0, nodeN.id, .shutdown, .complete, some 10, none, some noRestart, some 1, none, none⟩

def storeN : Store :=
  ⟨(∅ : Table Task).insert 3 finishedA, (∅ : Table Node).insert 7 nodeN,
    ((∅ : Table Service).insert 1 webA).insert 2 webB, 10⟩

def steadyA : GlobalService := ⟨webA, none, rfl⟩

def steadyB : GlobalService := ⟨webB, none, rfl⟩

def rollingB : GlobalService := ⟨webB, some .rollbackStarted, rfl⟩

def worldN (services : List GlobalService) (h : (services.map (·.service.id)).Nodup) : World :=
  ⟨storeN, Supervisor.new, storeN.nodes, services, h⟩

/-- No task is out of date and no constraint rejects the node. -/
def noneDirty : Service → Task → Node → Bool := fun _ _ _ => false

def anyNode : Service → Node → Bool := fun _ _ => true

theorem steady_services_per_service :
    nodeN.availability = .active ∧ nodeN.state ≠ .down ∧
      (worldN [steadyA, steadyB] (by decide)).nodes.lookup nodeN.id = some nodeN ∧
      (∀ c ∈ (worldN [steadyA, steadyB] (by decide)).globalServices,
        c.updateStatus ≠ some .rollbackStarted) ∧
      (reconcileOneNode noneDirty anyNode 0 nodeN (worldN [steadyA, steadyB] (by decide))).store =
        [steadyA, steadyB].foldl (fun st c => reconcileServiceOnNode noneDirty anyNode 0 nodeN
          (gatherTasks (storeN.findTasksByNode nodeN.id) [c] Supervisor.new).1 st c) storeN :=
  ⟨rfl, by decide, rfl, by decide,
    reconcileOneNode_per_service noneDirty anyNode 0 nodeN _ nodeN rfl (by decide) rfl (by decide)⟩

/-- Another service's rollback decides what `webA` gets. Alone, or after
`webB` in the range, `webA` keeps its finished task and gets no new one;
with `webB` rolling back after it, its entry is deleted and a new task
desired to run is added. -/
theorem rollback_elsewhere_restarts_task :
    ((reconcileOneNode noneDirty anyNode 0 nodeN (worldN [steadyA] (by decide))).store.findTasksByService
        webA.id).map (·.desiredState) = [.shutdown] ∧
      ((reconcileOneNode noneDirty anyNode 0 nodeN (worldN [rollingB, steadyA] (by decide))).store.findTasksByService
        webA.id).map (·.desiredState) = [.shutdown] ∧
      ((reconcileOneNode noneDirty anyNode 0 nodeN (worldN [steadyA, rollingB] (by decide))).store.findTasksByService
        webA.id).map (·.desiredState) = [.running, .shutdown] := by
  decide

end SwarmKit.Orchestrator.Global

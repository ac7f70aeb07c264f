import SwarmKit.Allocator.Task
import SwarmKit.Lib.Lts

/-
The ballot against failed commits (`Task.lean`).

# A vote is for good

Every step of the allocator keeps the votes it has cast (`votes_mono`),
and `allocateTask` of a task it has voted for never changes the task's
state (`TaskCtx.allocateTask_voted`): only a completed ballot moves a
task to `PENDING`. A copy of such a task whose addresses the allocator
holds is not allocated again, and the call reports `errNoChanges`
(`TaskCtx.allocateTask_noChanges`), so it is never committed.

# What a refused batch leaves

The round that casts the vote moves its copy of the task to `PENDING`.
When that round's batch is refused, the store keeps the task below
`PENDING` and without addresses, while the vote stays cast and the
allocator keeps the addresses. From then on no allocation moves the
task to `PENDING` (`voted_state_kept`); when the store's copy comes back
through an event, its attachments have no addresses, and the allocator
allocates a second set for them. The run at the end shows both.
-/

namespace SwarmKit.Allocator.Tasks

open SwarmKit.Store
open SwarmKit.Scheduler (TaskState)

variable {services : Nat → Option ServiceView}

-- ========================== ballot

theorem TaskCtx.taskAllocateVote_of_mem {c : TaskCtx} {id : Nat} (h : id ∈ c.votes) :
    c.taskAllocateVote id = (c, false) := by
  unfold TaskCtx.taskAllocateVote
  rw [if_pos h]

theorem TaskCtx.taskAllocateVote_votes (c : TaskCtx) (id : Nat) : c.votes ⊆ (c.taskAllocateVote id).1.votes := by
  unfold TaskCtx.taskAllocateVote
  split
  · exact List.Subset.refl _
  · exact List.subset_cons_self _ _

-- ====================== allocation

theorem NetworkState.allocateTask_task (na : NetworkState) (t : Task) :
    (na.allocateTask t).2.1 = t.withNetworks (na.allocateAttachments [] t.body.networks).2.1 := by
  unfold NetworkState.allocateTask
  split <;> rename_i h <;> rw [h]

/-- The allocation inside the `View` keeps the ballot, the task's ID and
its state. -/
theorem TaskCtx.allocateAddresses_keeps (c : TaskCtx) (services : Nat → Option ServiceView) (t : Task) :
    (c.allocateAddresses services t).1.votes = c.votes ∧ (c.allocateAddresses services t).2.1.id = t.id ∧
      (c.allocateAddresses services t).2.1.body.state = t.body.state := by
  unfold TaskCtx.allocateAddresses
  dsimp only
  split
  · exact ⟨rfl, rfl, rfl⟩
  · next t₁ updated hs =>
      -- the service part only copies the endpoint
      have ht₁ : t₁.id = t.id ∧ t₁.body.state = t.body.state := by
        split at hs
        · cases hs
          exact ⟨rfl, rfl⟩
        · split at hs
          · cases hs
          · split at hs
            · cases hs
            · split at hs <;> cases hs <;> exact ⟨rfl, rfl⟩
      split
      · exact ⟨rfl, ht₁⟩
      · split <;> rename_i na t₂ _ ha <;>
          · have h₂ := congrArg (·.2.1) ha
            simp only [NetworkState.allocateTask_task] at h₂
            subst h₂
            exact ⟨rfl, ht₁⟩

/-- The first part of `allocateTask`, the addresses unless the allocator
holds them already, keeps the ballot, the task's ID and its state. -/
theorem TaskCtx.allocateTask_addresses_keep {c : TaskCtx} {t : Task} {r : TaskCtx × Task × Bool × Option AllocateTaskErr}
    (h : (if c.nwkAllocator.isTaskAllocated t then (c, t, false, none) else c.allocateAddresses services t) = r) :
    r.1.votes = c.votes ∧ r.2.1.id = t.id ∧ r.2.1.body.state = t.body.state := by
  subst h
  split
  · exact ⟨rfl, rfl, rfl⟩
  · exact c.allocateAddresses_keeps services t

/-- A task the allocator has voted for keeps its state through
`allocateTask`: no later round moves it to `PENDING`. -/
theorem TaskCtx.allocateTask_voted (c : TaskCtx) (services : Nat → Option ServiceView) {t : Task}
    (hv : t.id ∈ c.votes) : (c.allocateTask services t).2.1.body.state = t.body.state := by
  unfold TaskCtx.allocateTask
  rcases ha : (if c.nwkAllocator.isTaskAllocated t then (c, t, false, none) else c.allocateAddresses services t)
    with ⟨c₁, t₁, updated, err⟩
  obtain ⟨hvotes, hid, hstate⟩ := TaskCtx.allocateTask_addresses_keep ha
  dsimp only
  cases err with
  | some e => exact hstate
  | none =>
      -- the vote is refused
      have hv₁ : t₁.id ∈ c₁.votes := by rw [hvotes, hid]; exact hv
      dsimp only
      rw [TaskCtx.taskAllocateVote_of_mem hv₁]
      simp only [Bool.false_eq_true, false_and, ↓reduceIte]
      split <;> exact hstate

/-- A copy whose addresses the allocator holds, of a task it has voted
for, changes nothing: `errNoChanges`, and it is not committed. -/
theorem TaskCtx.allocateTask_noChanges {c : TaskCtx} {t : Task} (hv : t.id ∈ c.votes)
    (ha : c.nwkAllocator.isTaskAllocated t = true) :
    c.allocateTask services t = (c, t, some .noChanges) := by
  unfold TaskCtx.allocateTask
  rw [if_pos ha]
  dsimp only
  rw [TaskCtx.taskAllocateVote_of_mem hv]
  simp

-- =========================== votes

theorem TaskCtx.allocateTask_votes (c : TaskCtx) (services : Nat → Option ServiceView) (t : Task) :
    c.votes ⊆ (c.allocateTask services t).1.votes := by
  unfold TaskCtx.allocateTask
  rcases ha : (if c.nwkAllocator.isTaskAllocated t then (c, t, false, none) else c.allocateAddresses services t)
    with ⟨c₁, t₁, updated, err⟩
  have hvotes : c₁.votes = c.votes := (TaskCtx.allocateTask_addresses_keep ha).1
  dsimp only
  cases err with
  | some e => exact hvotes ▸ List.Subset.refl _
  | none =>
      dsimp only
      have hsub := hvotes ▸ c₁.taskAllocateVote_votes t₁.id
      split <;> dsimp only <;> split <;> exact hsub

theorem TaskCtx.allocateEach_votes (services : Nat → Option ServiceView) :
    ∀ (ts : List Task) (c : TaskCtx), c.votes ⊆ (c.allocateEach services ts).1.votes
  | [], c => List.Subset.refl _
  | t :: ts, c => by
      unfold TaskCtx.allocateEach
      exact List.Subset.trans (c.allocateTask_votes services t) (TaskCtx.allocateEach_votes services ts _)

theorem TaskCtx.procTasksNetwork_votes (c : TaskCtx) (env : Env) (s : MemoryStore TaskBody) (now : Nat)
    (onRetry : Bool) : c.votes ⊆ (c.procTasksNetwork env s now onRetry).1.votes := by
  unfold TaskCtx.procTasksNetwork
  have h := TaskCtx.allocateEach_votes env.services (if onRetry then c.unallocatedTasks else c.pendingTasks) c
  cases onRetry <;> exact h

theorem TaskCtx.onCommit_votes (c : TaskCtx) (env : Env) (s : MemoryStore TaskBody) (now : Nat)
    (retryDue : Bool) : c.votes ⊆ (c.onCommit env s now retryDue).1.votes := by
  unfold TaskCtx.onCommit
  -- the round, then the retry on the store it leaves
  let r := c.procTasksNetwork env s now false
  have h₁ : c.votes ⊆ r.1.votes := c.procTasksNetwork_votes env s now false
  have h₂ : r.1.votes ⊆ (r.1.procTasksNetwork env r.2 now true).1.votes := r.1.procTasksNetwork_votes env r.2 now true
  dsimp only
  split
  · exact List.Subset.trans h₁ h₂
  · exact h₁

theorem TaskCtx.doTaskAlloc_votes (c : TaskCtx) (root : Db TaskBody) (ev : Event TaskBody) :
    (c.doTaskAlloc services root ev).votes = c.votes := by
  -- a task event touches the allocator and the maps, never the ballot
  have hevent : ∀ isDelete (t : Option Task), (c.taskEvent services isDelete t).votes = c.votes := by
    intro isDelete t
    unfold TaskCtx.taskEvent
    split
    · rfl
    · split
      · split
        · split <;> rfl
        · rfl
      · split
        · rfl
        · split
          · rfl
          · split <;> rfl
  unfold TaskCtx.doTaskAlloc
  split <;> first | exact hevent _ _ | rfl

theorem step_votes {env : Env} {a : Act} {w w' : World} (h : step env a w = some w') :
    w.ctx.votes ⊆ w'.ctx.votes := by
  cases a with
  | createTask id body now =>
      cases h
      exact List.Subset.refl _
  | setDesiredState id desiredState now =>
      simp only [step] at h
      split at h
      · cases h
      · cases h
        exact List.Subset.refl _
  | deliver retryDue now =>
      simp only [step] at h
      split at h
      · cases h
      · cases h
        exact w.ctx.onCommit_votes env w.store now retryDue
      · cases h
        rw [TaskCtx.doTaskAlloc_votes]
        exact List.Subset.refl _

/-- The votes cast stay cast through every run. -/
theorem votes_mono {env : Env} {w₀ w : World} (h : Lts.Reachable (step env) w₀ w) :
    w₀.ctx.votes ⊆ w.ctx.votes := by
  induction h with
  | init => exact List.Subset.refl _
  | step a _ hstep ih => exact List.Subset.trans ih (step_votes hstep)

/-- Once the allocator has voted for a task, no allocation in any later
state changes the state of a copy of it. -/
theorem voted_state_kept {env : Env} {w₀ w : World} (h : Lts.Reachable (step env) w₀ w) {t : Task}
    (hv : t.id ∈ w₀.ctx.votes) : (w.ctx.allocateTask env.services t).2.1.body.state = t.body.state :=
  w.ctx.allocateTask_voted env.services (votes_mono h hv)

-- ========================= the run

/-- One network, its pool `[1, 254]`. -/
def ingressPool : Nat → Option Idm := fun n => if n = 1 then some (Idm.new 1 254) else none

/-- Raft refuses the store's fifth call, the proposal of the allocator's
first batch, and answers every other. -/
def refusingRaft : Proposer TaskBody := ⟨fun n => some ⟨n⟩, fun n _ => if n = 4 then some .requestTooLarge else none⟩

/-- Service 7, allocated, without an endpoint, on network 1. -/
def attachedService : Nat → Option ServiceView := fun n => if n = 7 then some ⟨true, none, false, [1]⟩ else none

/-- That raft, a size of one per action, and service 7. -/
def refusingEnv : Env := ⟨refusingRaft, fun _ => 1, attachedService⟩

/-- A new task of service 7 on network 1. -/
def attachedTask : TaskBody := ⟨some 7, [1], [], none, .running, .new⟩

theorem vote_lost_on_failed_commit :
    ∃ w, Lts.run (step refusingEnv) (World.init ingressPool) [.createTask 1 attachedTask 0, .deliver false 0, .deliver false 0] = some w ∧
      (w.store.root .task 1).map (fun t => (t.body.state, t.body.networks)) = some (.new, []) ∧
      1 ∈ w.ctx.votes ∧
      (w.ctx.nwkAllocator.pools 1).map (·.taken) = some {1} ∧
      w.ctx.unallocatedTasks.map (fun t => (t.id, t.body.state, t.body.networks)) = [(1, .pending, [⟨1, [1]⟩])] ∧
      ∃ w', Lts.run (step refusingEnv) w [.setDesiredState 1 .remove 0, .deliver false 0, .deliver false 0] = some w' ∧
        (w'.store.root .task 1).map (fun t => (t.body.state, t.body.networks)) = some (.new, [⟨1, [2]⟩]) ∧
        (w'.ctx.nwkAllocator.pools 1).map (·.taken) = some {1, 2} := by
  refine ⟨_, rfl, by decide, by decide, by decide, by decide, _, rfl, by decide, by decide⟩

end SwarmKit.Allocator.Tasks

import SwarmKit.Scheduler.Scheduler
import SwarmKit.Store.Proofs.Batch
import SwarmKit.Lib.Lts

/-
What a failed batch does to the scheduler's cache (`Scheduler.lean`).

# The error path

`tick` and `processPreassignedTasks` book a decision in the cache before
committing it: `allTasks` gets the new task, its node reserves it, and the
unassigned queue has already been emptied. Only the decisions
`applySchedulingDecisions` reports failed are rolled back. When a
`batch.Update` fails, its error ends the batch at once: the decisions
already written are reported failed, although those written before a
split commit are in the store, and the decisions no callback reached yet
are reported neither successful nor failed
(`applySchedulingDecisions_refused`: the first write's commit is refused,
every later decision is dropped).

# The cache against the store

So a refused proposal in the middle of a batch leaves the cache apart
from the store, with every store event processed
(`scheduler_cache_diverges_from_store`): a task no callback reached stays
reserved on its node and out of the queue while the store still has it
unassigned; and a task committed before the failure is rolled back and
queued again while the store has it on its node. raft refuses such a
proposal on a leader that stays leader when its wait is cancelled (an
entry of an earlier term applied after an election) or when it is too
large.
-/

-- the package `scheduler` and its struct `Scheduler` share a name
set_option linter.dupNamespace false

namespace SwarmKit.Scheduler

open SwarmKit.Store

-- ================== the error path

/-- A callback whose first decision is written takes that one alone. -/
theorem callback_written {now : Nat} {d : Decision} {ds : List Decision} {s s' : Scheduler}
    {tx tx' : Tx TaskBody} (hw : decideOne now d s tx = (.written, tx', s')) :
    callback now (d :: ds) s tx = (tx', s', [(d, .written)], ds) := by
  simp [callback, hw]

/-- When a `batch.Update` fails, the batch callback stops with the
outcomes of that callback alone. -/
theorem applyLoop_error {p : Proposer TaskBody} {size : StoreAction TaskBody → Nat} {now : Nat}
    {d : Decision} {ds : List Decision} {s : Scheduler} {b b' : Batch TaskBody}
    {st st' : MemoryStore TaskBody} {e : Err} (hb : b.err = none)
    (hu : b.update (some p) size (fun tx => ((callback now (d :: ds) s tx).1, none)) st =
      ((b', st'), some e)) :
    applyLoop p size now (d :: ds) s b st =
      (((b', st'), some e), (callback now (d :: ds) s b.tx).2.1,
        (callback now (d :: ds) s b.tx).2.2.1) := by
  rw [applyLoop]
  simp [hb, hu]

/-- **A refused first commit abandons the other decisions.** When the
first decision is written and its changes reach a size limit, `Update`
commits at once; if raft refuses that proposal, the batch fails, the
store keeps only the record of its two calls, the written decision is
reported failed, and none of the others is reported at all. -/
theorem applySchedulingDecisions_refused {p : Proposer TaskBody} {size : StoreAction TaskBody → Nat}
    {now : Nat} {d : Decision} {ds : List Decision} {s s' : Scheduler} {st : MemoryStore TaskBody}
    {tx : Tx TaskBody} {sa : List (StoreAction TaskBody)} {e : Err}
    (hw : decideOne now d s (Tx.init st.root (p.getVersion st.calls)) = (.written, tx, s'))
    (hsa : tx.changelist.mapM newStoreAction = some sa) (hne : sa ≠ [])
    (hsplit : MaxChangesPerTransaction ≤ tx.changelist.length ∨
      MaxTransactionBytes * 3 / 4 ≤ (sa.map size).sum)
    (he : p.proposeValue (st.calls + 1) sa = some e) :
    applySchedulingDecisions p size now (d :: ds) s st =
      (({ st with calls := st.calls + 1 }.proposeValue p sa).2, s', [], [d]) := by
  have hstore : tx.changelistStoreActions = .ok sa := by
    simp [Tx.changelistStoreActions, hsa]
  -- the batch's first `Update`: `newTx` has taken the version, the callback writes `d`
  obtain ⟨hst, herr⟩ := @Batch.update_split_refused _ p size
    (fun tx₀ => ((callback now (d :: ds) s tx₀).1, none))
    ⟨Tx.init st.root (p.getVersion st.calls), 0, 0, 0, none⟩ { st with calls := st.calls + 1 }
    _ _ _ _
    rfl (by simp [callback_written hw]) (by simpa using hsa) (by simpa using hsplit) hstore hne he
  rcases hu : Batch.update (some p) size (fun tx₀ => ((callback now (d :: ds) s tx₀).1, none))
    ⟨Tx.init st.root (p.getVersion st.calls), 0, 0, 0, none⟩ { st with calls := st.calls + 1 } with
    ⟨⟨b', st'⟩, err⟩
  rw [hu] at hst herr
  simp only at hst herr
  subst hst herr
  simp only [applySchedulingDecisions, List.cons_ne_nil, if_false, MemoryStore.batchWith,
    Batch.newTx, MemoryStore.getVersion_some]
  rw [applyLoop_error rfl hu]
  simp [callback_written hw, withOutcome]

-- ========= the cache and the store

namespace Scheduler

/-- Whether node `n`'s `NodeInfo` reserves task `t`. -/
def reserves (s : Scheduler) (n t : Nat) : Bool :=
  match s.nodeSet.lookup n with
  | some ni => decide (t ∈ ni.tasks)
  | none => false

end Scheduler

/-- A node object with ID `id`. -/
def nodeObj (id : Nat) : Task := ⟨id, ⟨⟨0⟩, none, none⟩, ⟨0, .new, .other 0, 0⟩⟩

/-- A new unassigned task with ID `id`. -/
def pendingTask (id : Nat) : Task := ⟨id, ⟨⟨0⟩, none, none⟩, ⟨0, .pending, .other 0, 0⟩⟩

/-- raft accepting every proposal but its `k`-th call. -/
def refuseAt (k : Nat) : Proposer TaskBody :=
  ⟨fun n => some ⟨n + 1⟩, fun n _ => if n = k then some .lostLeadership else none⟩

/-- Task writes large enough that each fills a transaction. -/
def bigTasks (sa : StoreAction TaskBody) : Nat := if sa.table = .task then 1179648 else 1

/-- Nodes 1 and 2 and tasks 11 and 12 are created; the scheduler reads
the five events and its tick places both tasks on node 1. -/
def placeBoth : List Act :=
  [.external [.create .node (nodeObj 1) 0, .create .node (nodeObj 2) 0,
     .create .task (pendingTask 11) 0, .create .task (pendingTask 12) 0],
   .event, .event, .event, .event, .event, .schedule 0 (fun _ => none) (fun _ => .node 1)]

theorem scheduler_cache_diverges_from_store :
    (∃ w, Lts.Reachable (World.step (refuseAt 4) bigTasks) World.init w ∧
      w.cursor = w.store.queue.length ∧ (w.store.root .task 11).map (·.body.nodeID) = some 0 ∧
      w.sched.reserves 1 11 = true ∧ 11 ∉ w.sched.unassignedTasks) ∧
    (∃ w, Lts.Reachable (World.step (refuseAt 6) bigTasks) World.init w ∧
      (w.store.root .task 12).map (·.body.nodeID) = some 1 ∧
      w.sched.reserves 1 12 = false ∧ 12 ∈ w.sched.unassignedTasks) := by
  -- raft refuses the first commit of the tick's batch: task 11 is never reached
  have h₁ : (Lts.run (World.step (refuseAt 4) bigTasks) World.init placeBoth).any (fun w =>
      decide (w.cursor = w.store.queue.length ∧
        (w.store.root .task 11).map (·.body.nodeID) = some 0 ∧
        w.sched.reserves 1 11 = true ∧ 11 ∉ w.sched.unassignedTasks)) = true := by
    decide +kernel
  -- raft accepts the commit of task 12 and refuses that of task 11
  have h₂ : (Lts.run (World.step (refuseAt 6) bigTasks) World.init placeBoth).any (fun w =>
      decide ((w.store.root .task 12).map (·.body.nodeID) = some 1 ∧
        w.sched.reserves 1 12 = false ∧ 12 ∈ w.sched.unassignedTasks)) = true := by
    decide +kernel
  obtain ⟨w₁, hrun₁, hw₁⟩ := (Option.any_eq_true _ _).mp h₁
  obtain ⟨w₂, hrun₂, hw₂⟩ := (Option.any_eq_true _ _).mp h₂
  exact ⟨⟨w₁, Lts.reachable_of_run hrun₁, of_decide_eq_true hw₁⟩,
    ⟨w₂, Lts.reachable_of_run hrun₂, of_decide_eq_true hw₂⟩⟩

end SwarmKit.Scheduler

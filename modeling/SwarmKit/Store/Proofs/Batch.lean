import Mathlib.Algebra.GroupWithZero.Nat
import SwarmKit.Store.Memory

/-
What `Batch` does when a callback or a proposal fails.

# One `Update` is not atomic

`Batch.Update` is documented as atomic ("Each call to Update is atomic"),
but it hands the callback the batch's shared transaction with no savepoint:
the writes a callback made before returning its error stay in that
transaction, visible to the next callbacks and committed with the rest.
`batch_update_not_atomic` runs the shape of `Supervisor.Restart` (shut the
old task down, then create its replacement) with a replacement whose
creation fails: the `Update` reports `ErrExist`, the batch goes on, and the
old task is shut down in the committed store.

# A failed split commit is proposed again

When the commit at a size split fails, `Batch.Update` records `batch.err`,
aborts the memdb transaction and starts no new one. A caller that only
logs the error (`tickTasks`) lets `MemoryStore.Batch` run `commit()` a
second time on the aborted transaction: `commit` recomputes `batch.err`
from the stale changelist and proposes it again. When that proposal is
accepted, its callback commits the aborted transaction, which go-memdb
ignores, and the changelist is published. `batch_reproposes_failed_split`
runs it: one `Update` creating `MaxChangesPerTransaction` tasks, raft
refusing the split commit's proposal and accepting the next one. The
batch reports success, its actions went to raft twice, the leader's store
holds none of the tasks, and the create event of every one of them was
published.
-/

namespace SwarmKit.Store

variable {B : Type}

-- =========== callbacks that create

/-- A callback creating objects of distinct IDs not in the transaction's
view succeeds, appends their stamped create events and keeps the
transaction live. -/
theorem runOps_create_fresh (t : Table) (now : Nat) :
    ∀ (os : List (Object B)) (tx : Tx B), (os.map Object.id).Nodup →
      (∀ o ∈ os, tx.lookup t o.id = none) →
      ∃ view, runOps tx (os.map fun o => .create t o now) =
        (⟨⟨view, tx.memDBTx.live⟩, tx.curVersion,
          tx.changelist ++ os.map fun o => .create t (tx.stamp o now)⟩, none) := by
  intro os
  induction os with
  | nil => intro tx _ _; exact ⟨tx.memDBTx.view, by simp⟩
  | cons o os ih =>
      intro tx hnd hfresh
      have hnd' : o.id ∉ os.map Object.id ∧ (os.map Object.id).Nodup := by
        simpa using hnd
      have hrun : (TxOp.create t o now).run tx = .ok (tx.record
          (tx.memDBTx.view.insert t (tx.stamp o now)) (.create t (tx.stamp o now))) := by
        simp [TxOp.run, Tx.create_of_lookup_none (hfresh o (by simp)), Except.map]
      -- the other IDs are still unused once `o` is inserted
      have hfresh' : ∀ o' ∈ os, (tx.record (tx.memDBTx.view.insert t (tx.stamp o now))
          (.create t (tx.stamp o now))).lookup t o'.id = none := by
        intro o' ho'
        have hne : o'.id ≠ o.id := fun h => hnd'.1 (h ▸ List.mem_map_of_mem ho')
        simp only [Tx.lookup_record, Db.insert_apply, Tx.stamp]
        simpa [hne, Tx.lookup] using hfresh o' (by simp [ho'])
      obtain ⟨view, hview⟩ := ih _ hnd'.2 hfresh'
      refine ⟨view, ?_⟩
      rw [List.map_cons, runOps_cons_ok hrun, hview]
      simp [Tx.stamp]

/-- Create events convert to create actions. -/
theorem mapM_create (t : Table) (os : List (Object B)) :
    (os.map (Event.create t)).mapM newStoreAction = some (os.map fun o => ⟨.create, t, o⟩) := by
  induction os with
  | nil => rfl
  | cons o os ih => simp [List.mapM_cons, ih, newStoreAction]

/-- The sizing loop over a changelist that converts: every entry is
counted and its size added. -/
theorem countChanges_of_mapM (size : StoreAction B → Nat) :
    ∀ (cl : List (Event B)) (sas : List (StoreAction B)) (b : Batch B),
      cl.mapM newStoreAction = some sas →
      Batch.countChanges size cl b = .ok { b with
        transactionSizeEstimate := b.transactionSizeEstimate + (sas.map size).sum,
        changelistLen := b.changelistLen + cl.length } := by
  intro cl
  induction cl with
  | nil =>
      intro sas b h
      simp only [List.mapM_nil, Option.pure_def, Option.some.injEq] at h
      subst h
      simp [Batch.countChanges]
  | cons c cl ih =>
      intro sas b h
      simp only [List.mapM_cons, Option.bind_eq_bind, Option.pure_def] at h
      cases hc : newStoreAction c with
      | none => simp [hc] at h
      | some sa =>
          cases hcl : cl.mapM newStoreAction with
          | none => simp [hc, hcl] at h
          | some sas' =>
              simp only [hc, hcl, Option.bind_some, Option.some.injEq] at h
              subst h
              simp only [Batch.countChanges, hc, ih sas' _ hcl, List.map_cons, List.sum_cons,
                List.length_cons]
              congr 2 <;> omega

/-- A `batch.Update` whose callback's changes reach a size limit commits
at once; when raft refuses that proposal, `Update` returns the error and
the store keeps only the record of the calls. -/
theorem Batch.update_split_refused {p : Proposer B} {size : StoreAction B → Nat}
    {cb : Tx B → Tx B × Option Err} {b : Batch B} {s : MemoryStore B} {tx : Tx B}
    {new sa : List (StoreAction B)} {e : Err} (herr : b.err = none) (hcb : cb b.tx = (tx, none))
    (hnew : (tx.changelist.drop b.changelistLen).mapM newStoreAction = some new)
    (hsplit : MaxChangesPerTransaction ≤
        b.changelistLen + (tx.changelist.drop b.changelistLen).length ∨
      MaxTransactionBytes * 3 / 4 ≤ b.transactionSizeEstimate + (new.map size).sum)
    (hsa : tx.changelistStoreActions = .ok sa) (hne : sa ≠ [])
    (he : p.proposeValue s.calls sa = some e) :
    (b.update (some p) size cb s).1.2 = (s.proposeValue p sa).2 ∧
      (b.update (some p) size cb s).2 = some e := by
  obtain ⟨tx₀, applied, est, len, err⟩ := b
  simp only at herr hcb hnew hsplit
  subst herr
  have hcommit := Batch.commit_refused
    (b := ⟨tx, applied + 1, est + (new.map size).sum, len + (tx.changelist.drop len).length, none⟩)
    hsa hne he
  simp only [Batch.update, hcb, countChanges_of_mapM size _ _ _ hnew]
  rw [if_pos hsplit, hcommit]
  exact ⟨rfl, rfl⟩

-- ============ Update is not atomic

/-- A version-0 meta, as an object carries before its first stamp. -/
def Meta.zero : Meta := ⟨⟨0⟩, none, none⟩

/-- A task whose body is its desired state (`RUNNING` = 5, `SHUTDOWN` = 9
in the order of `api.TaskState`, reduced to what the example reads). -/
def task (id desired : Nat) : Object Nat := ⟨id, Meta.zero, desired⟩

/-- The store `Restart` works on: task 1 running, and a task 2 already
present. -/
def restartStore : MemoryStore Nat :=
  ⟨((Db.empty Nat).insert .task (task 1 5)).insert .task (task 2 5), [], 0, []⟩

/-- Raft accepting every proposal; `GetVersion` reports the call count. -/
def acceptAll : Proposer Nat := ⟨fun n => some ⟨n + 1⟩, fun _ _ => none⟩

/-- `Supervisor.Restart`'s two writes: shut task 1 down, then create its
replacement, whose ID (2) is taken. -/
def restartCallback : Tx Nat → Tx Nat × Option Err :=
  fun tx => runOps tx [.update .task (task 1 9) 7, .create .task (task 2 5) 7]

/-- `MemoryStore.Batch`'s batch on `restartStore`, before its callback runs. -/
def restartBatch : Batch Nat × MemoryStore Nat :=
  Batch.newTx (some acceptAll) ⟨Tx.init restartStore.root none, 0, 0, 0, none⟩ restartStore

theorem batch_update_not_atomic (size : StoreAction Nat → Nat) :
    (restartBatch.1.update (some acceptAll) size restartCallback restartBatch.2).2 = some .exist ∧
    ((restartBatch.1.update (some acceptAll) size restartCallback restartBatch.2).1.1.tx.lookup
      .task 1).map (·.body) = some 9 ∧
    (restartStore.batch (some acceptAll) size [⟨restartCallback, false⟩]).2 = none ∧
    ((restartStore.batch (some acceptAll) size [⟨restartCallback, false⟩]).1.root
      .task 1).map (·.body) = some 9 :=
  ⟨rfl, rfl, rfl, rfl⟩

-- ======== a failed split, proposed again

/-- `n` new tasks with IDs `0 … n-1`. -/
def newTasks (n : Nat) : List (Object Unit) := (List.range n).map fun i => ⟨i, Meta.zero, ()⟩

theorem newTasks_ids (n : Nat) : (newTasks n).map Object.id = List.range n := by
  simp [newTasks, Function.comp_def]

/-- One `batch.Update` creating the tasks, in a batch callback that only
logs its error, as `tickTasks` does. -/
def createTasks (n : Nat) : BatchCall Unit :=
  ⟨fun tx => runOps tx ((newTasks n).map fun o => .create .task o 0), false⟩

/-- Raft losing and regaining leadership around the batch's first
proposal: the store's call 1 (the first `ProposeValue`, after the
`GetVersion` of the first transaction) gets `ErrLostLeadership`, every
other call succeeds. -/
def failFirstProposal : Proposer Unit :=
  ⟨fun n => some ⟨n⟩, fun n _ => if n = 1 then some .lostLeadership else none⟩

/-- The tasks as the batch's first transaction stamps them (version 0,
clock 0). -/
def stampedTasks (n : Nat) : List (Object Unit) :=
  (newTasks n).map fun o => { o with objMeta := touchMeta o.objMeta (some ⟨0⟩) 0 }

/-- The general form: any number of tasks at or above the split
threshold. -/
theorem batch_reproposes_of_le (size : StoreAction Unit → Nat) {n : Nat}
    (hn : MaxChangesPerTransaction ≤ n) :
    (MemoryStore.new Unit).batch (some failFirstProposal) size [createTasks n] =
      (⟨Db.empty Unit, ((stampedTasks n).map fun o => Event.create .task o) ++ [.commit none], 3,
        [(stampedTasks n).map fun o => ⟨.create, .task, o⟩,
         (stampedTasks n).map fun o => ⟨.create, .task, o⟩]⟩, none) := by
  -- the callback's transaction: every task created in the batch's first transaction
  obtain ⟨view, hrun⟩ := runOps_create_fresh (B := Unit) .task 0 (newTasks n)
    (Tx.init (Db.empty Unit) (some ⟨0⟩)) (by rw [newTasks_ids]; exact List.nodup_range)
    (fun _ _ => rfl)
  have hstamp : ((newTasks n).map fun o => Event.create .task
      ((Tx.init (Db.empty Unit) (some ⟨0⟩)).stamp o 0)) =
      (stampedTasks n).map fun o => Event.create .task o := by
    simp [stampedTasks, Tx.stamp, Tx.init]
  rw [hstamp] at hrun
  have hcl : ((stampedTasks n).map fun o => Event.create .task o).mapM newStoreAction =
      some ((stampedTasks n).map fun o => ⟨.create, .task, o⟩) := mapM_create .task _
  have hlen : ((stampedTasks n).map fun o => Event.create (B := Unit) .task o).length = n := by
    simp [stampedTasks, newTasks]
  have hne : ((stampedTasks n).map fun o => (⟨.create, .task, o⟩ : StoreAction Unit)) ≠ [] := by
    have : 0 < n := Nat.lt_of_lt_of_le (by decide) hn
    simpa [stampedTasks, newTasks] using Nat.pos_iff_ne_zero.mp this
  have hsplit : MaxChangesPerTransaction ≤ 0 + n := by omega
  simp only [Tx.init] at hrun
  have hv : failFirstProposal.getVersion 0 = some ⟨0⟩ := rfl
  simp only [MemoryStore.batch, Batch.newTx, MemoryStore.getVersion_some, MemoryStore.new,
    Batch.runCalls, Batch.update, createTasks, Tx.init, hv]
  rw [hrun]
  simp only [List.nil_append, List.drop_zero]
  rw [countChanges_of_mapM size _ _ _ hcl]
  simp only [hlen, if_pos (Or.inl hsplit)]
  -- the split commit: raft refuses the proposal, the transaction is aborted
  rw [Batch.commit_refused (p := failFirstProposal) (e := .lostLeadership) ?hsa₁ hne rfl]
  case hsa₁ => simp [Tx.changelistStoreActions, hcl]
  simp only [Bool.false_eq_true, if_false]
  -- the final commit: the same actions proposed again, on the aborted transaction
  rw [Batch.commit_accepted (p := failFirstProposal) ?hsa₂ hne rfl]
  case hsa₂ => simp [Tx.changelistStoreActions, hcl, Batch.withTxn]
  have hev : ((stampedTasks n).map fun o => Event.create (B := Unit) .task o) ≠ [] := by
    simpa using hne
  simp [Batch.withTxn, Txn.abort, MemoryStore.commitTxn, MemoryStore.proposeValue,
    MemoryStore.publishCommit, hev]

theorem batch_reproposes_failed_split (size : StoreAction Unit → Nat) :
    ((MemoryStore.new Unit).batch (some failFirstProposal) size
        [createTasks MaxChangesPerTransaction]).2 = none ∧
    ((MemoryStore.new Unit).batch (some failFirstProposal) size
        [createTasks MaxChangesPerTransaction]).1.proposed =
      [(stampedTasks MaxChangesPerTransaction).map fun o => ⟨.create, .task, o⟩,
       (stampedTasks MaxChangesPerTransaction).map fun o => ⟨.create, .task, o⟩] ∧
    ∀ o ∈ stampedTasks MaxChangesPerTransaction,
      Event.create .task o ∈ ((MemoryStore.new Unit).batch (some failFirstProposal) size
        [createTasks MaxChangesPerTransaction]).1.queue ∧
      ((MemoryStore.new Unit).batch (some failFirstProposal) size
        [createTasks MaxChangesPerTransaction]).1.root .task o.id = none := by
  rw [batch_reproposes_of_le size (Nat.le_refl _)]
  refine ⟨rfl, rfl, fun o ho => ⟨?_, rfl⟩⟩
  simp only [List.mem_append, List.mem_map]
  exact Or.inl ⟨o, ho, rfl⟩

end SwarmKit.Store

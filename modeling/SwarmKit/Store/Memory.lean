import SwarmKit.Store.Tx

/-
The memory store's write paths (manager/state/store/memory.go):
`MemoryStore.update` behind `Update`/`updateLocal`, `ApplyStoreActions`,
and the `Batch` machinery (`Batch.Update`, `Batch.commit`, `Batch.newTx`,
`MemoryStore.Batch`).

# The proposer, seen from the store

The store talks to raft through `state.Proposer`: `GetVersion` and
`ProposeValue(ctx, actions, cb)`. What the store relies on is the
contract of raft's `processInternalRaftRequest`: `ProposeValue` returns
`nil` only after its entry committed and `cb` ran, and when it returns an
error `cb` has not run and never will (Raft/ExactlyOnce.lean proves this
of the node's wait protocol). So the store's `cb`, which commits the
memdb transaction when the commit guard is still full, is applied here
exactly when `ProposeValue` reports success.

The answers themselves come from outside the store (the network, the
other members), so the proposer is an oracle: `Proposer` gives the answer
of the `n`-th call the store makes to it. The store state counts its
calls (`calls`) and records the actions of every `ProposeValue` call
(`proposed`); both are ghost fields that no code path reads.

# The watch queue

`queue` is everything published on the store's `watch.Queue`, oldest
first. A watcher sees the suffix published after it subscribed.

# Locking

`update`, `ApplyStoreActions` and `Batch` run under the store's
`updateLock`; these definitions are one call each, run with the lock
held. `Batch.Update` yields the lock after a split commit; writers that
run in that window are separate calls of this model.
-/

namespace SwarmKit.Store

-- ======================= constants

/-- `MaxChangesPerTransaction`: a batch starts a new transaction after this
many changes. -/
def MaxChangesPerTransaction : Nat := 200

/-- `MaxTransactionBytes = 1.5 * 1024 * 1024`, the serialized size limit. -/
def MaxTransactionBytes : Nat := 1572864

-- ======================= the state

/-- Raft as the store's proposer: the answer to the store's `n`-th call,
whichever call it is. -/
structure Proposer (B : Type) where
  getVersion : Nat → Option Version
  proposeValue : Nat → List (StoreAction B) → Option Err

/-- The memory store: the memdb root, the watch queue, and the ghost
record of its calls to the proposer. -/
structure MemoryStore (B : Type) where
  root : Db B
  queue : List (Event B)
  calls : Nat
  proposed : List (List (StoreAction B))

variable {B : Type}

/-- `NewMemoryStore`: an empty database and an empty queue. -/
def MemoryStore.new (B : Type) : MemoryStore B := ⟨Db.empty B, [], 0, []⟩

namespace MemoryStore

/-- `proposer.GetVersion()`, or no version for a store without a
proposer. -/
def getVersion (p : Option (Proposer B)) (s : MemoryStore B) : Option Version × MemoryStore B :=
  match p with
  | none => (none, s)
  | some p => (p.getVersion s.calls, { s with calls := s.calls + 1 })

/-- `proposer.ProposeValue(ctx, sa, cb)`: the proposer's answer, the call
counted and its actions recorded. -/
def proposeValue (p : Proposer B) (sa : List (StoreAction B)) (s : MemoryStore B) :
    Option Err × MemoryStore B :=
  (p.proposeValue s.calls sa, { s with calls := s.calls + 1, proposed := s.proposed ++ [sa] })

/-- `memDBTx.Commit()`: a live transaction's view becomes the root and the
transaction ends; a transaction already ended commits nothing (go-memdb's
`rootTxn == nil` check). -/
def commitTxn (txn : Txn B) (s : MemoryStore B) : MemoryStore B × Txn B :=
  if txn.live then ({ s with root := txn.view }, { txn with live := false }) else (s, txn)

/-- Publish a committed transaction's changelist, followed by
`state.EventCommit{Version: v}` when the changelist is not empty. -/
def publishCommit (cl : List (Event B)) (v : Option Version) (s : MemoryStore B) :
    MemoryStore B :=
  { s with queue := s.queue ++ cl ++ (if cl = [] then [] else [.commit v]) }

end MemoryStore

/-- `memDBTx.Abort()`: the transaction ends without touching the root. -/
def Txn.abort (txn : Txn B) : Txn B := { txn with live := false }

-- ========================== update

/-- `MemoryStore.update(proposer, cb)`. With a proposer, the transaction's
writes are stamped with `GetVersion()` taken at the start, its changelist
is proposed, and it commits only through `ProposeValue`'s callback; the
commit event carries `GetVersion()` read again after the proposal.
Without one (`updateLocal`), it commits directly and its commit event
carries no version. On any error the transaction is aborted: the store is
unchanged apart from the ghost record of the calls made. -/
def MemoryStore.update (p : Option (Proposer B)) (cb : Tx B → Tx B × Option Err)
    (s : MemoryStore B) : MemoryStore B × Option Err :=
  let (curVersion, s) := s.getVersion p
  let (tx, err) := cb (Tx.init s.root curVersion)
  match err with
  | some e => (s, some e)
  | none =>
    match p with
    | none => ((s.commitTxn tx.memDBTx).1.publishCommit tx.changelist none, none)
    | some q =>
      match tx.changelistStoreActions with
      | .error e => (s, some e)
      | .ok [] => ((s.commitTxn tx.memDBTx).1, none)
      | .ok sa =>
        match s.proposeValue q sa with
        | (some e, s) => (s, some e)
        | (none, s) =>
          -- `cb` ran inside `ProposeValue` and found the guard full
          let s := (s.commitTxn tx.memDBTx).1
          let (v, s) := s.getVersion p
          (s.publishCommit tx.changelist v, none)

/-- `ApplyStoreActions`: replay a committed entry's actions in a
transaction without a version; on an error abort and leave the store as
it was, otherwise commit and publish the replayed changelist followed by
`EventCommit{}` (no version). -/
def MemoryStore.applyStoreActions (actions : List (StoreAction B)) (s : MemoryStore B) :
    MemoryStore B × Option Err :=
  match applyStoreActionsTx (Tx.init s.root none) actions with
  | .error e => (s, some e)
  | .ok tx => ((s.commitTxn tx.memDBTx).1.publishCommit tx.changelist none, none)

-- =========================== Batch

/-- memory.go's `Batch`: the shared transaction, the successful `Update`
count, the running size estimate, how much of the changelist has been
sized, and the error of a failed commit. -/
structure Batch (B : Type) where
  tx : Tx B
  applied : Nat
  transactionSizeEstimate : Nat
  changelistLen : Nat
  err : Option Err

namespace Batch

/-- `batch.newTx()`: a fresh transaction over the current root, stamped
with `GetVersion()`, and the size accounting reset. `applied` and `err`
are kept. -/
def newTx (p : Option (Proposer B)) (b : Batch B) (s : MemoryStore B) : Batch B × MemoryStore B :=
  let (v, s) := s.getVersion p
  ({ b with tx := Tx.init s.root v, transactionSizeEstimate := 0, changelistLen := 0 }, s)

/-- The sizing loop of `Batch.Update`: each changelist entry not yet sized
is converted to its store action and its `Size()` added. -/
def countChanges (size : StoreAction B → Nat) : List (Event B) → Batch B →
    Except (Batch B × Err) (Batch B)
  | [], b => .ok b
  | c :: cs, b =>
    match newStoreAction c with
    | none => .error (b, .unknownStoreAction)
    | some sa =>
      countChanges size cs
        { b with transactionSizeEstimate := b.transactionSizeEstimate + size sa,
                 changelistLen := b.changelistLen + 1 }

/-- The transaction with its memdb transaction replaced. -/
def withTxn (b : Batch B) (txn : Txn B) : Batch B := { b with tx := { b.tx with memDBTx := txn } }

/-- `batch.commit()`. With a proposer, `batch.err` is recomputed from the
changelist and `ProposeValue`; the memdb transaction commits through the
callback (or directly when there is nothing to propose). On an error the
transaction is aborted and the error returned; otherwise the changelist
is published followed by `EventCommit{}`, which carries no version. -/
def commit (p : Option (Proposer B)) (b : Batch B) (s : MemoryStore B) :
    (Batch B × MemoryStore B) × Option Err :=
  let (b, s) : Batch B × MemoryStore B :=
    match p with
    | none =>
      let (s, txn) := s.commitTxn b.tx.memDBTx
      (b.withTxn txn, s)
    | some q =>
      match b.tx.changelistStoreActions with
      | .error e => ({ b with err := some e }, s)
      | .ok [] =>
        let (s, txn) := s.commitTxn b.tx.memDBTx
        ({ b.withTxn txn with err := none }, s)
      | .ok sa =>
        match s.proposeValue q sa with
        | (some e, s) => ({ b with err := some e }, s)
        | (none, s) =>
          let (s, txn) := s.commitTxn b.tx.memDBTx
          ({ b.withTxn txn with err := none }, s)
  match b.err with
  | some e => ((b.withTxn b.tx.memDBTx.abort, s), some e)
  | none => ((b, s.publishCommit b.tx.changelist none), none)

/-- `batch.Update(cb)`: return a recorded commit error at once; otherwise
run `cb` on the shared transaction (its writes stay there whatever it
returns), size the new changes, and once the transaction holds
`MaxChangesPerTransaction` changes or three quarters of
`MaxTransactionBytes`, commit it and start a new one. -/
def update (p : Option (Proposer B)) (size : StoreAction B → Nat)
    (cb : Tx B → Tx B × Option Err) (b : Batch B) (s : MemoryStore B) :
    (Batch B × MemoryStore B) × Option Err :=
  match b.err with
  | some e => ((b, s), some e)
  | none =>
    let (tx, e) := cb b.tx
    match e with
    | some e => (({ b with tx := tx }, s), some e)
    | none =>
      let b := { b with tx := tx, applied := b.applied + 1 }
      match countChanges size (b.tx.changelist.drop b.changelistLen) b with
      | .error (b, e) => ((b, s), some e)
      | .ok b =>
        if MaxChangesPerTransaction ≤ b.changelistLen ∨
            MaxTransactionBytes * 3 / 4 ≤ b.transactionSizeEstimate then
          match b.commit p s with
          | ((b, s), some e) => ((b, s), some e)
          | ((b, s), none) => (b.newTx p s, none)
        else ((b, s), none)

end Batch

/-- One `batch.Update` call of a `MemoryStore.Batch` callback: the
transaction callback, and whether the batch callback returns the error
(`return err`) or only logs it and goes on. -/
structure BatchCall (B : Type) where
  cb : Tx B → Tx B × Option Err
  propagate : Bool

/-- A `MemoryStore.Batch` callback that makes its `batch.Update` calls in
order. -/
def Batch.runCalls (p : Option (Proposer B)) (size : StoreAction B → Nat) :
    List (BatchCall B) → Batch B → MemoryStore B → (Batch B × MemoryStore B) × Option Err
  | [], b, s => ((b, s), none)
  | c :: cs, b, s =>
    match b.update p size c.cb s with
    | ((b, s), some e) => if c.propagate then ((b, s), some e) else runCalls p size cs b s
    | ((b, s), none) => runCalls p size cs b s

/-- `MemoryStore.Batch(cb)`: a batch on a new transaction; if the callback
returns an error its current transaction is aborted (transactions already
committed at a split stay committed), otherwise the batch commits once
more. -/
def MemoryStore.batch (p : Option (Proposer B)) (size : StoreAction B → Nat)
    (calls : List (BatchCall B)) (s : MemoryStore B) : MemoryStore B × Option Err :=
  let (b, s) := Batch.newTx p ⟨Tx.init s.root none, 0, 0, 0, none⟩ s
  match Batch.runCalls p size calls b s with
  | ((_, s), some e) => (s, some e)
  | ((b, s), none) =>
    let ((_, s), e) := b.commit p s
    (s, e)

/-- `MemoryStore.Batch(cb)` for a callback given by what it does to the
batch and the store, together with what else it computes for its caller
(a callback that records its own outcomes, as the scheduler's does). -/
def MemoryStore.batchWith {α : Type} (p : Option (Proposer B))
    (cb : Batch B → MemoryStore B → ((Batch B × MemoryStore B) × Option Err) × α)
    (s : MemoryStore B) : (MemoryStore B × Option Err) × α :=
  let (b, s) := Batch.newTx p ⟨Tx.init s.root none, 0, 0, 0, none⟩ s
  match cb b s with
  | (((_, s), some e), a) => ((s, some e), a)
  | (((b, s), none), a) =>
    let ((_, s), e) := b.commit p s
    ((s, e), a)

-- ===================== spec lemmas

section Spec

variable {p : Proposer B} {b : Batch B} {s : MemoryStore B} {txn : Txn B}

@[simp] theorem MemoryStore.getVersion_none : s.getVersion none = (none, s) := rfl

@[simp] theorem MemoryStore.getVersion_some :
    s.getVersion (some p) = (p.getVersion s.calls, { s with calls := s.calls + 1 }) := rfl

theorem MemoryStore.commitTxn_live (h : txn.live = true) :
    s.commitTxn txn = ({ s with root := txn.view }, { txn with live := false }) := by
  simp [MemoryStore.commitTxn, h]

@[simp] theorem MemoryStore.proposeValue_queue (sa : List (StoreAction B)) :
    (s.proposeValue p sa).2.queue = s.queue := rfl

@[simp] theorem MemoryStore.commitTxn_queue : (s.commitTxn txn).1.queue = s.queue := by
  unfold MemoryStore.commitTxn
  split <;> rfl

@[simp] theorem MemoryStore.publishCommit_queue (cl : List (Event B)) (v : Option Version) :
    (s.publishCommit cl v).queue = s.queue ++ cl ++ (if cl = [] then [] else [.commit v]) := rfl

/-- A batch commit whose proposal raft refuses aborts the transaction and
records the error in the batch. -/
theorem Batch.commit_refused {sa : List (StoreAction B)} {e : Err}
    (hsa : b.tx.changelistStoreActions = .ok sa) (hne : sa ≠ [])
    (he : p.proposeValue s.calls sa = some e) :
    b.commit (some p) s =
      (({ b with err := some e }.withTxn b.tx.memDBTx.abort, (s.proposeValue p sa).2), some e) := by
  cases sa with
  | nil => exact absurd rfl hne
  | cons a sa =>
      simp [Batch.commit, hsa, MemoryStore.proposeValue, he, Batch.withTxn]

/-- A batch commit whose proposal raft accepts commits the transaction
(nothing, if it already ended) and publishes its changelist followed by a
commit event without a version. -/
theorem Batch.commit_accepted {sa : List (StoreAction B)}
    (hsa : b.tx.changelistStoreActions = .ok sa) (hne : sa ≠ [])
    (hok : p.proposeValue s.calls sa = none) :
    b.commit (some p) s =
      (({ b.withTxn ((s.proposeValue p sa).2.commitTxn b.tx.memDBTx).2 with err := none },
        ((s.proposeValue p sa).2.commitTxn b.tx.memDBTx).1.publishCommit b.tx.changelist none),
        none) := by
  cases sa with
  | nil => exact absurd rfl hne
  | cons a sa =>
      simp [Batch.commit, hsa, MemoryStore.proposeValue, hok, Batch.withTxn]

/-- An `Update` whose callback returns an error aborts: only the ghost
call count moves. -/
theorem MemoryStore.update_cb_error (cb : Tx B → Tx B × Option Err) {v : Option Version}
    {tx : Tx B} {e : Err} (hv : p.getVersion s.calls = v)
    (hcb : cb (Tx.init s.root v) = (tx, some e)) :
    s.update (some p) cb = ({ s with calls := s.calls + 1 }, some e) := by
  simp [MemoryStore.update, hv, hcb]

/-- An `Update` whose proposal raft refuses aborts and returns the error. -/
theorem MemoryStore.update_refused (cb : Tx B → Tx B × Option Err) {v : Option Version}
    {tx : Tx B} {sa : List (StoreAction B)} {e : Err} (hv : p.getVersion s.calls = v)
    (hcb : cb (Tx.init s.root v) = (tx, none)) (hsa : tx.changelistStoreActions = .ok sa)
    (hne : sa ≠ []) (he : p.proposeValue (s.calls + 1) sa = some e) :
    s.update (some p) cb =
      (({ s with calls := s.calls + 1 }.proposeValue p sa).2, some e) := by
  cases sa with
  | nil => exact absurd rfl hne
  | cons a sa => simp [MemoryStore.update, hv, hcb, hsa, MemoryStore.proposeValue, he]

/-- An `Update` whose proposal raft accepts commits the callback's view
and reports success. -/
theorem MemoryStore.update_accepted (cb : Tx B → Tx B × Option Err) {v : Option Version}
    {tx : Tx B} {sa : List (StoreAction B)} (hv : p.getVersion s.calls = v)
    (hcb : cb (Tx.init s.root v) = (tx, none)) (hsa : tx.changelistStoreActions = .ok sa)
    (hne : sa ≠ []) (hok : p.proposeValue (s.calls + 1) sa = none)
    (hlive : tx.memDBTx.live = true) :
    (s.update (some p) cb).2 = none ∧ (s.update (some p) cb).1.root = tx.memDBTx.view := by
  cases sa with
  | nil => exact absurd rfl hne
  | cons a sa =>
      simp [MemoryStore.update, hv, hcb, hsa, MemoryStore.proposeValue, hok,
        MemoryStore.commitTxn_live hlive, MemoryStore.publishCommit]

/-- An `ApplyStoreActions` whose replay goes through commits the replayed
view and publishes its changelist, then `EventCommit{}` without a
version. -/
theorem MemoryStore.applyStoreActions_of_ok {actions : List (StoreAction B)} {tx : Tx B}
    (h : applyStoreActionsTx (Tx.init s.root none) actions = .ok tx) :
    s.applyStoreActions actions =
      ({ s with root := tx.memDBTx.view }.publishCommit tx.changelist none, none) := by
  have hlive : tx.memDBTx.live = true := applyStoreActionsTx_live actions _ tx h
  simp [MemoryStore.applyStoreActions, h, MemoryStore.commitTxn_live hlive]

/-- `ApplyStoreActions` leaves the root `applyRoot` describes. -/
theorem MemoryStore.applyStoreActions_root (actions : List (StoreAction B)) :
    (s.applyStoreActions actions).1.root = applyRoot s.root actions := by
  unfold MemoryStore.applyStoreActions applyRoot replay
  cases h : applyStoreActionsTx (Tx.init s.root none) actions with
  | error e => rfl
  | ok tx =>
      have hlive : tx.memDBTx.live = true := applyStoreActionsTx_live actions _ tx h
      simp [Except.map, MemoryStore.commitTxn_live hlive, MemoryStore.publishCommit]

end Spec

end SwarmKit.Store

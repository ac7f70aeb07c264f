import SwarmKit.Store.Object

/-
Write transactions of the memory store (manager/state/store/memory.go):
the `tx` a callback is handed, its three writes `create`, `update` and
`delete`, the changelist they record, and `applyStoreAction`, through
which `ApplyStoreActions` replays a committed raft entry.

# The three writes

Each write checks the transaction's current view, stamps the object with
`touchMeta` (when the transaction has a version), inserts the copy into
the memdb transaction and appends its event to the changelist. The
caller's object gets the stamped meta too (`o.SetMeta(meta)`), which is
why each write also returns the object: a client that keeps its object
keeps the version the write gave it, whether or not the transaction later
commits.

`update` is the one write with a second check: when the transaction has
a version, the object must carry the version currently stored
(`ErrSequenceConflict` otherwise). A transaction without a version
(`updateLocal`, `ApplyStoreActions`) skips it, and `touchMeta` leaves such
a write's meta alone.

# Callbacks

A Go callback is arbitrary code over the `tx`; the callbacks of the
callers modelled here are sequences of writes that stop at the first failing one and
return its error, the writes before it staying in the transaction. That
is `runOps`. The replay theorem at the end says what `ApplyStoreActions`
relies on: replaying the store actions of a transaction's changelist,
without a version, on the view the transaction started from, rebuilds the
transaction's view.
-/

namespace SwarmKit.Store

-- ========================== errors

/-- The errors a write transaction can end with: the store's own
(`ErrExist`, `ErrNotExist`, `ErrSequenceConflict`,
`errUnknownStoreAction`), those `ProposeValue` passes up from raft
(`ErrLostLeadership`, `ErrRequestTooLarge`, `ErrStopped`, a done context),
and whatever a callback returns of its own. -/
inductive Err
  | exist
  | notExist
  | sequenceConflict
  | unknownStoreAction
  | lostLeadership
  | requestTooLarge
  | stopped
  | contextDone
  | callback (code : Nat)
  deriving DecidableEq, Repr

-- ================= the transaction

/-- A memdb write transaction: its working view of the tables, and whether
it is still live (`rootTxn != nil`; `Commit` and `Abort` both end it). -/
structure Txn (B : Type) where
  view : Db B
  live : Bool

/-- memory.go's `tx`: the memdb transaction, the version its writes are
stamped with, and the changelist of its writes. -/
structure Tx (B : Type) where
  memDBTx : Txn B
  curVersion : Option Version
  changelist : List (Event B)

variable {B : Type}

/-- `tx.init(memDBTx, curVersion)` on a fresh `memDB.Txn(true)` over `root`. -/
def Tx.init (root : Db B) (curVersion : Option Version) : Tx B :=
  ⟨⟨root, true⟩, curVersion, []⟩

/-- `readTx.lookup(table, indexID, id)`. -/
def Tx.lookup (tx : Tx B) (t : Table) (id : Nat) : Option (Object B) :=
  tx.memDBTx.view t id

/-- The transaction with `o` inserted and `ev` appended to its changelist. -/
def Tx.record (tx : Tx B) (view : Db B) (ev : Event B) : Tx B :=
  { tx with memDBTx := { tx.memDBTx with view := view }, changelist := tx.changelist ++ [ev] }

/-- The copy a write inserts: the object with `touchMeta` applied at the
transaction's version. -/
def Tx.stamp (tx : Tx B) (o : Object B) (now : Nat) : Object B :=
  { o with objMeta := touchMeta o.objMeta tx.curVersion now }

/-- `tx.create`: `ErrExist` if the ID is taken; otherwise the stamped copy
is inserted and returned (the caller's object after `o.SetMeta(meta)`). -/
def Tx.create (tx : Tx B) (t : Table) (o : Object B) (now : Nat) :
    Except Err (Tx B × Object B) :=
  if (tx.lookup t o.id).isSome then .error .exist
  else .ok (tx.record (tx.memDBTx.view.insert t (tx.stamp o now)) (.create t (tx.stamp o now)),
    tx.stamp o now)

/-- `tx.update`: `ErrNotExist` if nothing has the ID, `ErrSequenceConflict`
if the transaction has a version and the object's version is not the
stored one; otherwise the stamped copy replaces the stored object. -/
def Tx.update (tx : Tx B) (t : Table) (o : Object B) (now : Nat) :
    Except Err (Tx B × Object B) :=
  match tx.lookup t o.id with
  | none => .error .notExist
  | some old =>
    if tx.curVersion.isSome ∧ old.objMeta.version ≠ o.objMeta.version then .error .sequenceConflict
    else .ok (tx.record (tx.memDBTx.view.insert t (tx.stamp o now)) (.update t (tx.stamp o now) (some old)),
      tx.stamp o now)

/-- `tx.delete`: `ErrNotExist` if nothing has the ID; otherwise the stored
object is removed and its deletion recorded. -/
def Tx.delete (tx : Tx B) (t : Table) (id : Nat) : Except Err (Tx B) :=
  match tx.lookup t id with
  | none => .error .notExist
  | some n => .ok (tx.record (tx.memDBTx.view.erase t id) (.delete t n))

/-- `tx.changelistStoreActions`: the changelist as store actions. -/
def Tx.changelistStoreActions (tx : Tx B) : Except Err (List (StoreAction B)) :=
  match tx.changelist.mapM newStoreAction with
  | none => .error .unknownStoreAction
  | some sa => .ok sa

/-- `applyStoreAction`: the object storer of the action's table runs the
matching write. `ApplyStoreActions`' transaction has no version, so
`touchMeta` never reads the clock and any reading will do. -/
def applyStoreAction (tx : Tx B) (sa : StoreAction B) : Except Err (Tx B) :=
  match sa.action with
  | .create => (tx.create sa.table sa.target 0).map Prod.fst
  | .update => (tx.update sa.table sa.target 0).map Prod.fst
  | .remove => tx.delete sa.table sa.target.id

/-- The loop of `ApplyStoreActions`: apply the actions in order, stopping at
the first error. -/
def applyStoreActionsTx : Tx B → List (StoreAction B) → Except Err (Tx B)
  | tx, [] => .ok tx
  | tx, sa :: rest => (applyStoreAction tx sa).bind fun tx' => applyStoreActionsTx tx' rest

-- ======================= callbacks

/-- One write of a callback, with the clock reading it sees. -/
inductive TxOp (B : Type) where
  | create (t : Table) (o : Object B) (now : Nat)
  | update (t : Table) (o : Object B) (now : Nat)
  | delete (t : Table) (id : Nat)

/-- Run one write. -/
def TxOp.run (tx : Tx B) : TxOp B → Except Err (Tx B)
  | .create t o now => (tx.create t o now).map Prod.fst
  | .update t o now => (tx.update t o now).map Prod.fst
  | .delete t id => tx.delete t id

/-- A callback that runs its writes in order and returns the first error:
the transaction it leaves behind (earlier writes included) and what it
returns. -/
def runOps : Tx B → List (TxOp B) → Tx B × Option Err
  | tx, [] => (tx, none)
  | tx, op :: ops =>
    match op.run tx with
    | .error e => (tx, some e)
    | .ok tx' => runOps tx' ops

-- ===================== spec lemmas

section Spec

variable {tx : Tx B} {t : Table} {o old : Object B} {now : Nat}

@[simp] theorem Tx.record_changelist (v : Db B) (ev : Event B) :
    (tx.record v ev).changelist = tx.changelist ++ [ev] := rfl

@[simp] theorem Tx.record_view (v : Db B) (ev : Event B) : (tx.record v ev).memDBTx.view = v := rfl

@[simp] theorem Tx.record_live (v : Db B) (ev : Event B) :
    (tx.record v ev).memDBTx.live = tx.memDBTx.live := rfl

@[simp] theorem Tx.record_curVersion (v : Db B) (ev : Event B) :
    (tx.record v ev).curVersion = tx.curVersion := rfl

@[simp] theorem Tx.lookup_record (v : Db B) (ev : Event B) : (tx.record v ev).lookup = v := rfl

theorem Tx.create_of_lookup_none (h : tx.lookup t o.id = none) :
    tx.create t o now = .ok (tx.record (tx.memDBTx.view.insert t (tx.stamp o now))
      (.create t (tx.stamp o now)), tx.stamp o now) := by
  simp [Tx.create, h]

theorem Tx.create_of_lookup_some (h : tx.lookup t o.id = some old) :
    tx.create t o now = .error .exist := by
  simp [Tx.create, h]

theorem Tx.update_of_lookup_none (h : tx.lookup t o.id = none) :
    tx.update t o now = .error .notExist := by
  simp [Tx.update, h]

/-- A versioned update of an object that is not at the stored version is
refused. -/
theorem Tx.update_conflict (h : tx.lookup t o.id = some old) (hv : tx.curVersion.isSome)
    (hne : old.objMeta.version ≠ o.objMeta.version) :
    tx.update t o now = .error .sequenceConflict := by
  simp [Tx.update, h, hv, hne]

/-- An update of a stored object succeeds when the transaction has no
version or the object carries the stored one. -/
theorem Tx.update_of_version (h : tx.lookup t o.id = some old)
    (hv : tx.curVersion = none ∨ old.objMeta.version = o.objMeta.version) :
    tx.update t o now = .ok (tx.record (tx.memDBTx.view.insert t (tx.stamp o now))
      (.update t (tx.stamp o now) (some old)), tx.stamp o now) := by
  have hc : ¬(tx.curVersion.isSome ∧ old.objMeta.version ≠ o.objMeta.version) := by
    rintro ⟨hs, hne⟩
    rcases hv with hn | heq
    · simp [hn] at hs
    · exact hne heq
  simp only [Tx.update, h, if_neg hc]

/-- The form the replay and invariant proofs use: no conflict, so the
write goes in. -/
theorem Tx.update_of_not_conflict (h : tx.lookup t o.id = some old)
    (hc : ¬(tx.curVersion.isSome ∧ old.objMeta.version ≠ o.objMeta.version)) :
    tx.update t o now = .ok (tx.record (tx.memDBTx.view.insert t (tx.stamp o now))
      (.update t (tx.stamp o now) (some old)), tx.stamp o now) := by
  simp only [Tx.update, h, if_neg hc]

/-- A write `tx.update` lets in found a stored object without a
conflicting version, replaced it with the stamped copy, and hands the
stamped copy back. -/
theorem Tx.update_eq_ok {tx' : Tx B} {o' : Object B} (h : tx.update t o now = .ok (tx', o')) :
    ∃ old, tx.lookup t o.id = some old ∧
      ¬(tx.curVersion.isSome ∧ old.objMeta.version ≠ o.objMeta.version) ∧
      tx' = tx.record (tx.memDBTx.view.insert t (tx.stamp o now))
        (.update t (tx.stamp o now) (some old)) ∧
      o' = tx.stamp o now := by
  cases hl : tx.lookup t o.id with
  | none => rw [Tx.update_of_lookup_none hl] at h; cases h
  | some old =>
      by_cases hc : tx.curVersion.isSome ∧ old.objMeta.version ≠ o.objMeta.version
      · rw [Tx.update_conflict hl hc.1 hc.2] at h; cases h
      · rw [Tx.update_of_not_conflict hl hc] at h
        cases h
        exact ⟨old, rfl, hc, rfl, rfl⟩

theorem Tx.delete_of_lookup_none {id : Nat} (h : tx.lookup t id = none) :
    tx.delete t id = .error .notExist := by
  simp [Tx.delete, h]

theorem Tx.delete_of_lookup_some {id : Nat} (h : tx.lookup t id = some old) :
    tx.delete t id = .ok (tx.record (tx.memDBTx.view.erase t id) (.delete t old)) := by
  simp [Tx.delete, h]

@[simp] theorem runOps_nil : runOps tx [] = (tx, none) := rfl

theorem runOps_cons_ok {op : TxOp B} {ops : List (TxOp B)} {tx' : Tx B}
    (h : op.run tx = .ok tx') : runOps tx (op :: ops) = runOps tx' ops := by
  simp [runOps, h]

theorem runOps_cons_error {op : TxOp B} {ops : List (TxOp B)} {e : Err}
    (h : op.run tx = .error e) : runOps tx (op :: ops) = (tx, some e) := by
  simp [runOps, h]

/-- A write that went in checked the current view and recorded the new
view with its event: the three cases of `TxOp.run`. -/
theorem TxOp.run_eq_ok {op : TxOp B} {tx' : Tx B} (h : op.run tx = .ok tx') :
    (∃ tb obj n, op = .create tb obj n ∧ tx.lookup tb obj.id = none ∧
      tx' = tx.record (tx.memDBTx.view.insert tb (tx.stamp obj n)) (.create tb (tx.stamp obj n))) ∨
    (∃ tb obj n prev, op = .update tb obj n ∧ tx.lookup tb obj.id = some prev ∧
      ¬(tx.curVersion.isSome ∧ prev.objMeta.version ≠ obj.objMeta.version) ∧
      tx' = tx.record (tx.memDBTx.view.insert tb (tx.stamp obj n))
        (.update tb (tx.stamp obj n) (some prev))) ∨
    (∃ tb id prev, op = .delete tb id ∧ tx.lookup tb id = some prev ∧
      tx' = tx.record (tx.memDBTx.view.erase tb id) (.delete tb prev)) := by
  cases op with
  | create tb obj n =>
      cases hl : tx.lookup tb obj.id with
      | some prev => simp [TxOp.run, Tx.create_of_lookup_some hl, Except.map] at h
      | none =>
          simp only [TxOp.run, Tx.create_of_lookup_none hl, Except.map, Except.ok.injEq] at h
          exact Or.inl ⟨tb, obj, n, rfl, hl, h.symm⟩
  | update tb obj n =>
      cases hu : tx.update tb obj n with
      | error e => simp [TxOp.run, hu, Except.map] at h
      | ok r =>
          obtain ⟨tx₁, obj'⟩ := r
          simp only [TxOp.run, hu, Except.map, Except.ok.injEq] at h
          subst h
          obtain ⟨prev, hl, hc, htx, -⟩ := Tx.update_eq_ok hu
          exact Or.inr (Or.inl ⟨tb, obj, n, prev, rfl, hl, hc, htx⟩)
  | delete tb id =>
      cases hl : tx.lookup tb id with
      | none => simp [TxOp.run, Tx.delete_of_lookup_none hl] at h
      | some prev =>
          simp only [TxOp.run, Tx.delete_of_lookup_some hl, Except.ok.injEq] at h
          exact Or.inr (Or.inr ⟨tb, id, prev, rfl, hl, h.symm⟩)

end Spec

-- ========================== replay

/-- What `ApplyStoreActions` makes of `actions` on `root`: the view its
transaction ends with, or the error it stops at. -/
def replay (root : Db B) (actions : List (StoreAction B)) : Except Err (Db B) :=
  (applyStoreActionsTx (Tx.init root none) actions).map fun tx => tx.memDBTx.view

section Replay

variable {tx tx' t : Tx B}

/-- Without a version, a write stores the object it is given. -/
theorem Tx.stamp_of_none (h : t.curVersion = none) (o : Object B) (now : Nat) :
    t.stamp o now = o := by
  simp [Tx.stamp, h]

@[simp] theorem applyStoreActionsTx_nil : applyStoreActionsTx t [] = .ok t := rfl

theorem applyStoreActionsTx_cons {sa : StoreAction B} {rest : List (StoreAction B)} {t₁ : Tx B}
    (h : applyStoreAction t sa = .ok t₁) :
    applyStoreActionsTx t (sa :: rest) = applyStoreActionsTx t₁ rest := by
  simp [applyStoreActionsTx, h, Except.bind]

/-- A replay that went through went through its first action. -/
theorem applyStoreActionsTx_cons_ok {sa : StoreAction B} {rest : List (StoreAction B)} {t' : Tx B}
    (h : applyStoreActionsTx t (sa :: rest) = .ok t') :
    ∃ t₁, applyStoreAction t sa = .ok t₁ ∧ applyStoreActionsTx t₁ rest = .ok t' := by
  cases h₁ : applyStoreAction t sa with
  | error e => simp [applyStoreActionsTx, h₁, Except.bind] at h
  | ok t₁ => exact ⟨t₁, rfl, by rwa [applyStoreActionsTx_cons h₁] at h⟩

/-- The relation between a write and its replay: `t` replays `tx` when it
has no version and the same view. -/
structure Replaying (t tx : Tx B) : Prop where
  noVersion : t.curVersion = none
  view : t.memDBTx.view = tx.memDBTx.view

/-- A write that succeeded replays: the store action of the event it
recorded, applied without a version to the same view, leaves the view
the write left. This needs the `id` index (`Delete` replays by the
deleted object's ID). -/
theorem TxOp.run_replay {op : TxOp B} (h : op.run tx = .ok tx') (hwf : Db.WF tx.memDBTx.view)
    (hr : Replaying t tx) :
    ∃ ev sa t', tx'.changelist = tx.changelist ++ [ev] ∧ newStoreAction ev = some sa ∧
      applyStoreAction t sa = .ok t' ∧ Replaying t' tx' := by
  have hlook : ∀ tb id, t.lookup tb id = tx.lookup tb id := fun tb id => by
    simp [Tx.lookup, hr.view]
  rcases TxOp.run_eq_ok h with ⟨tb, o, now, -, hl, rfl⟩ | ⟨tb, o, now, old, -, hl, -, rfl⟩ |
    ⟨tb, id, n, -, hl, rfl⟩
  · -- a create replays as a create of the stamped copy
    have hl' : t.lookup tb (tx.stamp o now).id = none := by
      rw [hlook]; exact hl
    refine ⟨.create tb (tx.stamp o now), ⟨.create, tb, tx.stamp o now⟩,
      t.record (t.memDBTx.view.insert tb (tx.stamp o now)) (.create tb (tx.stamp o now)),
      rfl, rfl, ?_, ⟨hr.noVersion, ?_⟩⟩
    · simp [applyStoreAction, Tx.create_of_lookup_none hl', Except.map,
        Tx.stamp_of_none hr.noVersion]
    · simp [hr.view]
  · -- an update replays without a version, so without the version check
    have hl' : t.lookup tb (tx.stamp o now).id = some old := by
      rw [hlook]; exact hl
    refine ⟨.update tb (tx.stamp o now) (some old), ⟨.update, tb, tx.stamp o now⟩,
      t.record (t.memDBTx.view.insert tb (tx.stamp o now))
        (.update tb (tx.stamp o now) (some old)),
      rfl, rfl, ?_, ⟨hr.noVersion, ?_⟩⟩
    · simp [applyStoreAction, Tx.update_of_version hl' (Or.inl hr.noVersion), Except.map,
        Tx.stamp_of_none hr.noVersion]
    · simp [hr.view]
  · -- the deleted object sits under its own ID
    have hid : n.id = id := hwf tb id n hl
    have hl' : t.lookup tb n.id = some n := by
      rw [hlook, hid]; exact hl
    refine ⟨.delete tb n, ⟨.remove, tb, n⟩,
      t.record (t.memDBTx.view.erase tb n.id) (.delete tb n), rfl, rfl, ?_, ⟨hr.noVersion, ?_⟩⟩
    · simp [applyStoreAction, Tx.delete_of_lookup_some hl']
    · simp [hr.view, hid]

/-- A successful write keeps the `id` index. -/
theorem TxOp.run_WF {op : TxOp B} (h : op.run tx = .ok tx') (hwf : Db.WF tx.memDBTx.view) :
    Db.WF tx'.memDBTx.view := by
  rcases TxOp.run_eq_ok h with ⟨tb, -, -, -, -, rfl⟩ | ⟨tb, -, -, -, -, -, -, rfl⟩ |
    ⟨tb, id, -, -, -, rfl⟩
  · exact hwf.insert tb _
  · exact hwf.insert tb _
  · exact hwf.erase tb id

/-- A callback's writes replay: the events it appended convert to store
actions, and applying those without a version to its starting view
rebuilds the view it left. Induction on the writes, with `t` the replay
so far. -/
theorem runOps_replay :
    ∀ (ops : List (TxOp B)) (tx t : Tx B), Db.WF tx.memDBTx.view → Replaying t tx →
      ∃ cl sas t', (runOps tx ops).1.changelist = tx.changelist ++ cl ∧
        cl.mapM newStoreAction = some sas ∧ applyStoreActionsTx t sas = .ok t' ∧
        Replaying t' (runOps tx ops).1 ∧ Db.WF (runOps tx ops).1.memDBTx.view := by
  intro ops
  induction ops with
  | nil =>
      intro tx t hwf hr
      exact ⟨[], [], t, by simp, rfl, rfl, by simpa using hr, by simpa using hwf⟩
  | cons op ops ih =>
      intro tx t hwf hr
      cases h : op.run tx with
      | error e =>
          rw [runOps_cons_error h]
          exact ⟨[], [], t, by simp, rfl, rfl, hr, hwf⟩
      | ok tx₁ =>
          obtain ⟨ev, sa, t₁, hcl₁, hsa, hap, hr₁⟩ := TxOp.run_replay h hwf hr
          obtain ⟨cl, sas, t', hcl, hm, happ, hr', hwf'⟩ := ih tx₁ t₁ (TxOp.run_WF h hwf) hr₁
          rw [runOps_cons_ok h]
          refine ⟨ev :: cl, sa :: sas, t', ?_, ?_, ?_, hr', hwf'⟩
          · rw [hcl, hcl₁]; simp
          · simp [List.mapM_cons, hsa, hm]
          · rw [applyStoreActionsTx_cons hap]; exact happ

/-- The replay theorem: a callback run on a fresh transaction over a
well-formed `root` leaves a changelist whose store actions, replayed by
`ApplyStoreActions` on `root`, give exactly the view the callback left. -/
theorem runOps_init_replay (root : Db B) (hwf : Db.WF root) (v : Option Version)
    (ops : List (TxOp B)) :
    ∃ sas, (runOps (Tx.init root v) ops).1.changelistStoreActions = .ok sas ∧
      replay root sas = .ok (runOps (Tx.init root v) ops).1.memDBTx.view := by
  obtain ⟨cl, sas, t', hcl, hm, happ, hr, -⟩ :=
    runOps_replay ops (Tx.init root v) (Tx.init root none) hwf ⟨rfl, rfl⟩
  have hcl' : (runOps (Tx.init root v) ops).1.changelist = cl := by
    simpa [Tx.init] using hcl
  refine ⟨sas, ?_, ?_⟩
  · unfold Tx.changelistStoreActions
    rw [hcl', hm]
  · simp [replay, happ, Except.map, hr.view]

/-- A successful write leaves the memdb transaction live. -/
theorem TxOp.run_live {op : TxOp B} (h : op.run tx = .ok tx') :
    tx'.memDBTx.live = tx.memDBTx.live := by
  rcases TxOp.run_eq_ok h with ⟨-, -, -, -, -, rfl⟩ | ⟨-, -, -, -, -, -, -, rfl⟩ |
    ⟨-, -, -, -, -, rfl⟩ <;> rfl

/-- Writes never end the memdb transaction. -/
theorem runOps_live : ∀ (ops : List (TxOp B)) (tx : Tx B),
    (runOps tx ops).1.memDBTx.live = tx.memDBTx.live := by
  intro ops
  induction ops with
  | nil => intro tx; rfl
  | cons op ops ih =>
      intro tx
      cases h : op.run tx with
      | error e => rw [runOps_cons_error h]
      | ok tx₁ => rw [runOps_cons_ok h, ih, TxOp.run_live h]

/-- `applyStoreAction` is the write its action names. -/
theorem applyStoreAction_eq_run (sa : StoreAction B) :
    applyStoreAction t sa = (match sa.action with
      | .create => TxOp.create sa.table sa.target 0
      | .update => .update sa.table sa.target 0
      | .remove => .delete sa.table sa.target.id).run t := by
  cases h : sa.action <;> simp [applyStoreAction, h, TxOp.run]

theorem applyStoreActionsTx_live :
    ∀ (sas : List (StoreAction B)) (t t' : Tx B), applyStoreActionsTx t sas = .ok t' →
      t'.memDBTx.live = t.memDBTx.live := by
  intro sas
  induction sas with
  | nil => intro t t' h; cases h; rfl
  | cons sa sas ih =>
      intro t t' h
      obtain ⟨t₁, h₁, h⟩ := applyStoreActionsTx_cons_ok h
      rw [applyStoreAction_eq_run] at h₁
      rw [ih t₁ t' h, TxOp.run_live h₁]

/-- The root `ApplyStoreActions` leaves behind: the replayed view, or the
old root when the replay stops at an error. -/
def applyRoot (root : Db B) (actions : List (StoreAction B)) : Db B :=
  match replay root actions with
  | .ok v => v
  | .error _ => root

theorem applyStoreActionsTx_WF :
    ∀ (sas : List (StoreAction B)) (t t' : Tx B), Db.WF t.memDBTx.view →
      applyStoreActionsTx t sas = .ok t' → Db.WF t'.memDBTx.view := by
  intro sas
  induction sas with
  | nil => intro t t' hwf h; cases h; exact hwf
  | cons sa sas ih =>
      intro t t' hwf h
      obtain ⟨t₁, h₁, h⟩ := applyStoreActionsTx_cons_ok h
      rw [applyStoreAction_eq_run] at h₁
      exact ih t₁ t' (TxOp.run_WF h₁ hwf) h

/-- A replay keeps the `id` index. -/
theorem replay_WF {root v : Db B} {actions : List (StoreAction B)} (hwf : Db.WF root)
    (h : replay root actions = .ok v) : Db.WF v := by
  unfold replay at h
  cases h₁ : applyStoreActionsTx (Tx.init root none) actions with
  | error e => simp [h₁, Except.map] at h
  | ok t =>
      simp only [h₁, Except.map, Except.ok.injEq] at h
      subst h
      exact applyStoreActionsTx_WF actions _ t hwf h₁

theorem applyRoot_of_replay {root v : Db B} {actions : List (StoreAction B)}
    (h : replay root actions = .ok v) : applyRoot root actions = v := by
  simp [applyRoot, h]

theorem applyRoot_WF {root : Db B} (hwf : Db.WF root) (actions : List (StoreAction B)) :
    Db.WF (applyRoot root actions) := by
  unfold applyRoot
  split
  · rename_i v h
    exact replay_WF hwf h
  · exact hwf

/-- One replayed action appends the event of its own change, when the
view keeps the `id` index (a deletion reports the stored object). -/
theorem applyStoreAction_keys {t t' : Tx B} {sa : StoreAction B}
    (h : applyStoreAction t sa = .ok t') (hwf : Db.WF t.memDBTx.view) :
    t'.changelist.filterMap Event.key = t.changelist.filterMap Event.key ++ [sa.key] := by
  rw [applyStoreAction_eq_run] at h
  -- the write that went in is the one the action's kind names
  rcases TxOp.run_eq_ok h with ⟨tb, o, now, hop, -, rfl⟩ | ⟨tb, o, now, old, hop, -, -, rfl⟩ |
    ⟨tb, id, n, hop, hl, rfl⟩ <;>
  cases hk : sa.action <;> rw [hk] at hop <;> cases hop
  · simp [Event.key, newStoreAction, StoreAction.key, hk, Tx.stamp]
  · simp [Event.key, newStoreAction, StoreAction.key, hk, Tx.stamp]
  · -- the deletion reports the stored object, whose ID is the target's
    have hid : n.id = sa.target.id := hwf _ _ n hl
    simp [Event.key, newStoreAction, StoreAction.key, hk, hid]

/-- A replay that goes through reports the changes of its actions, in
order. Induction on the actions, the view keeping the `id` index. -/
theorem applyStoreActionsTx_keys :
    ∀ (sas : List (StoreAction B)) (t t' : Tx B), Db.WF t.memDBTx.view →
      applyStoreActionsTx t sas = .ok t' →
      t'.changelist.filterMap Event.key =
        t.changelist.filterMap Event.key ++ sas.map StoreAction.key := by
  intro sas
  induction sas with
  | nil => intro t t' _ h; cases h; simp
  | cons sa sas ih =>
      intro t t' hwf h
      obtain ⟨t₁, h₁, h⟩ := applyStoreActionsTx_cons_ok h
      have hwf₁ : Db.WF t₁.memDBTx.view := by
        rw [applyStoreAction_eq_run] at h₁
        exact TxOp.run_WF h₁ hwf
      rw [ih t₁ t' hwf₁ h, applyStoreAction_keys h₁ hwf, List.map_cons, List.append_assoc,
        List.singleton_append]

end Replay

end SwarmKit.Store

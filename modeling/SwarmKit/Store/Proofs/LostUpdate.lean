import SwarmKit.Store.Memory
import SwarmKit.Lib.Lts

/-
Optimistic concurrency through `Meta.Version` (memory.go `update`,
`tx.update`, `touchMeta`): clients read an object, change it, and write
their copy back with `store.Update(func(tx) { return UpdateX(tx, o) })`.

# The clients

`World` is the leader's store together with the clients that use it.
A client holds the copy it read. A write-back is one `MemoryStore.update`
call with raft as proposer: `GetVersion()` is the commit index, and a
proposal raft accepts commits one more entry; raft may also commit
entries of its own (`tick`). The client sees the error, and its own
object, which `tx.update` stamps with the transaction's meta
(`o.SetMeta(meta)`) before the proposal's fate is known.

Ghost state records, for each client, the stored object its copy was
read from and whether the copy still carries the version it read
(`fresh`), and for each successful write the object stored when it went
in.

# What holds and what does not

`tx.update` refuses a write whose version is not the stored one, and the
refusal leaves the store, its events and the commit index alone
(`World.write_stale`). But a version is the commit index at the start of
a transaction, not a fresh number: a transaction whose proposal raft
refuses (`ErrRequestTooLarge`, or a context done before `Propose`) leaves
its stamp on the client's object and commits nothing, so the next
committed transaction is stamped with the same version.
`no_lost_update_refuted` runs it: clients 0 and 1 read task 7; client
0's write-back is refused by raft; client 1's goes in at the version
client 0's copy now carries; client 0 retries with its copy and
overwrites client 1's change.

For a client whose copy still carries the version it read, every write
that goes in was based on the object it replaced
(`fresh_write_based_on_latest`): a committed stamp is larger than every
version stored before it (`Inv`).
-/

namespace SwarmKit.Store

variable {B : Type}

-- ========================= clients

/-- A client: the copy it holds and its table, and what its last
write-back returned; and (ghost) the stored object the copy was read from
and whether the copy still carries that object's version. -/
structure Client (B : Type) where
  copy : Option (Table × Object B)
  base : Option (Object B)
  fresh : Bool
  err : Option Err

/-- A write-back that went in (ghost): whether the client's copy was
fresh, the object it was read from, the object stored when it went in. -/
structure Write (B : Type) where
  fresh : Bool
  base : Option (Object B)
  stored : Option (Object B)

/-- The store, raft's commit index, the clients, and the writes so far. -/
structure World (B : Type) where
  store : MemoryStore B
  commit : Nat
  clients : Nat → Client B
  writes : List (Write B)

/-- What a client or raft does next. A write-back names the clock reading
`touchMeta` sees and raft's answer to its proposal: accepted (`none`), or
refused with an error and nothing proposed (`ErrRequestTooLarge`, a done
context before `Propose`). -/
inductive Act (B : Type) where
  | read (c : Nat) (t : Table) (id : Nat)
  | edit (c : Nat) (body : B)
  | write (c : Nat) (now : Nat) (refusal : Option Err)
  | tick

/-- A store holding `root`, with raft's commit index at `commit` and no
client holding anything. -/
def World.init (root : Db B) (commit : Nat) : World B :=
  ⟨⟨root, [], 0, []⟩, commit, fun _ => ⟨none, none, false, none⟩, []⟩

/-- Raft as the proposer of one `Update` call made at store call `n`:
`GetVersion()` is the commit index, and after an accepted proposal its
entry is committed too. -/
def raftProposer (commit n : Nat) (refusal : Option Err) : Proposer B :=
  ⟨fun k => some ⟨if k = n then commit else commit + 1⟩, fun _ _ => refusal⟩

/-- The client's object after `tx.update` ran on `tx`: stamped when the
write entered the transaction, untouched otherwise. -/
def callerCopy (tx : Tx B) (t : Table) (o : Object B) (now : Nat) : Object B :=
  match tx.update t o now with
  | .ok (_, o') => o'
  | .error _ => o

/-- Whether `tx.update` let the write into the transaction. -/
def writeEntered (tx : Tx B) (t : Table) (o : Object B) (now : Nat) : Bool :=
  match tx.update t o now with
  | .ok _ => true
  | .error _ => false

namespace World

/-- The world with client `c` replaced. -/
def setClient (c : Nat) (cl : Client B) (w : World B) : World B :=
  { w with clients := Function.update w.clients c cl }

/-- The transaction an `Update` call starts: over the root, stamped with
`GetVersion()`, the commit index. -/
def updateTx (w : World B) : Tx B := Tx.init w.store.root (some ⟨w.commit⟩)

/-- `store.View` reading the object with ID `id`: the client's copy is
what is stored. -/
def read (c : Nat) (t : Table) (id : Nat) (w : World B) : World B :=
  w.setClient c
    { w.clients c with copy := (w.store.root t id).map (t, ·), base := w.store.root t id, fresh := true }

/-- The client changes its copy's contents, not its meta. -/
def edit (c : Nat) (body : B) (w : World B) : Option (World B) :=
  match (w.clients c).copy with
  | some (t, o) => some (w.setClient c { w.clients c with copy := some (t, { o with body := body }) })
  | none => none

/-- The client writes its copy back in one `Update` call. On success raft
has committed one more entry; on an error the client keeps its copy as
`tx.update` left it. -/
def write (c now : Nat) (refusal : Option Err) (w : World B) : Option (World B) :=
  match (w.clients c).copy with
  | some (t, o) =>
    let o' := callerCopy w.updateTx t o now
    match w.store.update (some (raftProposer w.commit w.store.calls refusal))
        (fun tx => runOps tx [.update t o now]) with
    | (st, none) =>
      let r : Write B := ⟨(w.clients c).fresh, (w.clients c).base, w.store.root t o.id⟩
      some ({ w with store := st, commit := w.commit + 1, writes := w.writes ++ [r] }.setClient c
        ⟨some (t, o'), some o', true, none⟩)
    | (st, some e) =>
      some ({ w with store := st }.setClient c
        { w.clients c with
          copy := some (t, o'), fresh := (w.clients c).fresh && !writeEntered w.updateTx t o now,
          err := some e })
  | none => none

/-- One step. -/
def step : Act B → World B → Option (World B)
  | .read c t id => fun w => some (w.read c t id)
  | .edit c body => edit c body
  | .write c now refusal => write c now refusal
  | .tick => fun w => some { w with commit := w.commit + 1 }

@[simp] theorem setClient_clients (c : Nat) (cl : Client B) (w : World B) :
    (w.setClient c cl).clients = Function.update w.clients c cl := rfl

@[simp] theorem setClient_store (c : Nat) (cl : Client B) (w : World B) :
    (w.setClient c cl).store = w.store := rfl

@[simp] theorem setClient_commit (c : Nat) (cl : Client B) (w : World B) :
    (w.setClient c cl).commit = w.commit := rfl

@[simp] theorem setClient_writes (c : Nat) (cl : Client B) (w : World B) :
    (w.setClient c cl).writes = w.writes := rfl

end World

-- ================== one write-back

section WriteBack

variable {w : World B} {c now : Nat} {t : Table} {o o' : Object B} {tx₁ : Tx B}

theorem runOps_update_error {tx : Tx B} {e : Err} (h : tx.update t o now = .error e) :
    runOps tx [.update t o now] = (tx, some e) :=
  runOps_cons_error (by simp [TxOp.run, h, Except.map])

theorem runOps_update_ok {tx : Tx B} (h : tx.update t o now = .ok (tx₁, o')) :
    runOps tx [.update t o now] = (tx₁, none) := by
  have hrun : TxOp.run tx (.update t o now) = .ok tx₁ := by simp [TxOp.run, h, Except.map]
  rw [runOps_cons_ok hrun]
  rfl

theorem raftProposer_getVersion (commit n : Nat) (refusal : Option Err) :
    (raftProposer commit n refusal : Proposer B).getVersion n = some ⟨commit⟩ := by
  simp [raftProposer]

/-- A write `tx.update` lets into a fresh transaction leaves one store
action to propose, and the transaction live. -/
theorem updateTx_entered (h : w.updateTx.update t o now = .ok (tx₁, o')) :
    tx₁.changelistStoreActions = .ok [⟨.update, t, o'⟩] ∧ tx₁.memDBTx.live = true ∧
      tx₁.memDBTx.view = w.store.root.insert t o' := by
  obtain ⟨old, -, -, rfl, rfl⟩ := Tx.update_eq_ok h
  refine ⟨?_, rfl, rfl⟩
  simp [Tx.changelistStoreActions, World.updateTx, Tx.init, newStoreAction]

/-- A write-back `tx.update` refuses: the client learns the error, and the
store, the events and the commit index stay as they were. -/
theorem World.write_of_error {e : Err} (hc : (w.clients c).copy = some (t, o))
    (he : w.updateTx.update t o now = .error e) (refusal : Option Err) :
    w.write c now refusal =
      some ({ w with store := { w.store with calls := w.store.calls + 1 } }.setClient c
        { w.clients c with err := some e }) := by
  have hu := MemoryStore.update_cb_error (fun tx => runOps tx [.update t o now])
    (raftProposer_getVersion w.commit w.store.calls refusal) (runOps_update_error he)
  unfold World.write
  rw [hc]
  simp only [hu, callerCopy, writeEntered, he, Bool.not_false, Bool.and_true]
  rw [← hc]

/-- A write-back that entered the transaction and whose proposal raft
refuses: the store's root and events are unchanged, and the client keeps
the stamped copy, no longer carrying the version it read. -/
theorem World.write_refused {e : Err} (hc : (w.clients c).copy = some (t, o))
    (hok : w.updateTx.update t o now = .ok (tx₁, o')) :
    ∃ st : MemoryStore B, st.root = w.store.root ∧ st.queue = w.store.queue ∧
      w.write c now (some e) = some ({ w with store := st }.setClient c
        { w.clients c with copy := some (t, o'), fresh := false, err := some e }) := by
  obtain ⟨hsa, -, -⟩ := updateTx_entered hok
  have hu := MemoryStore.update_refused (fun tx => runOps tx [.update t o now])
    (raftProposer_getVersion w.commit w.store.calls (some e)) (runOps_update_ok hok) hsa
    (List.cons_ne_nil _ _)
    (show (raftProposer w.commit w.store.calls (some e)).proposeValue _ _ = some e from rfl)
  refine ⟨({ w.store with calls := w.store.calls + 1 }.proposeValue
    (raftProposer w.commit w.store.calls (some e)) [⟨.update, t, o'⟩]).2, rfl, rfl, ?_⟩
  unfold World.write
  rw [hc]
  simp only [hu, callerCopy, writeEntered, hok, Bool.not_true, Bool.and_false]

/-- A write-back raft accepts: the stamped copy replaces the stored
object, the commit index moves on, and the client's copy is the stamped
one, read back as it is now stored. -/
theorem World.write_accepted (hc : (w.clients c).copy = some (t, o))
    (hok : w.updateTx.update t o now = .ok (tx₁, o')) :
    ∃ st : MemoryStore B, st.root = w.store.root.insert t o' ∧
      w.write c now none = some ({ w with
        store := st, commit := w.commit + 1,
        writes := w.writes ++
          [(⟨(w.clients c).fresh, (w.clients c).base, w.store.root t o.id⟩ : Write B)] }.setClient
          c ⟨some (t, o'), some o', true, none⟩) := by
  obtain ⟨hsa, hlive, hview⟩ := updateTx_entered hok
  obtain ⟨herr, hroot⟩ := MemoryStore.update_accepted (fun tx => runOps tx [.update t o now])
    (raftProposer_getVersion w.commit w.store.calls none) (runOps_update_ok hok) hsa
    (List.cons_ne_nil _ _) rfl hlive
  cases hu : w.store.update (some (raftProposer w.commit w.store.calls none))
      (fun tx => runOps tx [.update t o now]) with
  | mk st err =>
      rw [hu] at herr hroot
      cases herr
      refine ⟨st, hroot.trans hview, ?_⟩
      unfold World.write
      rw [hc]
      simp only [callerCopy, hok, hu]

end WriteBack

-- =================== the invariant

/-- Every version stored in `root` is below `n`. -/
def VersionsBelow (root : Db B) (n : Nat) : Prop :=
  ∀ t id x, root t id = some x → x.objMeta.version.index < n

/-- What a fresh client's copy says about the store: it carries the
version of the object it was read from, and under its key that object is
still stored or has been replaced by one with a later version. -/
def FreshCopy (root : Db B) (cl : Client B) : Prop :=
  cl.fresh = true → ∀ t o, cl.copy = some (t, o) →
    ∃ b x, cl.base = some b ∧ b.objMeta.version = o.objMeta.version ∧
      root t o.id = some x ∧ (x = b ∨ b.objMeta.version.index < x.objMeta.version.index)

/-- The invariant of the clients' world: memdb's shape, stored versions
below the commit index (each was stamped by a committed transaction, or
was there before), fresh copies, and fresh writes based on what they
overwrote. -/
structure Inv (w : World B) : Prop where
  wf : Db.WF w.store.root
  below : VersionsBelow w.store.root w.commit
  fresh : ∀ c, FreshCopy w.store.root (w.clients c)
  writes : ∀ r ∈ w.writes, r.fresh = true → r.base = r.stored

section Invariant

variable {root : Db B} {n : Nat} {cl : Client B} {w w' : World B} {c : Nat} {t : Table}
  {o o' : Object B}

theorem VersionsBelow.mono (h : VersionsBelow root n) {m : Nat} (hm : n ≤ m) :
    VersionsBelow root m :=
  fun t id x hx => Nat.lt_of_lt_of_le (h t id x hx) hm

/-- Inserting an object stamped with the commit index `n` keeps every
stored version below `n + 1`. -/
theorem VersionsBelow.insert (h : VersionsBelow root n) (ho : o'.objMeta.version.index = n) :
    VersionsBelow (root.insert t o') (n + 1) := by
  intro t' id x hx
  rw [Db.insert_apply] at hx
  split at hx
  · cases hx
    omega
  · exact Nat.lt_succ_of_lt (h t' id x hx)

/-- A fresh copy stays fresh when a later version is stored anywhere. -/
theorem FreshCopy.insert (h : FreshCopy root cl) (hb : VersionsBelow root n)
    (ho : o'.objMeta.version.index = n) : FreshCopy (root.insert t o') cl := by
  intro hf t₁ o₁ hc
  obtain ⟨b, x, hbase, hbv, hx, hxb⟩ := h hf t₁ o₁ hc
  have hlt : b.objMeta.version.index < n := by
    rcases hxb with hxb | hxb
    · exact hxb ▸ hb t₁ o₁.id x hx
    · exact Nat.lt_trans hxb (hb t₁ o₁.id x hx)
  by_cases hk : t₁ = t ∧ o₁.id = o'.id
  · -- the copy's key is the one written: the new object is later still
    refine ⟨b, o', hbase, hbv, ?_, Or.inr (ho ▸ hlt)⟩
    rw [Db.insert_apply, if_pos hk]
  · refine ⟨b, x, hbase, hbv, ?_, hxb⟩
    rw [Db.insert_apply, if_neg hk, hx]

/-- A fresh copy whose version is the stored object's was read from that
object. -/
theorem FreshCopy.based {x : Object B} (h : FreshCopy root cl) (hf : cl.fresh = true)
    (hc : cl.copy = some (t, o)) (hx : root t o.id = some x)
    (hv : x.objMeta.version = o.objMeta.version) : cl.base = some x := by
  obtain ⟨b, x', hbase, hbv, hx', hxb⟩ := h hf t o hc
  rw [hx, Option.some.injEq] at hx'
  subst hx'
  rcases hxb with rfl | hlt
  · exact hbase
  · rw [hv, ← hbv] at hlt
    exact absurd hlt (Nat.lt_irrefl _)

/-- A copy just read from a well-formed store is fresh. -/
theorem FreshCopy.read (hwf : Db.WF root) (id : Nat) :
    FreshCopy root
      { cl with copy := (root t id).map (t, ·), base := root t id, fresh := true } := by
  intro _ t₁ o₁ hc
  cases hx : root t id with
  | none => simp [hx] at hc
  | some x =>
      simp only [hx, Option.map_some, Option.some.injEq, Prod.mk.injEq] at hc
      obtain ⟨rfl, rfl⟩ := hc
      have hid : x.id = id := hwf t id x hx
      exact ⟨x, x, rfl, rfl, hid ▸ hx, Or.inl rfl⟩

/-- Editing a copy's contents keeps it fresh. -/
theorem FreshCopy.edit (h : FreshCopy root cl) (hc : cl.copy = some (t, o)) (body : B) :
    FreshCopy root { cl with copy := some (t, { o with body := body }) } := by
  intro hf t₁ o₁ hc₁
  simp only [Option.some.injEq, Prod.mk.injEq] at hc₁
  obtain ⟨rfl, rfl⟩ := hc₁
  exact h hf t o hc

/-- The stamped copy a client keeps after its write went in is what is
stored. -/
theorem FreshCopy.written (e : Option Err) :
    FreshCopy (root.insert t o') ⟨some (t, o'), some o', true, e⟩ := by
  intro _ t₁ o₁ hc
  simp only [Option.some.injEq, Prod.mk.injEq] at hc
  obtain ⟨rfl, rfl⟩ := hc
  exact ⟨o', o', rfl, rfl, Db.insert_same _ _ _, Or.inl rfl⟩

theorem Inv.setClient (hi : Inv w) (hcl : FreshCopy w.store.root cl) : Inv (w.setClient c cl) where
  wf := hi.wf
  below := hi.below
  fresh d := by
    by_cases hd : d = c
    · subst hd
      simpa using hcl
    · simpa [Function.update_of_ne hd] using hi.fresh d
  writes := hi.writes

theorem Inv.withStore {st : MemoryStore B} (hi : Inv w) (hroot : st.root = w.store.root) :
    Inv { w with store := st } where
  wf := hroot ▸ hi.wf
  below := hroot ▸ hi.below
  fresh d := hroot ▸ hi.fresh d
  writes := hi.writes

theorem Inv.read (hi : Inv w) (id : Nat) : Inv (w.read c t id) :=
  hi.setClient (FreshCopy.read hi.wf id)

theorem Inv.edit (hi : Inv w) {body : B} (h : World.edit c body w = some w') : Inv w' := by
  unfold World.edit at h
  cases hc : (w.clients c).copy with
  | none => rw [hc] at h; cases h
  | some p =>
      obtain ⟨t, o⟩ := p
      rw [hc] at h
      cases h
      exact hi.setClient ((hi.fresh c).edit hc body)

/-- The write-back step: a refused one changes nothing the invariant
reads but the writer's copy, which is left fresh only when it was not
stamped; an accepted one stores a version above all others, and was
based on the object it replaced when its copy was fresh. -/
theorem Inv.write (hi : Inv w) {now : Nat} {refusal : Option Err}
    (h : w.write c now refusal = some w') : Inv w' := by
  cases hc : (w.clients c).copy with
  | none => simp [World.write, hc] at h
  | some p =>
    obtain ⟨t, o⟩ := p
    cases hu : w.updateTx.update t o now with
    | error e =>
        rw [World.write_of_error hc hu, Option.some.injEq] at h
        subst h
        have hroot :
            ({ w.store with calls := w.store.calls + 1 } : MemoryStore B).root = w.store.root := rfl
        exact (hi.withStore hroot).setClient (hi.fresh c)
    | ok r =>
      obtain ⟨tx₁, o'⟩ := r
      obtain ⟨old, hl, hnc, -, rfl⟩ := Tx.update_eq_ok hu
      cases refusal with
      | some e =>
          obtain ⟨st, hroot, -, hw⟩ := World.write_refused (e := e) hc hu
          rw [hw, Option.some.injEq] at h
          subst h
          refine (hi.withStore hroot).setClient ?_
          intro hf
          cases hf
      | none =>
          obtain ⟨st, hroot, hw⟩ := World.write_accepted hc hu
          rw [hw, Option.some.injEq] at h
          subst h
          have hv : (w.updateTx.stamp o now).objMeta.version.index = w.commit := rfl
          have hold : old.objMeta.version = o.objMeta.version := by
            simpa [World.updateTx, Tx.init] using hnc
          refine Inv.setClient ⟨?_, ?_, ?_, ?_⟩ ?_
          · exact hroot ▸ hi.wf.insert t _
          · exact hroot ▸ hi.below.insert hv
          · exact fun d => hroot ▸ (hi.fresh d).insert hi.below hv
          · -- the new write record: a fresh copy was read from `old`
            intro r hr hf
            rcases List.mem_append.mp hr with hr | hr
            · exact hi.writes r hr hf
            · rw [List.mem_singleton] at hr
              subst hr
              show (w.clients c).base = w.store.root t o.id
              rw [(hi.fresh c).based hf hc hl hold]
              exact hl.symm
          · exact hroot ▸ FreshCopy.written none

theorem Inv.step (hi : Inv w) {a : Act B} (h : World.step a w = some w') : Inv w' := by
  cases a with
  | read c t id =>
      cases h
      exact hi.read id
  | edit c body => exact hi.edit h
  | write c now refusal => exact hi.write h
  | tick =>
      cases h
      exact ⟨hi.wf, hi.below.mono (Nat.le_succ _), hi.fresh, hi.writes⟩

theorem inv_inductive (root : Db B) (commit : Nat) (hwf : Db.WF root)
    (hbelow : VersionsBelow root commit) :
    Lts.Inductive World.step (World.init root commit) Inv where
  init :=
    { wf := hwf, below := hbelow, fresh := fun _ hf => (by cases hf),
      writes := fun _ hr => (by cases hr) }
  step hi h := hi.step h

/-- A write-back whose copy does not carry the stored version is refused
with `ErrSequenceConflict`, and leaves the store, its events and the
writes as they were. -/
theorem World.write_stale {old : Object B} {now : Nat} (refusal : Option Err)
    (hc : (w.clients c).copy = some (t, o)) (hx : w.store.root t o.id = some old)
    (hne : old.objMeta.version ≠ o.objMeta.version) :
    ∃ w', w.write c now refusal = some w' ∧ (w'.clients c).err = some .sequenceConflict ∧
      w'.store.root = w.store.root ∧ w'.store.queue = w.store.queue ∧ w'.writes = w.writes := by
  have hu : w.updateTx.update t o now = .error .sequenceConflict :=
    Tx.update_conflict hx rfl hne
  exact ⟨_, World.write_of_error hc hu refusal, by simp, rfl, rfl, rfl⟩

end Invariant

-- ========================= results

/-- Every write that went in was based on the object stored when it went
in. -/
def NoLostUpdate (w : World B) : Prop := ∀ r ∈ w.writes, r.base = r.stored

instance [DecidableEq B] (w : World B) : Decidable (NoLostUpdate w) := by
  unfold NoLostUpdate
  infer_instance

/-- A task with ID 7 at `version`, with contents `body`. -/
def task7 (version body : Nat) : Object Nat := ⟨7, ⟨⟨version⟩, none, none⟩, body⟩

/-- Both clients read task 7 (version 0); client 0's write-back is
refused (`ErrRequestTooLarge`) after `tx.update` stamped its copy with
version 1; client 1's write-back goes in at version 1; client 0 retries
with the copy it holds. -/
def lostUpdate : List (Act Nat) :=
  [.read 0 .task 7, .read 1 .task 7, .edit 0 1, .write 0 5 (some .requestTooLarge), .edit 1 2,
   .write 1 5 none, .write 0 6 none]

/-- Not every write that goes in was based on the latest stored object:
client 0's retry overwrites client 1's change. -/
theorem no_lost_update_refuted :
    ¬∀ w, Lts.Reachable World.step (World.init ((Db.empty Nat).insert .task (task7 0 0)) 1) w →
      NoLostUpdate w := by
  intro h
  have hrun : (Lts.run World.step (World.init ((Db.empty Nat).insert .task (task7 0 0)) 1)
      lostUpdate).map (fun w => decide (NoLostUpdate w)) = some false := by
    decide +kernel
  cases hw :
      Lts.run World.step (World.init ((Db.empty Nat).insert .task (task7 0 0)) 1) lostUpdate with
  | none => rw [hw] at hrun; cases hrun
  | some w =>
      have hok : NoLostUpdate w := h w (Lts.reachable_of_run hw)
      rw [hw, Option.map_some, Option.some.injEq, decide_eq_false_iff_not] at hrun
      exact hrun hok

-- the run: client 1's contents (2) are gone, client 0's (1) are stored
example : (Lts.run World.step (World.init ((Db.empty Nat).insert .task (task7 0 0)) 1)
    lostUpdate).map (fun w => ((w.store.root .task 7).map (·.body), w.writes.length)) =
    some (some 1, 2) := by
  decide +kernel

/-- What holds: a write-back of a copy not carrying the stored version is
refused with `ErrSequenceConflict` and changes nothing, and every write
that went in from a copy still carrying the version it was read at was
based on the object it replaced. -/
theorem fresh_write_based_on_latest (root : Db B) (commit : Nat) (hwf : Db.WF root)
    (hbelow : VersionsBelow root commit) (w : World B)
    (hw : Lts.Reachable World.step (World.init root commit) w) :
    (∀ c t o old now refusal, (w.clients c).copy = some (t, o) → w.store.root t o.id = some old →
      old.objMeta.version ≠ o.objMeta.version →
      ∃ w', w.write c now refusal = some w' ∧ (w'.clients c).err = some .sequenceConflict ∧
        w'.store.root = w.store.root ∧ w'.store.queue = w.store.queue ∧ w'.writes = w.writes) ∧
    ∀ r ∈ w.writes, r.fresh = true → r.base = r.stored := by
  have hi : Inv w := (inv_inductive root commit hwf hbelow).reachable hw
  exact ⟨fun c t o old now refusal hc hx hne => World.write_stale refusal hc hx hne, hi.writes⟩

/-- Both clients read task 7 and client 1's write-back goes in; client 0
then edits the copy it read, which still carries version 0. -/
def staleCopy : List (Act Nat) :=
  [.read 0 .task 7, .read 1 .task 7, .edit 1 2, .write 1 5 none, .edit 0 1]

/-- After `staleCopy`, client 0's write-back is refused with
`ErrSequenceConflict` and changes nothing, and client 1's write, which
went in from a fresh copy, was based on the object it replaced. -/
theorem stale_copy_refused :
    ∃ w, Lts.run World.step (World.init ((Db.empty Nat).insert .task (task7 0 0)) 1) staleCopy =
        some w ∧ w.writes.map (·.fresh) = [true] ∧
      (∃ w', w.write 0 6 none = some w' ∧ (w'.clients 0).err = some .sequenceConflict ∧
        w'.store.root = w.store.root ∧ w'.store.queue = w.store.queue ∧ w'.writes = w.writes) ∧
      ∀ r ∈ w.writes, r.fresh = true → r.base = r.stored := by
  have hwf : Db.WF ((Db.empty Nat).insert .task (task7 0 0)) := Db.empty_WF.insert _ _
  have hbelow : VersionsBelow ((Db.empty Nat).insert .task (task7 0 0)) 1 := by
    intro t id x hx
    rw [Db.insert_apply] at hx
    split at hx
    · cases hx
      decide
    · cases hx
  cases hrun : Lts.run World.step (World.init ((Db.empty Nat).insert .task (task7 0 0)) 1) staleCopy with
  | none =>
    have hsome : (Lts.run World.step (World.init ((Db.empty Nat).insert .task (task7 0 0)) 1)
        staleCopy).isSome = true := by decide +kernel
    rw [hrun] at hsome
    cases hsome
  | some w =>
    -- what the run leaves: client 0's copy of task 7 at version 0, task 7
    -- stored at version 1, and client 1's fresh write
    have hobs : (Lts.run World.step (World.init ((Db.empty Nat).insert .task (task7 0 0)) 1)
        staleCopy).map (fun w => ((w.clients 0).copy.map fun p => (p.1, p.2.id, p.2.objMeta.version),
          (w.store.root .task 7).map (·.objMeta.version), w.writes.map (·.fresh))) =
        some (some (.task, 7, ⟨0⟩), some ⟨1⟩, [true]) := by
      decide +kernel
    rw [hrun, Option.map_some, Option.some.injEq, Prod.mk.injEq, Prod.mk.injEq] at hobs
    obtain ⟨hcopy, hstored, hfresh⟩ := hobs
    obtain ⟨⟨t, o⟩, hc, hto⟩ := Option.map_eq_some_iff.mp hcopy
    obtain ⟨old, hold, hv⟩ := Option.map_eq_some_iff.mp hstored
    simp only [Prod.mk.injEq] at hto
    obtain ⟨rfl, hid, ho⟩ := hto
    have hres := fresh_write_based_on_latest _ 1 hwf hbelow w (Lts.reachable_of_run hrun)
    refine ⟨w, rfl, hfresh, hres.1 0 .task o old 6 none hc (hid ▸ hold) ?_, hres.2⟩
    rw [hv, ho]
    decide

end SwarmKit.Store

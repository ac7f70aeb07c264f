import SwarmKit.Raft.Node

/-
Exactly-once application of committed entries on a node
(raft.go `processInternalRaftRequest`/`processEntry`, wait.go, and the
commit guard of memory.go's `update`).

# What the design guarantees

A committed normal entry reaches the store by one of two paths. If the
`Update` call that proposed it still has its wait item registered when
`processEntry` runs, `trigger` takes the item and its callback commits
the call's memdb transaction; otherwise `processEntry` cancels every wait
and replays the entry with `ApplyStoreActions`. `exactly_once_processed`
says what this amounts to: the store is always the processed prefix of
the log with each entry applied once, in log order, by the all-or-nothing
rule of `ApplyStoreActions` (`replayLog`), whichever path took it; and an
`Update` call that returned an error never committed its own
transaction.

# What it does not guarantee

An entry whose actions no longer apply when its turn comes is applied by
neither path: `ApplyStoreActions` fails, logs and aborts, on every
replica. `exactly_once_refuted` runs one way this happens: a leader's
proposal passes the leadership check, the node steps down, and
`Propose` forwards the entry to the new leader, which commits it behind
a conflicting entry of its own.

The failed-`Propose` path is left out: when `Propose` reports an error
after the entry was handed over, the call cancels its wait and returns
without reading the channel, and if `trigger` took the item first, the
callback races the call's `Abort`. `Node.stepNoRace` is the node
without that race, and the theorem is about its runs.

# The invariant

`Inv` ties the three parties together: the store is `replayLog` of the
processed prefix; the running call's transaction, while its guard token
is there, is the replay of its actions on the current root (only that
call can commit while it holds `updateLock`); every registered item is
the running call's, with an empty channel; a trigger in progress has
taken the item of a call inside `Propose`'s wait, whose request is the
entry being processed (`RunInv`); and request IDs are fresh, so a
foreign or stale entry never finds a live item. Each action keeps `Inv`
(`Inv.start` … `Inv.advance`), the raft steps through one frame lemma
(`Inv.raft`).
-/

namespace SwarmKit.Raft

open SwarmKit.Store

variable {B : Type}

-- =================== the invariant

/-- The request a normal entry carries. -/
def Entry.request? : Entry B → Option (Request B)
  | .normal r => some r
  | .other => none

/-- Every request the node may still see committed: those in its log and
its forwarded proposals no log holds yet. -/
def Node.requests (s : Node B) : List (Request B) := s.log.filterMap Entry.request? ++ s.inflight

/-- What holds of the `Update` call holding the lock. -/
structure SlotInv (s : Node B) (u : Update B) : Prop where
  /-- Its ID came from this node's generator. -/
  mine : u.id.member = s.self ∧ u.id.seq < s.nextSeq
  /-- Every request with its ID is its own proposal. -/
  own_actions : ∀ r ∈ s.requests, r.id = u.id → r.action = u.actions
  /-- Before `Propose` nothing carries its ID. -/
  fresh : u.pc = .registered ∨ u.pc = .checked → ∀ r ∈ s.requests, r.id ≠ u.id
  /-- While the guard token is there, committing its transaction is
  replaying its actions on the current root. -/
  commits : u.guard = true →
    u.tx.memDBTx.live = true ∧ replay s.store.root u.actions = .ok u.tx.memDBTx.view
  /-- Its own commit ran only through a trigger, which also sent on the
  channel, and then it can only succeed. -/
  own : u.ownCommit = true → u.chan = .sent ∧
    (u.pc = .proposing ∨ u.pc = .waiting ∨ u.pc = .draining ∨ u.pc = .returned none)
  /-- A closed or filled channel means the item has left the map. -/
  unregistered : u.chan ≠ .empty → u.id ∉ s.wait
  /-- A call that returned has no item in the map. -/
  returned : ∀ e, u.pc = .returned e → u.id ∉ s.wait

/-- What holds of the `Run` loop's action in progress. -/
def RunInv (s : Node B) : Prop :=
  match s.run with
  | .idle | .cancelling => True
  | .triggering id =>
    s.applied < s.commit ∧ id ∉ s.wait ∧
      ∃ u, s.update = some u ∧ u.id = id ∧ u.guard = true ∧ u.chan = .empty ∧
        (u.pc = .proposing ∨ u.pc = .waiting ∨ u.pc = .draining) ∧
        s.log[s.applied]? = some (.normal ⟨id, u.actions⟩)
  | .applying r => s.applied < s.commit ∧ s.log[s.applied]? = some (.normal r)

/-- The node invariant, for a node started on `root`. -/
structure Inv (root : Db B) (s : Node B) : Prop where
  applied_le : s.applied ≤ s.commit
  commit_le : s.commit ≤ s.log.length
  /-- The store is the processed prefix of the log, each entry applied once. -/
  store : s.store.root = replayLog root (s.log.take s.applied)
  wf : Db.WF s.store.root
  /-- This node's requests carry IDs its generator already gave out. -/
  ids : ∀ r ∈ s.requests, r.id.member = s.self → r.id.seq < s.nextSeq
  /-- Every registered item is the running call's, untriggered. -/
  wait_owned : ∀ id ∈ s.wait,
    ∃ u, s.update = some u ∧ u.id = id ∧ u.guard = true ∧ u.chan = .empty
  slot : ∀ u, s.update = some u → SlotInv s u
  run : RunInv s
  /-- No call that returned an error committed its own transaction. -/
  finished : ∀ f ∈ s.finished, f.err.isSome = true → f.ownCommit = false

-- =========== runs without the race

/-- `Propose` reporting an error after `trigger` took the proposal's item:
the failed-`Propose` path returns without reading the channel, so the
callback may still commit, or find the guard taken by `Abort`. -/
def Node.racesTrigger (s : Node B) : Action B → Bool
  | .proposeReturn false =>
    match s.update with
    | some u => decide (u.id ∉ s.wait) && decide (u.chan ≠ .closed)
    | none => false
  | _ => false

/-- The node's steps, without that race. -/
def Node.stepNoRace (size : Request B → Nat) (a : Action B) (s : Node B) : Option (Node B) :=
  if s.racesTrigger a then none else Node.step size a s

-- =================== initial state

variable {root : Db B}

theorem inv_init (self : Nat) (hwf : Db.WF root) : Inv root (Node.init self root) where
  applied_le := (Nat.le_refl _)
  commit_le := (Nat.le_refl _)
  store := rfl
  wf := hwf
  ids := by simp [Node.requests, Node.init]
  wait_owned := by simp [Node.init]
  slot := by simp [Node.init]
  run := trivial
  finished := by simp [Node.init]

-- ====================== raft steps

/-- Two logs that agree up to `n` agree below it. -/
theorem take_eq_of_le {L M : List (Entry B)} {k n : Nat} (h : L.take n = M.take n) (hk : k ≤ n) :
    L.take k = M.take k := by
  have hmin : min k n = k := Nat.min_eq_left hk
  rw [← hmin, ← List.take_take, h, List.take_take]

theorem getElem?_eq_of_lt {L M : List (Entry B)} {k n : Nat} (h : L.take n = M.take n)
    (hk : k < n) : L[k]? = M[k]? := by
  rw [← List.getElem?_take_of_lt hk, h, List.getElem?_take_of_lt hk]

/-- The frame of the raft steps: they change the log, the forwarded
proposals, the commit index and raft's leadership only. The invariant
survives when the commit index does not move back, the committed prefix
stays, and every request they add is another member's or already known. -/
theorem Inv.raft {s : Node B} (hi : Inv root s) (L : List (Entry B)) (I : List (Request B))
    (c : Nat) (l : Bool) (hc : s.commit ≤ c) (hcL : c ≤ L.length)
    (hpre : L.take s.commit = s.log.take s.commit)
    (hreq : ∀ r ∈ L.filterMap Entry.request? ++ I, r ∈ s.requests ∨ r.id.member ≠ s.self) :
    Inv root { s with log := L, inflight := I, commit := c, leader := l } := by
  have hreq' : ∀ r ∈ L.filterMap Entry.request? ++ I, ∀ u, s.update = some u → r.id = u.id →
      r ∈ s.requests := by
    intro r hr u hu hid
    rcases hreq r hr with h | h
    · exact h
    · exact absurd (hid ▸ (hi.slot u hu).mine.1) h
  refine ⟨by simpa using Nat.le_trans hi.applied_le hc, hcL, ?_, hi.wf, ?_, hi.wait_owned,
    ?_, ?_, hi.finished⟩
  · show s.store.root = replayLog root (L.take s.applied)
    rw [take_eq_of_le hpre hi.applied_le]
    exact hi.store
  · intro r hr hm
    rcases hreq r hr with h | h
    · exact hi.ids r h hm
    · exact absurd hm h
  · intro u hu
    have hs := hi.slot u hu
    exact ⟨hs.mine, fun r hr hid => hs.own_actions r (hreq' r hr u hu hid) hid,
      fun hpc r hr hid => hs.fresh hpc r (hreq' r hr u hu hid) hid,
      hs.commits, hs.own, hs.unregistered, hs.returned⟩
  · have hrun := hi.run
    cases hr : s.run with
    | idle => simp only [RunInv]
    | cancelling => simp only [RunInv]
    | triggering id =>
        simp only [RunInv, hr] at hrun ⊢
        obtain ⟨hlt, hw, u, hu, hrest⟩ := hrun
        refine ⟨Nat.lt_of_lt_of_le hlt hc, hw, u, hu, ?_⟩
        rw [getElem?_eq_of_lt hpre hlt]
        exact hrest
    | applying r =>
        simp only [RunInv, hr] at hrun ⊢
        obtain ⟨hlt, he⟩ := hrun
        refine ⟨Nat.lt_of_lt_of_le hlt hc, ?_⟩
        rw [getElem?_eq_of_lt hpre hlt]
        exact he

variable {s s' : Node B}

theorem Inv.stepDown (hi : Inv root s) (h : s.stepDown = some s') : Inv root s' := by
  unfold Node.stepDown at h
  split at h
  · cases h
    exact hi.raft s.log s.inflight s.commit false (Nat.le_refl _) hi.commit_le rfl
      (fun r hr => Or.inl hr)
  · cases h

theorem Inv.becomeLeader (hi : Inv root s) (h : s.becomeLeader = some s') : Inv root s' := by
  unfold Node.becomeLeader at h
  split at h
  · cases h
  · cases h
    refine hi.raft (s.log ++ [.other]) s.inflight s.commit true (Nat.le_refl _) ?_ ?_ ?_
    · simpa using Nat.le_succ_of_le hi.commit_le
    · exact List.take_append_of_le_length hi.commit_le
    · intro r hr
      left
      simpa [Node.requests, Entry.request?] using hr

theorem Inv.receive {e : Entry B} (hi : Inv root s) (h : s.receive e = some s') :
    Inv root s' := by
  unfold Node.receive at h
  split at h
  · cases h
  · have hlen : s.commit ≤ (s.log ++ [e]).length := by
      simpa using Nat.le_succ_of_le hi.commit_le
    have hpre : (s.log ++ [e]).take s.commit = s.log.take s.commit :=
      List.take_append_of_le_length hi.commit_le
    cases e with
    | normal r =>
        simp only at h
        split at h
        · cases h
        · rename_i hm
          cases h
          refine hi.raft _ s.inflight s.commit s.leader (Nat.le_refl _) hlen hpre ?_
          intro r' hr'
          simp only [List.filterMap_append, List.mem_append, List.filterMap_cons,
            List.filterMap_nil, Entry.request?, List.mem_singleton] at hr'
          rcases hr' with (h₁ | h₁) | h₁
          · exact Or.inl (List.mem_append_left _ h₁)
          · subst h₁; exact Or.inr hm
          · exact Or.inl (List.mem_append_right _ h₁)
    | other =>
        simp only at h
        cases h
        refine hi.raft _ s.inflight s.commit s.leader (Nat.le_refl _) hlen hpre ?_
        intro r hr
        left
        simpa [Node.requests, Entry.request?] using hr

theorem Inv.forwarded {i : Nat} (hi : Inv root s) (h : s.forwarded i = some s') :
    Inv root s' := by
  unfold Node.forwarded at h
  split at h
  · cases h
  · split at h
    · rename_i r hr
      cases h
      refine hi.raft _ _ s.commit s.leader (Nat.le_refl _) ?_
        (List.take_append_of_le_length hi.commit_le) ?_
      · simpa using Nat.le_succ_of_le hi.commit_le
      · intro r' hr'
        left
        have hri : r ∈ s.inflight := List.mem_of_getElem? hr
        simp only [List.filterMap_append, List.mem_append, List.filterMap_cons,
          List.filterMap_nil, Entry.request?, List.mem_singleton] at hr'
        simp only [Node.requests, List.mem_append]
        rcases hr' with (h₁ | h₁) | h₁
        · exact Or.inl h₁
        · subst h₁; exact Or.inr hri
        · exact Or.inr (List.mem_of_mem_eraseIdx h₁)
    · cases h

theorem Inv.truncate {n : Nat} (hi : Inv root s) (h : s.truncate n = some s') : Inv root s' := by
  unfold Node.truncate at h
  split at h
  · rename_i hc
    cases h
    refine hi.raft _ s.inflight s.commit s.leader (Nat.le_refl _) ?_ ?_ ?_
    · simp only [List.length_take]
      exact Nat.le_min.mpr ⟨hc.2, hi.commit_le⟩
    · rw [List.take_take, Nat.min_eq_left hc.2]
    · intro r hr
      left
      simp only [List.mem_append, List.mem_filterMap] at hr
      simp only [Node.requests, List.mem_append, List.mem_filterMap]
      rcases hr with ⟨e, he, hre⟩ | hr
      · exact Or.inl ⟨e, List.mem_of_mem_take he, hre⟩
      · exact Or.inr hr
  · cases h

theorem Inv.advance {c : Nat} (hi : Inv root s) (h : s.advance c = some s') : Inv root s' := by
  unfold Node.advance at h
  split at h
  · rename_i hc
    cases h
    exact hi.raft s.log s.inflight c s.leader hc.1 hc.2 (by rw [take_eq_of_le rfl hc.1])
      (fun r hr => Or.inl hr)
  · cases h

-- ==================== shared facts

/-- Processing one more entry of the log applies it to the store. -/
theorem replayLog_take_succ {l : List (Entry B)} {k : Nat} {e : Entry B} (h : l[k]? = some e) :
    replayLog root (l.take (k + 1)) = e.applyTo (replayLog root (l.take k)) := by
  simp [replayLog, List.take_add_one, h]

@[simp] theorem Wait.mem_remove {w : Wait} {id id' : ReqId} :
    id' ∈ w.remove id ↔ id' ∈ w ∧ id' ≠ id := by
  simp [Wait.remove]

/-- The request of a normal entry in the log is one of the node's. -/
theorem mem_requests_of_log {s : Node B} {k : Nat} {r : Request B}
    (h : s.log[k]? = some (.normal r)) : r ∈ s.requests :=
  List.mem_append_left _ (List.mem_filterMap.mpr ⟨_, List.mem_of_getElem? h, rfl⟩)

/-- Every registered item is the running call's. -/
theorem Inv.eq_of_mem_wait (hi : Inv root s) {u : Update B} (hu : s.update = some u) {id : ReqId}
    (h : id ∈ s.wait) : id = u.id := by
  obtain ⟨u', hu', hid, -⟩ := hi.wait_owned id h
  rw [hu] at hu'
  cases hu'
  exact hid.symm

/-- With the running call's item gone, the map is empty. -/
theorem Inv.wait_nil (hi : Inv root s) {u : Update B} (hu : s.update = some u)
    (h : u.id ∉ s.wait) : ∀ id, id ∉ s.wait := by
  intro id hid
  exact h (hi.eq_of_mem_wait hu hid ▸ hid)

/-- Without a running call, the map is empty. -/
theorem Inv.wait_nil_of_none (hi : Inv root s) (hu : s.update = none) : ∀ id, id ∉ s.wait := by
  intro id hid
  obtain ⟨u, hu', -⟩ := hi.wait_owned id hid
  rw [hu] at hu'
  cases hu'

/-- What `RunInv` says when a trigger is in progress. -/
theorem Inv.triggering (hi : Inv root s) {id : ReqId} (hr : s.run = .triggering id) :
    s.applied < s.commit ∧ id ∉ s.wait ∧
      ∃ u, s.update = some u ∧ u.id = id ∧ u.guard = true ∧ u.chan = .empty ∧
        (u.pc = .proposing ∨ u.pc = .waiting ∨ u.pc = .draining) ∧
        s.log[s.applied]? = some (.normal ⟨id, u.actions⟩) := by
  have h := hi.run
  simp only [RunInv, hr] at h
  exact h

/-- No trigger is in progress while the running call is outside
`Propose`'s wait. -/
theorem Inv.not_triggering (hi : Inv root s) {u : Update B} (hu : s.update = some u)
    (hpc : ¬(u.pc = .proposing ∨ u.pc = .waiting ∨ u.pc = .draining)) (id : ReqId) :
    s.run ≠ .triggering id := by
  intro hr
  obtain ⟨-, -, u', hu', -, -, -, hpc', -⟩ := hi.triggering hr
  rw [hu] at hu'
  cases hu'
  exact hpc hpc'

/-- The slot invariant depends on the node only through its ID, its
generator, the requests, the root and the map. -/
theorem SlotInv.frame {s s' : Node B} {u : Update B} (h : SlotInv s u) (hself : s'.self = s.self)
    (hseq : s'.nextSeq = s.nextSeq) (hreq : s'.requests = s.requests)
    (hroot : s'.store.root = s.store.root) (hwait : ∀ id ∈ s'.wait, id ∈ s.wait) :
    SlotInv s' u where
  mine := by rw [hself, hseq]; exact h.mine
  own_actions := by rw [hreq]; exact h.own_actions
  fresh := by rw [hreq]; exact h.fresh
  commits := by rw [hroot]; exact h.commits
  own := h.own
  unregistered := fun hc hm => h.unregistered hc (hwait _ hm)
  returned := fun e he hm => h.returned e he (hwait _ hm)

-- ======================== Run loop

/-- The `Run` loop's flag steps keep everything when they leave it idle or
cancelling. -/
theorem Inv.flags (hi : Inv root s) (w g : Bool) (r : RunPc B)
    (hr : r = .idle ∨ r = .cancelling) :
    Inv root { s with wasLeader := w, signalled := g, run := r } where
  applied_le := hi.applied_le
  commit_le := hi.commit_le
  store := hi.store
  wf := hi.wf
  ids := hi.ids
  wait_owned := hi.wait_owned
  slot := fun u hu => (hi.slot u hu).frame rfl rfl rfl rfl (fun _ h => h)
  run := by rcases hr with rfl | rfl <;> trivial
  finished := hi.finished

theorem Inv.softState (hi : Inv root s) (h : s.softState = some s') : Inv root s' := by
  unfold Node.softState at h
  split at h
  · rename_i hr
    split at h
    · cases h
      exact hi.flags false false .cancelling (Or.inr rfl)
    · split at h
      · cases h
        have := hi.flags true s.signalled .idle (Or.inl rfl)
        rwa [← hr] at this
      · cases h
  · cases h

theorem Inv.signal (hi : Inv root s) (h : s.signal = some s') : Inv root s' := by
  unfold Node.signal at h
  split at h
  · rename_i hr
    split at h
    · cases h
      have := hi.flags s.wasLeader true .idle (Or.inl rfl)
      rwa [← hr] at this
    · cases h
  · cases h

/-- `cancelAll` leaves the map empty and closes the running call's channel
if its item was there; the call's commit and its own flag are untouched. -/
theorem Inv.cancelAllWaits (hi : Inv root s) (r : RunPc B)
    (hr : r = .idle ∨ ∃ q, r = .applying q ∧ s.applied < s.commit ∧
      s.log[s.applied]? = some (.normal q)) :
    Inv root { s.cancelAllWaits with run := r } where
  applied_le := hi.applied_le
  commit_le := hi.commit_le
  store := hi.store
  wf := hi.wf
  ids := hi.ids
  wait_owned := by simp [Node.cancelAllWaits]
  slot := by
    intro u' hu'
    simp only [Node.cancelAllWaits, Node.withUpdate, Option.map_eq_some_iff] at hu'
    obtain ⟨u, hu, rfl⟩ := hu'
    have hs := hi.slot u hu
    have hf : SlotInv { s.cancelAllWaits with run := r } u :=
      hs.frame rfl rfl rfl rfl (by simp [Node.cancelAllWaits])
    split
    · rename_i hm
      -- the item was there: the channel was empty, so the call had not committed
      have hne : u.chan = .empty := by
        by_contra hc
        exact hs.unregistered hc hm
      refine ⟨hf.mine, hf.own_actions, hf.fresh, hf.commits, ?_, ?_, ?_⟩
      · intro ho
        rw [(hs.own ho).1] at hne
        cases hne
      · simp [Node.cancelAllWaits]
      · simp [Node.cancelAllWaits]
    · exact hf
  run := by
    rcases hr with rfl | ⟨q, rfl, hq⟩
    · trivial
    · exact hq
  finished := hi.finished

theorem Inv.cancelAll (hi : Inv root s) (h : s.cancelAll = some s') : Inv root s' := by
  unfold Node.cancelAll at h
  split at h
  · cases h
    exact hi.cancelAllWaits .idle (Or.inl rfl)
  · cases h

/-- `processCommitted` of the next entry: an entry without data only
advances the index; a normal one with a registered item starts its
trigger, which must belong to a call already inside `Propose`'s wait;
one without goes to `ApplyStoreActions` after `cancelAll`. -/
theorem Inv.process (hi : Inv root s) (h : s.process = some s') : Inv root s' := by
  unfold Node.process at h
  split at h
  · rename_i hr
    split at h
    · rename_i hlt
      split at h
      · rename_i he
        cases h
        have hstore : s.store.root = replayLog root (s.log.take (s.applied + 1)) := by
          rw [replayLog_take_succ he]
          exact hi.store
        refine ⟨hlt, hi.commit_le, hstore, hi.wf, hi.ids, hi.wait_owned,
          fun u hu => (hi.slot u hu).frame rfl rfl rfl rfl (fun _ h => h), ?_, hi.finished⟩
        simp only [RunInv, hr]
      · rename_i r he
        split at h
        · rename_i hmem
          cases h
          obtain ⟨u, hu, hid, hg, hc⟩ := hi.wait_owned r.id hmem
          have hs := hi.slot u hu
          have hreq : r ∈ s.requests := mem_requests_of_log he
          -- the item's call is inside `Propose`'s wait: before it nothing
          -- carries its ID, and a call that returned has no item
          have hpc : u.pc = .proposing ∨ u.pc = .waiting ∨ u.pc = .draining := by
            cases hp : u.pc with
            | registered => exact absurd hid.symm (hs.fresh (Or.inl hp) r hreq)
            | checked => exact absurd hid.symm (hs.fresh (Or.inr hp) r hreq)
            | proposing => exact Or.inl rfl
            | waiting => exact Or.inr (Or.inl rfl)
            | draining => exact Or.inr (Or.inr rfl)
            | returned e => exact absurd (hid ▸ hmem) (hs.returned e hp)
          have hact : r.action = u.actions := hs.own_actions r hreq hid.symm
          refine ⟨hi.applied_le, hi.commit_le, hi.store, hi.wf, hi.ids, ?_, ?_, ?_, hi.finished⟩
          · intro id hm
            simp only [Wait.mem_remove] at hm
            exact absurd (hi.eq_of_mem_wait hu hm.1) (hid ▸ hm.2)
          · intro u' hu'
            exact (hi.slot u' hu').frame rfl rfl rfl rfl (fun _ h => (Wait.mem_remove.mp h).1)
          · refine ⟨hlt, by simp, u, hu, hid, hg, hc, hpc, ?_⟩
            rw [he, ← hact]
        · cases h
          exact hi.cancelAllWaits (.applying r) (Or.inr ⟨r, rfl, hlt, he⟩)
      · cases h
    · cases h
  · cases h

/-- The trigger's callback commits the call's transaction, which is the
entry's actions replayed on the current root. -/
theorem Inv.callback (hi : Inv root s) (h : s.callback = some s') : Inv root s' := by
  unfold Node.callback at h
  split at h
  · rename_i id hr
    obtain ⟨hlt, hw', u, hu, hid, hg, hc, hpc, he⟩ := hi.triggering hr
    subst hid
    simp only [hu, hg, if_true] at h
    cases h
    have hs := hi.slot u hu
    obtain ⟨hlive, hrep⟩ := hs.commits hg
    have hroot : (s.store.commitTxn u.tx.memDBTx).1.root = u.tx.memDBTx.view := by
      rw [MemoryStore.commitTxn_live hlive]
    refine ⟨hlt, hi.commit_le, ?_, ?_, hi.ids, ?_, ?_, trivial, hi.finished⟩
    · show (s.store.commitTxn u.tx.memDBTx).1.root = replayLog root (s.log.take (s.applied + 1))
      rw [hroot, replayLog_take_succ he, ← hi.store]
      exact (applyRoot_of_replay hrep).symm
    · show Db.WF (s.store.commitTxn u.tx.memDBTx).1.root
      rw [hroot]
      exact replay_WF hi.wf hrep
    · intro id' hm
      exact absurd hm (hi.wait_nil hu hw' id')
    · intro u' hu'
      simp only [Option.some.injEq] at hu'
      subst hu'
      refine ⟨hs.mine, hs.own_actions, hs.fresh, fun hg' => absurd hg' Bool.false_ne_true,
        fun _ => ⟨rfl, ?_⟩, fun _ => hw', fun _ _ => hw'⟩
      rcases hpc with hp | hp | hp
      · exact Or.inl hp
      · exact Or.inr (Or.inl hp)
      · exact Or.inr (Or.inr (Or.inl hp))
  · cases h

/-- `ApplyStoreActions` of an entry nobody waited for: the store takes the
entry's all-or-nothing replay. -/
theorem Inv.apply (hi : Inv root s) (h : s.apply = some s') : Inv root s' := by
  unfold Node.apply at h
  split at h
  · rename_i r hr hu
    cases h
    have hrun := hi.run
    simp only [RunInv, hr] at hrun
    obtain ⟨hlt, he⟩ := hrun
    refine ⟨hlt, hi.commit_le, ?_, ?_, hi.ids, ?_, ?_, trivial, hi.finished⟩
    · show (s.store.applyStoreActions r.action).1.root = replayLog root (s.log.take (s.applied + 1))
      rw [MemoryStore.applyStoreActions_root, replayLog_take_succ he, ← hi.store]
      rfl
    · show Db.WF (s.store.applyStoreActions r.action).1.root
      rw [MemoryStore.applyStoreActions_root]
      exact applyRoot_WF hi.wf _
    · intro id hm
      exact absurd hm (hi.wait_nil_of_none hu id)
    · intro u hu'
      rw [show (s.update) = none from hu] at hu'
      cases hu'
  · cases h

-- ================= the Update call

/-- A step of the running call keeps the parts of the invariant about
the store, the log and the finished calls when it leaves them alone. -/
theorem Inv.of_call (hi : Inv root s) (hself : s'.self = s.self)
    (hstore : s'.store.root = s.store.root) (hlog : s'.log = s.log) (hcommit : s'.commit = s.commit)
    (happlied : s'.applied = s.applied) (hseq : s'.nextSeq = s.nextSeq)
    (hinfl : s'.inflight = s.inflight)
    (hfin : ∀ f ∈ s'.finished, f.err.isSome = true → f.ownCommit = false)
    (hwait : ∀ id ∈ s'.wait, ∃ u, s'.update = some u ∧ u.id = id ∧ u.guard = true ∧ u.chan = .empty)
    (hslot : ∀ u, s'.update = some u → SlotInv s' u) (hrun : RunInv s') : Inv root s' where
  applied_le := by rw [happlied, hcommit]; exact hi.applied_le
  commit_le := by rw [hcommit, hlog]; exact hi.commit_le
  store := by rw [hstore, hlog, happlied]; exact hi.store
  wf := by rw [hstore]; exact hi.wf
  ids := by
    intro r hr hm
    rw [Node.requests, hlog, hinfl] at hr
    rw [hseq]
    exact hi.ids r hr (hself ▸ hm)
  wait_owned := hwait
  slot := hslot
  run := hrun
  finished := hfin

/-- Retiring a call keeps the finished calls' invariant when the call's
own record satisfies it. -/
theorem finished_retire {t : Node B} {f₀ : Finished}
    (ht : ∀ f ∈ t.finished, f.err.isSome = true → f.ownCommit = false)
    (h₀ : f₀.err.isSome = true → f₀.ownCommit = false) :
    ∀ f ∈ (t.retire f₀).finished, f.err.isSome = true → f.ownCommit = false := by
  intro f hf
  simp only [Node.retire, List.mem_append, List.mem_singleton] at hf
  rcases hf with hf | rfl
  · exact ht f hf
  · exact h₀

/-- A step of the running call that keeps the wait, and the call's ID,
guard and channel, keeps every waiting item owned by the call. -/
theorem Inv.wait_owned_keep (hi : Inv root s) {u u' : Update B} (hu : s.update = some u)
    (hu' : s'.update = some u') (hwait : s'.wait = s.wait) (hid : u'.id = u.id)
    (hg : u'.guard = u.guard) (hc : u'.chan = u.chan) :
    ∀ id ∈ s'.wait, ∃ v, s'.update = some v ∧ v.id = id ∧ v.guard = true ∧ v.chan = .empty := by
  intro id hm
  rw [hwait] at hm
  obtain ⟨v, hv, hvid, hvg, hvc⟩ := hi.wait_owned id hm
  rw [hu] at hv
  cases hv
  exact ⟨u', hu', hid.trans hvid, hg.trans hvg, hc.trans hvc⟩

/-- `RunInv` after a step of the running call: the trigger in progress,
if any, still finds the call inside `Propose`'s wait with its item gone
and its channel empty. -/
theorem Inv.runInv_call (hi : Inv root s) {u u' : Update B} (hu : s.update = some u)
    (hupd : s'.update = some u') (hrun : s'.run = s.run) (happ : s'.applied = s.applied)
    (hcom : s'.commit = s.commit) (hlog : s.log <+: s'.log) (hwait : ∀ id ∈ s'.wait, id ∈ s.wait)
    (htrig : ∀ id, s.run = .triggering id → u'.id = u.id ∧ u'.guard = u.guard ∧
      u'.chan = u.chan ∧ u'.actions = u.actions ∧
      (u'.pc = .proposing ∨ u'.pc = .waiting ∨ u'.pc = .draining)) :
    RunInv s' := by
  have hget : ∀ k, k < s.log.length → s'.log[k]? = s.log[k]? := by
    intro k hk
    obtain ⟨t, ht⟩ := hlog
    rw [← ht, List.getElem?_append_left hk]
  cases hr : s.run with
  | idle => simp only [RunInv, hrun, hr]
  | cancelling => simp only [RunInv, hrun, hr]
  | triggering id =>
      obtain ⟨hlt, hw, u₀, hu₀, hid, hg, hc, -, he⟩ := hi.triggering hr
      rw [hu] at hu₀
      cases hu₀
      obtain ⟨hid', hg', hc', hact', hpc'⟩ := htrig id hr
      simp only [RunInv, hrun, hr, happ, hcom]
      refine ⟨hlt, fun hm => hw (hwait _ hm), u', hupd, hid'.trans hid, hg'.trans hg,
        hc'.trans hc, hpc', ?_⟩
      rw [hget _ (Nat.lt_of_lt_of_le hlt hi.commit_le), hact']
      exact he
  | applying q =>
      have h := hi.run
      simp only [RunInv, hr] at h
      simp only [RunInv, hrun, hr, happ, hcom]
      refine ⟨h.1, ?_⟩
      rw [hget _ (Nat.lt_of_lt_of_le h.1 hi.commit_le)]
      exact h.2

/-- `wait.cancel` of the running call's ID empties the map and closes its
channel if the item was still there. -/
theorem Inv.cancelWait_eq (hi : Inv root s) {u : Update B} (hu : s.update = some u) :
    s.cancelWait u.id = { s with
      wait := [],
      update := some { u with chan := if u.id ∈ s.wait then .closed else u.chan } } := by
  by_cases hm : u.id ∈ s.wait
  · have hnil : s.wait.remove u.id = [] := by
      apply List.eq_nil_iff_forall_not_mem.mpr
      intro id hid
      rw [Wait.mem_remove] at hid
      exact hid.2 (hi.eq_of_mem_wait hu hid.1)
    simp [Node.cancelWait, hm, Node.withUpdate, hu, hnil]
  · have hw : s.wait = [] := List.eq_nil_iff_forall_not_mem.mpr (hi.wait_nil hu hm)
    unfold Node.cancelWait
    rw [if_neg hm]
    cases s
    simp_all

/-- A call whose item is registered, or whose channel is closed, has not
committed its own transaction. -/
theorem SlotInv.not_own {s : Node B} {u : Update B} (hs : SlotInv s u)
    (h : u.id ∈ s.wait ∨ u.chan = .closed) : u.ownCommit = false := by
  cases ho : u.ownCommit
  · rfl
  · have hc := (hs.own ho).1
    rcases h with hm | hcl
    · exact absurd hm (hs.unregistered (by rw [hc]; simp))
    · rw [hc] at hcl; cases hcl

/-- The running call returns an error after cancelling its wait: its
item is gone, and it had not committed its own transaction. -/
theorem Inv.returnError (hi : Inv root s) {u : Update B} (hu : s.update = some u) (e : Err)
    (failed : Update B → Bool) (hown : u.ownCommit = false)
    (hnt : ∀ id, s.run ≠ .triggering id) :
    Inv root ((s.cancelWait u.id).withUpdate fun u =>
      { u with pc := .returned (some e), proposeFailed := failed u }) := by
  have hs := hi.slot u hu
  rw [hi.cancelWait_eq hu]
  simp only [Node.withUpdate, Option.map_some]
  refine hi.of_call rfl rfl rfl rfl rfl rfl rfl hi.finished (by simp) ?_ ?_
  · intro u' hu'
    simp only [Option.some.injEq] at hu'
    subst hu'
    refine ⟨hs.mine, hs.own_actions, fun hpc => by simp at hpc, hs.commits,
      fun ho => by simp [hown] at ho, fun _ => by simp, fun _ _ => by simp⟩
  · refine hi.runInv_call hu rfl rfl rfl rfl (List.prefix_refl _) (by simp) ?_
    intro id hr
    exact absurd hr (hnt id)

theorem Inv.check (hi : Inv root s) (h : s.check = some s') : Inv root s' := by
  unfold Node.check at h
  split at h
  · rename_i u hu
    split at h
    · rename_i hpc
      have hs := hi.slot u hu
      have hown : u.ownCommit = false := by
        cases ho : u.ownCommit
        · rfl
        · obtain ⟨-, hp⟩ := hs.own ho
          rw [hpc] at hp
          simp at hp
      have hnt := hi.not_triggering hu (by rw [hpc]; simp)
      split at h
      · cases h
        simp only [Node.withUpdate, hu, Option.map_some]
        refine hi.of_call rfl rfl rfl rfl rfl rfl rfl hi.finished
          (hi.wait_owned_keep hu rfl rfl rfl rfl rfl) ?_ ?_
        · intro u' hu'
          simp only [Option.some.injEq] at hu'
          subst hu'
          exact ⟨hs.mine, hs.own_actions, fun _ => hs.fresh (Or.inl hpc), hs.commits,
            fun ho => by simp [hown] at ho, hs.unregistered, fun e he => by simp at he⟩
        · refine hi.runInv_call hu rfl rfl rfl rfl (List.prefix_refl _) (fun _ h => h) ?_
          intro id hr
          exact absurd hr (hnt id)
      · cases h
        exact hi.returnError hu .lostLeadership Update.proposeFailed hown hnt
    · cases h
  · cases h

/-- `RunInv` after a step that moves neither the `Run` loop nor the
processed prefix, when no trigger is in progress. -/
theorem Inv.runInv_keep (hi : Inv root s) (hnt : ∀ id, s.run ≠ .triggering id)
    (hrun : s'.run = s.run) (happ : s'.applied = s.applied) (hcom : s'.commit = s.commit)
    (hlog : s.log <+: s'.log) : RunInv s' := by
  cases hr : s.run with
  | idle => simp only [RunInv, hrun, hr]
  | cancelling => simp only [RunInv, hrun, hr]
  | triggering id => exact absurd hr (hnt id)
  | applying q =>
      have h := hi.run
      simp only [RunInv, hr] at h
      simp only [RunInv, hrun, hr, happ, hcom]
      refine ⟨h.1, ?_⟩
      obtain ⟨t, ht⟩ := hlog
      rw [← ht, List.getElem?_append_left (Nat.lt_of_lt_of_le h.1 hi.commit_le)]
      exact h.2

/-- A call before `Propose` or after it returned has not committed its own
transaction. -/
theorem SlotInv.not_own_of_pc {s : Node B} {u : Update B} (hs : SlotInv s u)
    (hpc : u.pc = .registered ∨ u.pc = .checked ∨ ∃ e, u.pc = .returned (some e)) :
    u.ownCommit = false := by
  cases ho : u.ownCommit
  · rfl
  · obtain ⟨-, hp⟩ := hs.own ho
    rcases hpc with h | h | ⟨e, h⟩ <;> rw [h] at hp <;> simp at hp

/-- `Propose` hands the entry over: the log or the forwarded proposals
may gain the call's own request. -/
theorem Inv.handOver (hi : Inv root s) {u : Update B} (hu : s.update = some u)
    (hpc : u.pc = .checked) (L : List (Entry B)) (I : List (Request B)) (hL : s.log <+: L)
    (hreq : ∀ r ∈ L.filterMap Entry.request? ++ I, r ∈ s.requests ∨ r = ⟨u.id, u.actions⟩) :
    Inv root (Node.withUpdate { s with log := L, inflight := I } fun u =>
      { u with pc := .proposing }) := by
  have hs := hi.slot u hu
  have hown := hs.not_own_of_pc (Or.inr (Or.inl hpc))
  have hnt := hi.not_triggering hu (by rw [hpc]; simp)
  obtain ⟨t, rfl⟩ := hL
  simp only [Node.withUpdate, hu, Option.map_some]
  refine ⟨hi.applied_le, ?_, ?_, hi.wf, ?_, ?_, ?_, ?_, hi.finished⟩
  · simpa using Nat.le_add_right_of_le hi.commit_le
  · show s.store.root = replayLog root ((s.log ++ t).take s.applied)
    rw [List.take_append_of_le_length (Nat.le_trans hi.applied_le hi.commit_le)]
    exact hi.store
  · intro r hr hm
    rcases hreq r hr with h | rfl
    · exact hi.ids r h hm
    · exact hs.mine.2
  · exact hi.wait_owned_keep hu rfl rfl rfl rfl rfl
  · intro u' hu'
    simp only [Option.some.injEq] at hu'
    subst hu'
    refine ⟨hs.mine, ?_, fun hp => by simp at hp, hs.commits,
      fun ho => by simp [hown] at ho, hs.unregistered, fun e he => by simp at he⟩
    intro r hr hid
    rcases hreq r hr with h | rfl
    · exact hs.own_actions r h hid
    · rfl
  · exact hi.runInv_keep hnt rfl rfl rfl ⟨t, rfl⟩

theorem Inv.propose {size : Request B → Nat} {dest : Dest} (hi : Inv root s)
    (h : s.propose size dest = some s') : Inv root s' := by
  unfold Node.propose at h
  split at h
  · rename_i u hu
    split at h
    · rename_i hpc
      have hs := hi.slot u hu
      split at h
      · cases h
        exact hi.returnError hu .requestTooLarge Update.proposeFailed
          (hs.not_own_of_pc (Or.inr (Or.inl hpc))) (hi.not_triggering hu (by rw [hpc]; simp))
      · cases dest with
        | log =>
            simp only at h
            split at h
            · cases h
              refine hi.handOver hu hpc _ s.inflight ⟨_, rfl⟩ ?_
              intro r hr
              simp only [List.filterMap_append, List.mem_append, List.filterMap_cons,
                List.filterMap_nil, Entry.request?, List.mem_singleton] at hr
              rcases hr with (h₁ | h₁) | h₁
              · exact Or.inl (List.mem_append_left _ h₁)
              · exact Or.inr h₁
              · exact Or.inl (List.mem_append_right _ h₁)
            · cases h
        | forward =>
            simp only at h
            split at h
            · cases h
            · cases h
              refine hi.handOver hu hpc s.log _ (List.prefix_refl _) ?_
              intro r hr
              simp only [List.mem_append, List.mem_singleton] at hr
              rcases hr with h₁ | h₁ | h₁
              · exact Or.inl (List.mem_append_left _ h₁)
              · exact Or.inl (List.mem_append_right _ h₁)
              · exact Or.inr h₁
        | drop =>
            simp only at h
            cases h
            exact hi.handOver hu hpc s.log s.inflight (List.prefix_refl _) (fun r hr => Or.inl hr)
    · cases h
  · cases h

/-- `Propose` returns: on success the call waits in the `select`; on an
error (outside the race with a trigger) it returns the error. -/
theorem Inv.proposeReturn {ok : Bool} (hi : Inv root s)
    (hnr : s.racesTrigger (.proposeReturn ok) = false) (h : s.proposeReturn ok = some s') :
    Inv root s' := by
  unfold Node.proposeReturn at h
  split at h
  · rename_i u hu
    split at h
    · rename_i hpc
      have hs := hi.slot u hu
      cases ok with
      | true =>
          simp only [if_true] at h
          cases h
          simp only [Node.withUpdate, hu, Option.map_some]
          refine hi.of_call rfl rfl rfl rfl rfl rfl rfl hi.finished
            (hi.wait_owned_keep hu rfl rfl rfl rfl rfl) ?_ ?_
          · intro u' hu'
            simp only [Option.some.injEq] at hu'
            subst hu'
            refine ⟨hs.mine, hs.own_actions, fun hp => by simp at hp, hs.commits, ?_,
              hs.unregistered, fun e he => by simp at he⟩
            intro ho
            exact ⟨(hs.own ho).1, Or.inr (Or.inl rfl)⟩
          · refine hi.runInv_call hu rfl rfl rfl rfl (List.prefix_refl _) (fun _ h => h) ?_
            intro id _
            exact ⟨rfl, rfl, rfl, rfl, Or.inr (Or.inl rfl)⟩
      | false =>
          simp only [Bool.false_eq_true, if_false] at h
          cases h
          -- outside the race: the item is still registered, or a cancel closed the channel
          have hnot : u.id ∈ s.wait ∨ u.chan = .closed := by
            simp only [Node.racesTrigger, hu, Bool.and_eq_false_iff, decide_eq_false_iff_not,
              not_not] at hnr
            exact hnr
          refine hi.returnError hu .contextDone (fun _ => true) (hs.not_own hnot) ?_
          intro id hr
          obtain ⟨-, hw, u₀, hu₀, hid, -, hc, -⟩ := hi.triggering hr
          rw [hu] at hu₀
          cases hu₀
          rcases hnot with hm | hcl
          · exact hw (hid ▸ hm)
          · rw [hc] at hcl; cases hcl
    · cases h
  · cases h

/-- A read of the channel that returns: the item has left the map, and a
call that committed its own transaction read the trigger's value. -/
theorem Inv.readReturns (hi : Inv root s) {u : Update B} (hu : s.update = some u)
    {r : Option Err} (hr : Node.readChan u.chan = some r) :
    Inv root (s.withUpdate fun u => { u with pc := .returned r }) := by
  have hs := hi.slot u hu
  have hne : u.chan ≠ .empty := by
    intro hc
    rw [hc] at hr
    cases hr
  have hw := hi.wait_nil hu (hs.unregistered hne)
  have hnt : ∀ id, s.run ≠ .triggering id := by
    intro id hrun
    obtain ⟨-, -, u₀, hu₀, -, -, hc, -⟩ := hi.triggering hrun
    rw [hu] at hu₀
    cases hu₀
    exact hne hc
  simp only [Node.withUpdate, hu, Option.map_some]
  refine hi.of_call rfl rfl rfl rfl rfl rfl rfl hi.finished (fun id hm => absurd hm (hw id)) ?_
    (hi.runInv_keep hnt rfl rfl rfl (List.prefix_refl _))
  intro u' hu'
  simp only [Option.some.injEq] at hu'
  subst hu'
  refine ⟨hs.mine, hs.own_actions, fun hp => by simp at hp, hs.commits, ?_, hs.unregistered,
    fun _ _ => hw u.id⟩
  intro ho
  have hc := (hs.own ho).1
  rw [hc] at hr
  simp only [Node.readChan, Option.some.injEq] at hr
  subst hr
  exact ⟨hc, Or.inr (Or.inr (Or.inr rfl))⟩

theorem Inv.wake (hi : Inv root s) (h : s.wake = some s') : Inv root s' := by
  unfold Node.wake at h
  split at h
  · rename_i u hu
    split at h
    · cases hr : Node.readChan u.chan with
      | none => rw [hr] at h; cases h
      | some r =>
          rw [hr] at h
          cases h
          exact hi.readReturns hu hr
    · cases h
  · cases h

theorem Inv.drain (hi : Inv root s) (h : s.drain = some s') : Inv root s' := by
  unfold Node.drain at h
  split at h
  · rename_i u hu
    split at h
    · cases hr : Node.readChan u.chan with
      | none => rw [hr] at h; cases h
      | some r =>
          rw [hr] at h
          cases h
          exact hi.readReturns hu hr
    · cases h
  · cases h

/-- A context branch of the `select`: the call cancels its own wait and
reads the channel again; a trigger already past the map still finds it. -/
theorem Inv.ctxDone (hi : Inv root s) (h : s.ctxDone = some s') : Inv root s' := by
  unfold Node.ctxDone at h
  split at h
  · rename_i u hu
    split at h
    · rename_i hpc
      cases h
      have hs := hi.slot u hu
      rw [hi.cancelWait_eq hu]
      simp only [Node.withUpdate, Option.map_some]
      refine hi.of_call rfl rfl rfl rfl rfl rfl rfl hi.finished (by simp) ?_ ?_
      · intro u' hu'
        simp only [Option.some.injEq] at hu'
        subst hu'
        refine ⟨hs.mine, hs.own_actions, fun hp => by simp at hp, hs.commits, ?_,
          fun _ => by simp, fun _ _ => by simp⟩
        intro ho
        have hc := (hs.own ho).1
        have hm : u.id ∉ s.wait := hs.unregistered (by rw [hc]; simp)
        rw [if_neg hm]
        exact ⟨hc, Or.inr (Or.inr (Or.inl rfl))⟩
      · refine hi.runInv_call hu rfl rfl rfl rfl (List.prefix_refl _) (by simp) ?_
        intro id hr
        obtain ⟨-, hw, u₀, hu₀, hid, -⟩ := hi.triggering hr
        rw [hu] at hu₀
        cases hu₀
        have hm : u.id ∉ s.wait := hid ▸ hw
        rw [if_neg hm]
        exact ⟨rfl, rfl, rfl, rfl, Or.inr (Or.inr rfl)⟩
    · cases h
  · cases h

/-- The call ends: its item is gone, and a call that returned an error had
not committed its own transaction. -/
theorem Inv.finish (hi : Inv root s) (h : s.finish = some s') : Inv root s' := by
  unfold Node.finish at h
  split at h
  · rename_i u hu
    have hs := hi.slot u hu
    have hnt : ∀ id, s.run ≠ .triggering id := by
      intro id hr
      obtain ⟨-, -, u₀, hu₀, -, -, -, hpc, -⟩ := hi.triggering hr
      rw [hu] at hu₀
      cases hu₀
      split at h <;> rcases hpc with hp | hp | hp <;> simp_all
    split at h
    · rename_i hpc
      cases h
      have hw := hi.wait_nil hu (hs.returned none hpc)
      exact hi.of_call rfl rfl rfl rfl rfl rfl rfl (finished_retire hi.finished (by simp))
        (fun id hm => absurd hm (hw id)) (fun u' hu' => by simp [Node.retire] at hu')
        (hi.runInv_keep hnt rfl rfl rfl (List.prefix_refl _))
    · rename_i e hpc
      cases h
      have hw := hi.wait_nil hu (hs.returned (some e) hpc)
      -- a call that returned its error never committed its own transaction
      have hown := hs.not_own_of_pc (Or.inr (Or.inr ⟨e, hpc⟩))
      exact hi.of_call rfl rfl rfl rfl rfl rfl rfl (finished_retire hi.finished fun _ => hown)
        (fun id hm => absurd hm (hw id)) (fun u' hu' => by simp [Node.retire] at hu')
        (hi.runInv_keep hnt rfl rfl rfl (List.prefix_refl _))
    · cases h
  · cases h

/-- An `Update` call takes the lock and runs its callback: an error
aborts, an empty changelist commits a view equal to the root, and
otherwise the call registers a fresh request ID whose replay is its
transaction (the replay theorem). -/
theorem Inv.start {ops : List (TxOp B)} (hi : Inv root s) (h : s.start ops = some s') :
    Inv root s' := by
  unfold Node.start at h
  split at h
  · cases h
  · rename_i hu
    have hw := hi.wait_nil_of_none hu
    have hnt : ∀ id, s.run ≠ .triggering id := by
      intro id hr
      obtain ⟨-, -, u₀, hu₀, -⟩ := hi.triggering hr
      rw [hu] at hu₀
      cases hu₀
    have hnone : ∀ u, ({ s with update := none } : Node B).update = some u → False := by
      intro u hu'
      cases hu'
    obtain ⟨sas, hsas, hrep⟩ := runOps_init_replay s.store.root hi.wf (some ⟨s.commit⟩) ops
    have hlive := runOps_live ops (Tx.init s.store.root (some ⟨s.commit⟩))
    generalize runOps (Tx.init s.store.root (some ⟨s.commit⟩)) ops = res at h hsas hrep hlive
    obtain ⟨tx, err⟩ := res
    simp only [Tx.init] at h hsas hrep hlive
    cases err with
    | some e =>
        simp only at h
        cases h
        exact hi.of_call rfl rfl rfl rfl rfl rfl rfl (finished_retire hi.finished fun _ => rfl)
          (fun id hm => absurd hm (hw id)) (fun u hu' => (hnone u hu').elim)
          (hi.runInv_keep hnt rfl rfl rfl (List.prefix_refl _))
    | none =>
        simp only at h
        rw [hsas] at h
        cases sas with
        | nil =>
            simp only at h
            cases h
            -- nothing to propose: the view is the root, committed directly
            have hview : tx.memDBTx.view = s.store.root := by
              simpa [replay, Except.map, Tx.init] using hrep.symm
            refine hi.of_call rfl ?_ rfl rfl rfl rfl rfl (finished_retire hi.finished (by simp))
              (fun id hm => absurd hm (hw id)) (fun u hu' => (hnone u hu').elim)
              (hi.runInv_keep hnt rfl rfl rfl (List.prefix_refl _))
            simp [MemoryStore.publishCommit, MemoryStore.commitTxn_live hlive, hview]
        | cons sa rest =>
            simp only at h
            split at h
            · cases h
            · rename_i w hreg
              cases h
              have hnew : ∀ r ∈ s.requests, r.id ≠ ⟨s.self, s.nextSeq⟩ := by
                intro r hr hid
                have := hi.ids r hr (by rw [hid])
                rw [hid] at this
                exact Nat.lt_irrefl _ this
              have hmem : ∀ id ∈ w, id = ⟨s.self, s.nextSeq⟩ := by
                intro id hm
                simp only [Wait.register, hw, if_false, Option.some.injEq] at hreg
                rw [← hreg, List.mem_cons] at hm
                rcases hm with rfl | hm
                · rfl
                · exact absurd hm (hw id)
              refine ⟨hi.applied_le, hi.commit_le, hi.store, hi.wf, ?_, ?_, ?_,
                hi.runInv_keep hnt rfl rfl rfl (List.prefix_refl _), hi.finished⟩
              · intro r hr hm
                exact Nat.lt_succ_of_lt (hi.ids r hr hm)
              · intro id hm
                exact ⟨_, rfl, (hmem id hm).symm, rfl, rfl⟩
              · intro u hu'
                simp only [Option.some.injEq] at hu'
                subst hu'
                refine ⟨⟨rfl, Nat.lt_succ_self _⟩, fun r hr hid => absurd hid (hnew r hr),
                  fun _ r hr => hnew r hr, fun _ => ⟨hlive, hrep⟩, fun ho => by simp at ho,
                  fun hc => by simp at hc, fun e he => by simp at he⟩

-- ======================== the runs

/-- Every step of a run without the race keeps the invariant. -/
theorem Inv.step {size : Request B → Nat} {a : Action B} (hi : Inv root s)
    (h : Node.stepNoRace size a s = some s') : Inv root s' := by
  unfold Node.stepNoRace at h
  split at h
  · cases h
  · rename_i hnr
    have hnr' : s.racesTrigger a = false := by simpa using hnr
    cases a with
    | start ops => exact hi.start h
    | check => exact hi.check h
    | propose dest => exact hi.propose h
    | proposeReturn ok => exact hi.proposeReturn hnr' h
    | wake => exact hi.wake h
    | ctxDone => exact hi.ctxDone h
    | drain => exact hi.drain h
    | finish => exact hi.finish h
    | softState => exact hi.softState h
    | cancelAll => exact hi.cancelAll h
    | process => exact hi.process h
    | callback => exact hi.callback h
    | apply => exact hi.apply h
    | signal => exact hi.signal h
    | stepDown => exact hi.stepDown h
    | becomeLeader => exact hi.becomeLeader h
    | receive e => exact hi.receive h
    | forwarded i => exact hi.forwarded h
    | truncate n => exact hi.truncate h
    | advance c => exact hi.advance h

theorem inv_inductive (size : Request B → Nat) (self : Nat) (hwf : Db.WF root) :
    Lts.Inductive (Node.stepNoRace size) (Node.init self root) (Inv root) where
  init := inv_init self hwf
  step := fun hi h => hi.step h

-- ==================== exactly once

/-- The store of a node is its processed log, each committed entry applied
once in log order by `ApplyStoreActions`' all-or-nothing rule, whichever
path applied it; and no `Update` call that returned an error committed
its own transaction. This holds on every run in which `Propose` never
reports an error after a trigger took the proposal's item. -/
theorem exactly_once_processed (size : Request B → Nat) (self : Nat) (root : Db B)
    (hwf : Db.WF root) (s : Node B)
    (hs : Lts.Reachable (Node.stepNoRace size) (Node.init self root) s) :
    s.store.root = replayLog root (s.log.take s.applied) ∧
      ∀ f ∈ s.finished, f.err.isSome = true → f.ownCommit = false := by
  have hi := (inv_inductive size self hwf).reachable hs
  exact ⟨hi.store, hi.finished⟩

/-- A task whose body is `body`. -/
def X (body : Nat) : Object Nat := ⟨7, ⟨⟨0⟩, none, none⟩, body⟩

/-- A leader's `Update` creating task 7 passes the leadership check, the
node steps down before `Propose`, which forwards the entry to the new
leader; the call's wait is cancelled and it returns
`ErrLostLeadership`. The new leader first commits another member's entry
creating task 7, then the forwarded one. Processing them, the node
applies the first and `ApplyStoreActions` of the second fails with
`ErrExist`: the second entry is applied by neither path. -/
def staleForward : List (Action Nat) :=
  [.becomeLeader, .advance 1, .softState, .process, .signal,
   .start [.create .task (X 1) 0], .check, .stepDown, .propose .forward, .proposeReturn true,
   .softState, .cancelAll, .wake, .finish,
   .receive (.normal ⟨⟨2, 0⟩, [⟨.create, .task, X 2⟩]⟩), .forwarded 0, .advance 3,
   .process, .apply, .process, .apply]

/-- Along `staleForward` without the race, the call that lost leadership
returned an error without committing its own transaction, and the store
is the three processed entries replayed, the forwarded one applying
nothing. -/
theorem stale_forward_applied_once :
    ∃ s, Lts.run (Node.stepNoRace fun _ => 0) (Node.init 1 (Db.empty Nat)) staleForward = some s ∧
      s.applied = 3 ∧ s.finished.map (·.err) = [some .lostLeadership] ∧
      (s.store.root = replayLog (Db.empty Nat) (s.log.take s.applied) ∧
        ∀ f ∈ s.finished, f.err.isSome = true → f.ownCommit = false) := by
  cases hrun : Lts.run (Node.stepNoRace fun _ => 0) (Node.init 1 (Db.empty Nat)) staleForward with
  | none =>
    have hsome : (Lts.run (Node.stepNoRace fun _ => 0) (Node.init 1 (Db.empty Nat))
        staleForward).isSome = true := by decide +kernel
    rw [hrun] at hsome
    cases hsome
  | some s =>
    have hobs : (Lts.run (Node.stepNoRace fun _ => 0) (Node.init 1 (Db.empty Nat)) staleForward).map
        (fun s => (s.applied, s.finished.map (·.err))) = some (3, [some .lostLeadership]) := by
      decide +kernel
    rw [hrun, Option.map_some, Option.some.injEq, Prod.mk.injEq] at hobs
    exact ⟨s, rfl, hobs.1, hobs.2,
      exactly_once_processed (fun _ => 0) 1 (Db.empty Nat) Db.empty_WF s (Lts.reachable_of_run hrun)⟩

-- ====== applied exactly once, read strictly

/-- "Applied exactly once" read strictly: every processed normal
entry's actions replay on the store the entries before it left, and the
store is what they give. -/
def AppliedOnce (root : Db B) (s : Node B) : Prop :=
  (∀ k r, k < s.applied → s.log[k]? = some (.normal r) →
    (replay (replayLog root (s.log.take k)) r.action).isOk = true) ∧
  s.store.root = replayLog root (s.log.take s.applied)

/-- The first half of `AppliedOnce`, computed. -/
def allReplay (root : Db B) (s : Node B) : Bool :=
  (List.range s.applied).all fun k =>
    match s.log[k]? with
    | some (.normal r) => (replay (replayLog root (s.log.take k)) r.action).isOk
    | _ => true

theorem not_appliedOnce_of_allReplay {root : Db B} {s : Node B}
    (h : allReplay root s = false) : ¬AppliedOnce root s := by
  rintro ⟨hall, -⟩
  simp only [allReplay, List.all_eq_false, List.mem_range] at h
  obtain ⟨k, hk, hbad⟩ := h
  split at hbad
  · rename_i r hr
    exact hbad (hall k r hk hr)
  · exact hbad rfl

theorem exactly_once_refuted :
    ¬∀ s, Lts.Reachable (Node.step (B := Nat) fun _ => 0) (Node.init 1 (Db.empty Nat)) s →
      AppliedOnce (Db.empty Nat) s := by
  intro h
  cases hrun : Lts.run (Node.step fun _ => 0) (Node.init 1 (Db.empty Nat)) staleForward with
  | none =>
      have hsome : (Lts.run (Node.step fun _ => 0) (Node.init 1 (Db.empty Nat))
          staleForward).isSome = true := by decide +kernel
      rw [hrun] at hsome
      cases hsome
  | some s =>
      have hb : (Lts.run (Node.step fun _ => 0) (Node.init 1 (Db.empty Nat)) staleForward).map
          (allReplay (Db.empty Nat)) = some false := by decide +kernel
      rw [hrun] at hb
      exact not_appliedOnce_of_allReplay (Option.some.inj hb) (h s (Lts.reachable_of_run hrun))

end SwarmKit.Raft

import SwarmKit.Raft.Watch

/-
What a resumed watch delivers (`WatchFrom` with a version).

# The hand-over

A resumed watch has two sources: the raft log up to the version
`GetVersion()` returned under the lock, and the store's queue from the
subscription on. They meet without overlap only if every entry up to
that version has already been applied to the store when the watch
starts. `GetVersion()` is the commit index, and the `Run` loop applies
committed entries later: a follower has entries committed that it has
not applied yet, and so has a leader for the entries of an earlier term
and those whose proposer's wait was cancelled. Such an entry is in the
replayed changelist, and when the `Run` loop applies it afterwards,
`ApplyStoreActions` publishes its changes on the queue, where the
subscription sees them again.

`watch_from_redelivers` states it for every node state in which the
next entry to apply is committed, unwaited and replays cleanly: a watch
from any version before it, matching every event, delivers that entry's
changes twice once the `Run` loop has processed it.

# Identity of a change

Replayed events carry no old object and a replayed deletion carries the
action's target, while a live event carries the stored objects. A change
is therefore compared by what it is about: its kind, table and object ID
(`Event.key`). In a store keeping memdb's `id` index the two agree.
-/

namespace SwarmKit.Raft

open SwarmKit.Store

variable {B : Type}

-- ================= change identity

/-- The changes a log entry carries. -/
def Entry.keys : Entry B → List (StoreActionKind × Table × Nat)
  | .normal r => r.action.map StoreAction.key
  | .other => []

/-- The replayed changelist of consecutive entries reports their changes
in log order. Induction on the entries. -/
theorem changeEvents_keys :
    ∀ (i : Nat) (es : List (Entry B)),
      (changeEvents (entryChanges i es)).filterMap Event.key = es.flatMap Entry.keys := by
  intro i es
  induction es generalizing i with
  | nil => rfl
  | cons e es ih =>
      cases e with
      | other => simpa [entryChanges, Entry.keys] using ih (i + 1)
      | normal r =>
          by_cases hr : r.action = []
          · simpa [entryChanges, Entry.keys, hr] using ih (i + 1)
          · have hone : (changeEvents [(⟨r.action, ⟨i⟩⟩ : Change B)]).filterMap Event.key =
                r.action.map StoreAction.key := by
              simp [changeEvents, List.filterMap_append, List.filterMap_map]
            simp only [entryChanges, if_neg hr, changeEvents_append, List.filterMap_append, hone,
              ih (i + 1), List.flatMap_cons, Entry.keys]

-- ======================= the watch

/-- The entry at `k` lies in the slice of the log after `v` up to `c`
when `v ≤ k < c`. -/
theorem mem_slice {log : List (Entry B)} {e : Entry B} {v k c : Nat} (hv : v ≤ k) (hk : k < c)
    (he : log[k]? = some e) : e ∈ (log.drop v).take (c - v) := by
  have hget : ((log.drop v).take (c - v))[k - v]? = some e := by
    rw [List.getElem?_take_of_lt (by omega), List.getElem?_drop, Nat.add_sub_cancel' hv, he]
  exact List.mem_of_getElem? hget

/-- The `Run` loop's next two steps on an unwaited committed entry:
`processEntry` finds no waiter, cancels every wait, and
`ApplyStoreActions` takes the free lock. -/
theorem Node.run_process_apply {size : Request B → Nat} {s : Node B} {r : Request B}
    (hlock : s.update = none) (hidle : s.run = .idle) (hc : s.applied < s.commit)
    (hr : s.log[s.applied]? = some (.normal r)) (hw : r.id ∉ s.wait) :
    Lts.run (Node.step size) s [.process, .apply] =
      some { s.cancelAllWaits with
        store := (s.store.applyStoreActions r.action).1, applied := s.applied + 1,
        run := .idle } := by
  have hp : s.process = some { s.cancelAllWaits with run := .applying r } := by
    simp [Node.process, hidle, hc, hr, hw]
  simp [Lts.run_cons, Node.step, hp, Node.apply, Node.cancelAllWaits, Node.withUpdate, hlock]

/-- **A resumed watch delivers a committed, not yet applied entry
twice.** For every node state whose `Run` loop is idle with the lock
free and whose next entry to apply is committed, normal, unwaited and
replays cleanly on the store: a watch from any version before that
entry, with specifiers matching every event, replays the entry's changes
among those of the log, and once the `Run` loop has processed the entry
(`processEntry` then `ApplyStoreActions`), its live stream carries the
same changes again. -/
theorem watch_from_redelivers (size : Request B → Nat) (s₀ : Node B)
    (specifiers : List (Specifier B)) (hall : ∀ e, matcher specifiers e = true) (v : Version)
    (r : Request B) (db : Db B) (hlock : s₀.update = none) (hidle : s₀.run = .idle)
    (hwf : Db.WF s₀.store.root) (hv : v.index ≤ s₀.applied) (hc : s₀.applied < s₀.commit)
    (hlen : s₀.commit ≤ s₀.log.length) (hr : s₀.log[s₀.applied]? = some (.normal r))
    (hw : r.id ∉ s₀.wait) (hok : replay s₀.store.root r.action = .ok db) :
    ∃ ω s, s₀.watchFrom (some v) specifiers = some (.ok ω) ∧
      Lts.run (Node.step size) s₀ [.process, .apply] = some s ∧
      ∃ before after, (ω.delivered s.store.queue).filterMap Event.key =
        before ++ r.action.map StoreAction.key ++ after ++ r.action.map StoreAction.key := by
  obtain ⟨tx, htx, -⟩ : ∃ tx, applyStoreActionsTx (Tx.init s₀.store.root none) r.action = .ok tx ∧
      tx.memDBTx.view = db := by
    unfold replay at hok
    cases h : applyStoreActionsTx (Tx.init s₀.store.root none) r.action with
    | error e => rw [h] at hok; cases hok
    | ok tx => rw [h] at hok; cases hok; exact ⟨tx, rfl, rfl⟩
  -- the replayed part: the entry lies among those after `v` up to the commit index
  have hslice := mem_slice hv hc hr
  obtain ⟨P, Q, hPQ⟩ := List.append_of_mem hslice
  -- the live part: the entry's replay and its commit marker
  have hkeys : tx.changelist.filterMap Event.key = r.action.map StoreAction.key := by
    simpa [Tx.init] using applyStoreActionsTx_keys r.action _ tx hwf htx
  have hlive : ((tx.changelist ++
      if tx.changelist = [] then [] else [(Event.commit none : Event B)]).filterMap Event.key) =
      r.action.map StoreAction.key := by
    split <;> simp [List.filterMap_append, hkeys]
  refine ⟨_, _, Node.watchFrom_of_le specifiers hlock (by omega) hlen,
    Node.run_process_apply hlock hidle hc hr hw, P.flatMap Entry.keys, Q.flatMap Entry.keys, ?_⟩
  rw [Watcher.delivered_of_all hall, MemoryStore.applyStoreActions_of_ok htx]
  simp only [MemoryStore.publishCommit, List.append_assoc, List.drop_left', List.filterMap_append,
    changeEvents_keys, hPQ]
  simp only [← List.append_assoc] at hlive ⊢
  rw [List.filterMap_append] at hlive
  simp [hlive, Entry.keys]

/-- Another member's request creating task 7. -/
def createTask7 : Request Nat := ⟨⟨2, 0⟩, [⟨.create, .task, ⟨7, ⟨⟨0⟩, none, none⟩, 0⟩⟩]⟩

/-- A follower that has received entry 1, creating task 7, and seen it
committed, before its `Run` loop applied it. -/
def committedUnapplied : Node Nat :=
  { Node.init 1 (Db.empty Nat) with log := [.normal createTask7], commit := 1 }

theorem watch_from_redelivers_follower :
    Lts.Reachable (Node.step fun _ => 0) (Node.init 1 (Db.empty Nat)) committedUnapplied ∧
    (∀ e : Event Nat, matcher [fun _ => true] e = true) ∧ committedUnapplied.update = none ∧
    committedUnapplied.run = .idle ∧ Db.WF committedUnapplied.store.root ∧
    (⟨0⟩ : Version).index ≤ committedUnapplied.applied ∧
    committedUnapplied.applied < committedUnapplied.commit ∧
    committedUnapplied.commit ≤ committedUnapplied.log.length ∧
    committedUnapplied.log[committedUnapplied.applied]? = some (.normal createTask7) ∧
    createTask7.id ∉ committedUnapplied.wait ∧
    replay committedUnapplied.store.root createTask7.action =
      .ok ((Db.empty Nat).insert .task ⟨7, ⟨⟨0⟩, none, none⟩, 0⟩) ∧
    ∃ ω s, committedUnapplied.watchFrom (some ⟨0⟩) [fun _ => true] = some (.ok ω) ∧
      Lts.run (Node.step fun _ => 0) committedUnapplied [.process, .apply] = some s ∧
      ∃ before after, (ω.delivered s.store.queue).filterMap Event.key =
        before ++ createTask7.action.map StoreAction.key ++ after ++
          createTask7.action.map StoreAction.key :=
  ⟨Lts.reachable_of_run (show Lts.run (Node.step fun _ => 0) (Node.init 1 (Db.empty Nat))
      [.receive (.normal createTask7), .advance 1] = some committedUnapplied from rfl),
    fun _ => rfl, rfl, rfl, Db.empty_WF, Nat.le_refl 0, Nat.zero_lt_one, Nat.le_refl 1, rfl,
    List.not_mem_nil, rfl,
    watch_from_redelivers (fun _ => 0) committedUnapplied [fun _ => true] (fun _ => rfl) ⟨0⟩
      createTask7 ((Db.empty Nat).insert .task ⟨7, ⟨⟨0⟩, none, none⟩, 0⟩) rfl rfl Db.empty_WF
      (Nat.le_refl 0) Nat.zero_lt_one (Nat.le_refl 1) rfl List.not_mem_nil rfl⟩

end SwarmKit.Raft

import SwarmKit.Orchestrator.UpdateLock

/-
A `DelayStart` that waits while its caller holds the update lock
(`UpdateLock.lean`).

# The cycle

`DelayStart` for a task with a pending start cancels that start and
waits on its `doneCh`. The starter closes `doneCh` only when it returns:
in its selects, a cancellation makes it return at once
(`quit_releases_delayStart`); past them, it first needs the update lock
for `StartNow`. The caller of `DelayStart` holds that lock, so once the
starter has passed its selects the two wait on each other: `Deadlocked`.
No step of anyone changes that (`deadlocked_step`): the waiting
transaction's `doneCh` never closes, the starter never gets the lock,
and no other transaction ever takes it.

# Reaching it

`Restart` creates the replacement task desired `READY` and calls
`DelayStart` for it in its batch. Its starter passes its selects once
the old task has stopped. If the updater's worker reaches the slot
first, the replacement is its clean task (the new spec, desired below
`RUNNING`), and `useExistingTask` calls `DelayStart` for it from inside
its `Batch`: the cycle (`delayStart_deadlock`).
-/

namespace SwarmKit.Orchestrator.UpdateLock

variable {w w' : World} {c g : Nat}

-- ========================== frames

namespace World

@[simp] theorem cancelStarter_lock (g : Nat) (w : World) : (w.cancelStarter g).lock = w.lock := by
  unfold cancelStarter; split <;> rfl

@[simp] theorem cancelStarter_txs (g : Nat) (w : World) : (w.cancelStarter g).txs = w.txs := by
  unfold cancelStarter; split <;> rfl

@[simp] theorem cancelStarter_nextID (g : Nat) (w : World) :
    (w.cancelStarter g).nextID = w.nextID := by
  unfold cancelStarter; split <;> rfl

/-- Cancelling a starter moves no starter. -/
@[simp] theorem cancelStarter_pc (g' g : Nat) (w : World) :
    ((w.cancelStarter g').starters.lookup g).map (·.pc) = (w.starters.lookup g).map (·.pc) := by
  unfold cancelStarter
  split
  · rfl
  · next st hst =>
      by_cases h : g = g'
      · subst h; simp [hst]
      · simp [AList.lookup_insert_ne h]

@[simp] theorem finish_lock (g : Nat) (st : Starter) (w : World) : (w.finish g st).lock = w.lock := rfl

@[simp] theorem finish_txs (g : Nat) (st : Starter) (w : World) : (w.finish g st).txs = w.txs := rfl

@[simp] theorem finish_nextID (g : Nat) (st : Starter) (w : World) :
    (w.finish g st).nextID = w.nextID := rfl

/-- A starter's end touches no other starter. -/
theorem finish_lookup_ne {g' g : Nat} (st : Starter) (w : World) (h : g ≠ g') :
    (w.finish g' st).starters.lookup g = w.starters.lookup g :=
  AList.lookup_insert_ne h

end World

-- ======================= the cycle

/-- Transaction `c` holds the update lock and waits in `DelayStart` on
the `doneCh` of starter `g`, an allocated starter waiting for that lock
in `store.Update`. -/
structure Deadlocked (c g : Nat) (w : World) : Prop where
  holds : w.lock = some c
  waits : ∃ calls, w.txs.lookup c = some (.waitingDone g calls)
  blocked : (w.starters.lookup g).map (·.pc) = some .updating
  fresh : g < w.nextID

namespace Deadlocked

/-- A step that leaves the lock, `c`'s place and `g`'s place alone, and
hands out no used ID, keeps the cycle. -/
theorem of_frame (hd : Deadlocked c g w) (hlock : w'.lock = w.lock)
    (htx : w'.txs.lookup c = w.txs.lookup c)
    (hpc : (w'.starters.lookup g).map (·.pc) = (w.starters.lookup g).map (·.pc))
    (hnext : w.nextID ≤ w'.nextID) : Deadlocked c g w' where
  holds := hlock ▸ hd.holds
  waits := htx ▸ hd.waits
  blocked := hpc ▸ hd.blocked
  fresh := Nat.lt_of_lt_of_le hd.fresh hnext

/-- The waiting transaction is not one running its callback. -/
theorem ne_of_running (hd : Deadlocked c g w) {c' : Nat} {calls : List Nat}
    (h : w.txs.lookup c' = some (.running calls)) : c' ≠ c := by
  rintro rfl
  obtain ⟨calls', hw⟩ := hd.waits
  rw [hw] at h
  cases h

/-- Starter `g` is in `store.Update`, so no select of it fires. -/
theorem ne_of_waiting (hd : Deadlocked c g w) {g' : Nat} {st : Starter}
    (h : w.starters.lookup g' = some st) (hw : st.pc = .waiting) : g ≠ g' := by
  rintro rfl
  have hb := hd.blocked
  rw [h, Option.map_some, hw] at hb
  cases hb

end Deadlocked

/-- `DelayStart` keeps the cycle: whichever transaction calls it, that
one is not `c`, and a new starter gets a fresh ID. -/
theorem deadlocked_delayStart {c' : Nat} (hd : Deadlocked c g w)
    (h : delayStart c' w = some w') : Deadlocked c g w' := by
  unfold delayStart at h
  split at h
  next id ids hrun =>
    have htx : ∀ p, (w.txs.insert c' p).lookup c = w.txs.lookup c :=
      fun _ => AList.lookup_insert_ne (hd.ne_of_running hrun).symm
    split at h
    next g' _ =>
      cases h
      exact hd.of_frame (World.cancelStarter_lock _ _) (by simpa using htx _)
        (World.cancelStarter_pc _ _ _) (Nat.le_of_eq (World.cancelStarter_nextID _ _).symm)
    next =>
      cases h
      refine hd.of_frame rfl (htx _) ?_ (Nat.le_succ _)
      rw [AList.lookup_insert_ne (Nat.ne_of_lt hd.fresh)]
  next => cases h

/-- No step undoes the cycle: the lock stays with `c`, `c`'s `doneCh`
stays open, and `g` stays in `store.Update`. -/
theorem deadlocked_step {a : Act} (hd : Deadlocked c g w) (h : step a w = some w') :
    Deadlocked c g w' := by
  cases a with
  | begin c' calls =>
      -- the lock is taken
      simp only [step, hd.holds, reduceCtorEq, false_and, if_false] at h
  | delayStart c' => exact deadlocked_delayStart hd h
  | awaitDone c' =>
      simp only [step] at h
      split at h
      next g' calls hw =>
        split at h
        next hdone =>
          cases h
          -- only another transaction's `doneCh` can be closed
          have hc : c' ≠ c := by
            rintro rfl
            obtain ⟨calls', hw'⟩ := hd.waits
            rw [hw] at hw'
            cases hw'
            rw [hd.blocked] at hdone
            cases hdone
          exact hd.of_frame rfl (AList.lookup_insert_ne hc.symm) rfl le_rfl
        next => cases h
      next => cases h
  | commit c' =>
      -- only `c` could commit, and it is not done with its callback
      simp only [step] at h
      split at h
      next hc =>
        obtain ⟨hl, hrun⟩ := hc
        rw [hd.holds, Option.some.injEq] at hl
        subst hl
        obtain ⟨calls, hw⟩ := hd.waits
        rw [hw] at hrun
        cases hrun
      next => cases h
  | elapse g' =>
      simp only [step] at h
      split at h
      next st hst =>
        split at h
        next hw =>
          cases h
          refine hd.of_frame rfl rfl ?_ le_rfl
          rw [AList.lookup_insert_ne (hd.ne_of_waiting hst hw)]
        next => cases h
      next => cases h
  | quit g' =>
      simp only [step] at h
      split at h
      next st hst =>
        split at h
        next hw =>
          cases h
          refine hd.of_frame rfl rfl ?_ le_rfl
          rw [World.finish_lookup_ne st w (hd.ne_of_waiting hst hw.1)]
        next => cases h
      next => cases h
  | update g' =>
      -- the lock is taken
      simp only [step] at h
      split at h
      next st _ =>
        simp only [hd.holds, reduceCtorEq, and_false, if_false] at h
      next => cases h
  | cancel id =>
      simp only [step] at h
      obtain ⟨g', -, rfl⟩ := Option.map_eq_some_iff.mp h
      exact hd.of_frame (by simp) (by simp) (World.cancelStarter_pc _ _ _) (by simp)

/-- Once reached, the cycle holds in every state reachable from there. -/
theorem deadlocked_inductive (hd : Deadlocked c g w) : Lts.Inductive step w (Deadlocked c g) :=
  ⟨hd, deadlocked_step⟩

-- ===================== the release

/-- The case `DelayStart`'s comment counts on: a cancelled starter still
in its selects returns, and the waiting `DelayStart` goes on to look at
`delays` again. -/
theorem quit_releases_delayStart {calls : List Nat} (hw : w.txs.lookup c = some (.waitingDone g calls))
    {st : Starter} (hst : w.starters.lookup g = some st) (hwait : st.pc = .waiting)
    (hcan : st.cancelled = true) :
    ∃ w', Lts.run step w [.quit g, .awaitDone c] = some w' ∧
      w'.txs.lookup c = some (.running calls) := by
  have hquit : step (.quit g) w = some (w.finish g st) := by
    simp [step, hst, hwait, hcan]
  have hdone : step (.awaitDone c) (w.finish g st) =
      some { w.finish g st with txs := w.txs.insert c (.running calls) } := by
    simp [step, hw, World.finish]
  refine ⟨{ w.finish g st with txs := w.txs.insert c (.running calls) }, ?_, AList.lookup_insert _⟩
  rw [Lts.run_cons, hquit, Option.bind_some, Lts.run_cons, hdone]
  rfl

-- ========================= the run

/-- The replacement `Restart` has just created for slot 1, desired
`READY`. -/
def replacementTask : Task :=
  { id := 7, serviceID := 1, slot := 1, nodeID := 0, desiredState := .ready, state := .new,
    timestamp := none, appliedAt := none, restart := none, specVersion := some 1,
    jobIteration := none, createdAt := some 0 }

/-- The store holds the replacement; no transaction or starter runs. -/
def replacementPending : World where
  store := ⟨(∅ : Table Task).insert 7 replacementTask, ∅, ∅, 8⟩
  delays := ∅
  starters := ∅
  txs := ∅
  lock := none
  nextID := 0

/-- `Restart`'s batch (transaction 1) calls `DelayStart` for task 7 and
commits; starter 0 passes its selects once the old task has stopped;
`useExistingTask`'s batch (transaction 2), for the slot whose clean
task is 7, calls `DelayStart` for it: transaction 2 waits on starter 0,
which waits for transaction 2's lock, forever. -/
theorem delayStart_deadlock :
    ∃ w, Lts.run step replacementPending
        [.begin 1 [7], .delayStart 1, .commit 1, .elapse 0, .begin 2 [7], .delayStart 2] = some w ∧
      ∀ w', Lts.Reachable step w w' → Deadlocked 2 0 w' := by
  refine ⟨_, rfl, fun w' hr => (deadlocked_inductive ?_).reachable hr⟩
  exact ⟨rfl, ⟨[7], rfl⟩, rfl, by decide⟩

end SwarmKit.Orchestrator.UpdateLock

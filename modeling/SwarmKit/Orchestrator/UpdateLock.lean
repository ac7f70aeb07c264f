import SwarmKit.Orchestrator.Restart
import SwarmKit.Lib.Lts

/-
Delayed starts and the store's update lock (manager/orchestrator/restart/
restart.go `DelayStart`, its goroutine, `StartNow`, `Cancel`,
`CancelAll`; manager/state/store/memory.go `update`, `Batch`).

# The parties

A store transaction (`Update`, or a whole `Batch`) holds `updateLock`
from before its callback runs until after it commits. `Restart`,
`Updater.updateTask`, `Updater.useExistingTask` and
`taskinit.CheckTasks` call `DelayStart` from inside such a callback, so
with the lock held. The yield between the sub-transactions of a long
`Batch` is left out: the callbacks here call `DelayStart` directly.

`DelayStart(newTaskID)` first replaces a pending delayed start for the
same task: it cancels it and waits on its `doneCh`, with `r.mu`
released, and looks again once that closes. Then it records its own
entry and starts a goroutine, the starter here. A starter waits in its
selects for its delay, for the old task to stop or time out, or for
its context to be cancelled; on cancellation it returns. Past the
selects it calls `store.Update` to run `StartNow`, which waits for the
update lock whatever its context says. Either way its deferred function
deletes the task's entry and closes `doneCh`.

Which case of a select fires is the environment's choice, as in Go,
where a select with several ready cases picks one at random: a starter
may pass its selects before or after its context is cancelled.

# The world

The store, `Supervisor.delays` (task ID to starter), the starters, the
transactions, and who holds the update lock. `Cancel`'s wait on
`doneCh` holds no lock and is left out; its cancellation, and
`CancelAll`'s, are the `cancel` step.
-/

namespace SwarmKit.Orchestrator.UpdateLock

-- ======================== the data

/-- Where a starter is. -/
inductive StarterPc
  /-- In its selects. -/
  | waiting
  /-- In `store.Update`, waiting for the update lock. -/
  | updating
  /-- Its deferred function has run: `doneCh` is closed. -/
  | done
  deriving DecidableEq, Repr

/-- The goroutine of a `DelayStart` call: its task, whether its context
is cancelled, and where it is. -/
structure Starter where
  taskID : Nat
  cancelled : Bool
  pc : StarterPc
  deriving DecidableEq, Repr

/-- Where a store transaction is. -/
inductive TxPc
  | idle
  /-- It holds the update lock; its callback has these `DelayStart`
  calls left to make, in order. -/
  | running (calls : List Nat)
  /-- In the `DelayStart` at the head of `calls`, on `<-oldDelay.doneCh`
  of starter `g`. -/
  | waitingDone (g : Nat) (calls : List Nat)
  deriving DecidableEq, Repr

/-- The store, the supervisor's delayed starts, and the goroutines. -/
structure World where
  store : Store
  /-- `Supervisor.delays`: the starter of each task's pending start. -/
  delays : Table Nat
  starters : Table Starter
  txs : Table TxPc
  /-- The transaction holding `updateLock`. -/
  lock : Option Nat
  /-- The next starter's ID. -/
  nextID : Nat

namespace World

/-- `delay.cancel()` on starter `g`. -/
def cancelStarter (g : Nat) (w : World) : World :=
  match w.starters.lookup g with
  | none => w
  | some st => { w with starters := w.starters.insert g { st with cancelled := true } }

/-- A starter's deferred function: its task's entry leaves `delays` and
`doneCh` is closed. -/
def finish (g : Nat) (st : Starter) (w : World) : World :=
  { w with delays := w.delays.erase st.taskID, starters := w.starters.insert g { st with pc := .done } }

end World

/-- The starter's `store.Update`: `StartNow`, whose error the callback
logs and does not return, so the update commits what `StartNow` wrote. -/
def startNowUpdate (taskID : Nat) (st : Store) : Store :=
  match startNow taskID st with
  | .ok st' => st'
  | .error _ => st

-- ======================= the steps

/-- What happens next. -/
inductive Act
  /-- Transaction `c` takes the update lock; its callback will call
  `DelayStart` for these task IDs. -/
  | begin (c : Nat) (calls : List Nat)
  /-- Its callback makes its next `DelayStart` call, or looks at
  `delays` again after a wait. -/
  | delayStart (c : Nat)
  /-- The `doneCh` it waits on is closed. -/
  | awaitDone (c : Nat)
  /-- Its callback returns; it commits and releases the lock. -/
  | commit (c : Nat)
  /-- Starter `g`'s select picks its delay, the old task's stop or the
  task timeout. -/
  | elapse (g : Nat)
  /-- Starter `g`'s select picks `ctx.Done()`. -/
  | quit (g : Nat)
  /-- Starter `g` gets the update lock and runs `StartNow`. -/
  | update (g : Nat)
  /-- `Cancel(taskID)` or `CancelAll` cancels the task's pending start. -/
  | cancel (taskID : Nat)

/-- `DelayStart` for the next task of transaction `c`'s callback: with a
pending start for it, cancel that and wait on its `doneCh`; without,
record a new starter. -/
def delayStart (c : Nat) (w : World) : Option World :=
  match w.txs.lookup c with
  | some (.running (id :: ids)) =>
    match w.delays.lookup id with
    | some g => some { w.cancelStarter g with txs := w.txs.insert c (.waitingDone g (id :: ids)) }
    | none =>
      let g := w.nextID
      some { w with
        delays := w.delays.insert id g
        starters := w.starters.insert g ⟨id, false, .waiting⟩
        txs := w.txs.insert c (.running ids)
        nextID := g + 1 }
  | _ => none

/-- One step. -/
def step : Act → World → Option World
  | .begin c calls, w =>
    if w.lock = none ∧ (w.txs.lookup c = none ∨ w.txs.lookup c = some .idle) then
      some { w with lock := some c, txs := w.txs.insert c (.running calls) }
    else none
  | .delayStart c, w => delayStart c w
  | .awaitDone c, w =>
    match w.txs.lookup c with
    | some (.waitingDone g calls) =>
      if (w.starters.lookup g).map (·.pc) = some .done then
        some { w with txs := w.txs.insert c (.running calls) }
      else none
    | _ => none
  | .commit c, w =>
    if w.lock = some c ∧ w.txs.lookup c = some (.running []) then
      some { w with lock := none, txs := w.txs.insert c .idle }
    else none
  | .elapse g, w =>
    match w.starters.lookup g with
    | some st =>
      if st.pc = .waiting then some { w with starters := w.starters.insert g { st with pc := .updating } }
      else none
    | none => none
  | .quit g, w =>
    match w.starters.lookup g with
    | some st => if st.pc = .waiting ∧ st.cancelled then some (w.finish g st) else none
    | none => none
  | .update g, w =>
    match w.starters.lookup g with
    | some st =>
      if st.pc = .updating ∧ w.lock = none then
        some ({ w with store := startNowUpdate st.taskID w.store }.finish g st)
      else none
    | none => none
  | .cancel id, w =>
    (w.delays.lookup id).map fun g => w.cancelStarter g

end SwarmKit.Orchestrator.UpdateLock

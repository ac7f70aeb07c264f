import SwarmKit.Agent.Task
import SwarmKit.Lib.Lts

/-
How many operations the task manager runs at once (`Task.lean`).

# The retry timer's nil

The loop tracks its operation through `cancel` alone. `ErrTaskRetry`
clears `cancel` and arms a timer whose nil arrives on `errs` a second
later, to be taken for the error of whatever operation runs by then. An
update in between dispatches an operation, the timer's nil clears its
`cancel` and pumps `run`, and a second operation runs beside the first.
With `cancel` nil, shutdown closes `tm.closed` at once, so `Close`
returns with an operation still in flight; and a timer that goes off
after the loop returned blocks at `errs <- nil` for good
(`exited_timer_blocked`). The run at the end shows all three
(`retry_runs_two_operations`).
-/

namespace SwarmKit.Agent.Task

open SwarmKit.Scheduler (TaskState)

-- ====================== after exit

/-- Once `run` returned, its branches are off: a step is an operation's,
a timer's or `Close`'s, and none of them takes a timer's nil. -/
theorem exited_timers_stay {a : Act} {tm tm' : TaskManager} (he : tm.exited = true) (hs : step a tm = some tm') :
    tm'.exited = true ∧ tm.timersFired ≤ tm'.timersFired := by
  cases a
  case run | errsFromTimer | update | shutdown | closedBranch => simp [step, he] at hs
  case errsFromOp op | statusq op =>
    simp only [step, he] at hs
    split at hs <;> simp at hs
  case close =>
    cases hs
    exact ⟨he, Nat.le_refl _⟩
  case closeReturns =>
    simp only [step] at hs
    split at hs
    · cases hs
      exact ⟨he, Nat.le_refl _⟩
    · cases hs
  case finish op status err =>
    simp only [step] at hs
    split at hs
    · split at hs <;> cases hs <;> exact ⟨he, Nat.le_refl _⟩
    · cases hs
  case statusCtxDone op | opExit op =>
    simp only [step, he, or_true, ↓reduceIte] at hs
    split at hs
    · cases hs
      exact ⟨he, Nat.le_refl _⟩
    · cases hs
  case fire =>
    simp only [step] at hs
    split at hs
    · cases hs
      exact ⟨he, Nat.le_succ _⟩
    · cases hs

/-- A timer that went off after the loop returned stays blocked at
`errs <- nil` along every run. -/
theorem exited_timer_blocked {w₀ w : TaskManager} (he : w₀.exited = true) (hf : 0 < w₀.timersFired)
    (hw : Lts.Reachable step w₀ w) : w.exited = true ∧ 0 < w.timersFired := by
  have hind : Lts.Inductive step w₀ fun w => w.exited = true ∧ 0 < w.timersFired :=
    ⟨⟨he, hf⟩, fun ⟨he, hf⟩ hs =>
      have ⟨he', hle⟩ := exited_timers_stay he hs
      ⟨he', Nat.lt_of_lt_of_le hf hle⟩⟩
  exact hind.reachable hw

-- ========================= retries

/-- The task the manager starts with, and an update of its spec. -/
def webTask : TaskView := ⟨1, .running, 0⟩

def webTaskUpdated : TaskView := ⟨1, .running, 1⟩

/-- A dispatch that returns `ErrTaskRetry`; an update inside the timer's
second dispatches a second operation, and the timer's nil a third. -/
def retryCalls : List Act :=
  [.run, .finish 0 none .taskRetry, .errsFromOp 0, .update webTaskUpdated, .run, .fire, .errsFromTimer, .run]

/-- The second operation retries too; `Close` while the third runs, the
loop returns, and the second timer goes off. -/
def closeCalls : List Act :=
  [.finish 1 none .taskRetry, .errsFromOp 1, .close, .shutdown, .closeReturns, .closedBranch, .fire]

/-- A retry's nil taken as an operation's error: two operations run at
once, `Close` returns while one is still in `exec.Do`, and the second
timer stays blocked after the loop returned. -/
theorem retry_runs_two_operations :
    ∃ w₁, Lts.run step (TaskManager.init webTask .assigned) retryCalls = some w₁ ∧ w₁.inFlight = [1, 2] ∧
      ∃ w₂, Lts.run step w₁ closeCalls = some w₂ ∧ w₂.closeReturned = true ∧ w₂.inFlight = [2] ∧
        ∀ w, Lts.Reachable step w₂ w → 0 < w.timersFired := by
  refine ⟨_, rfl, by decide, _, rfl, by decide, by decide, fun w hw => ?_⟩
  exact (exited_timer_blocked (by decide) (by decide) hw).2

end SwarmKit.Agent.Task

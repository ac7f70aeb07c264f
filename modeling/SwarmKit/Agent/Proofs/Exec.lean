import SwarmKit.Lib.Lts
import SwarmKit.Design.Tasks
import SwarmKit.Agent.Exec

/-
What a call of `Do` does to a task's state, and how it stands to the
design.

# One call

`body_spec` says once what the body can do: return `ErrTaskNoop` where
the task is `Paused`, move with nil by a `Move` when an operation
succeeds or none is needed, or pass the error of an operation it
`Operates` to `fatal`, which retries or ends the task REJECTED or
FAILED. Every move goes up, so `transition` never panics, and a call
returns nil exactly when it moves the task on (`do_moves_up`).

# Many calls

Made as `Do`'s comment asks, the status each returns placed back on the
task, calls never lower the state and at most nine of them return nil,
whatever the controller answers and however the desired state changes
between them (`calls_bounded`): each nil moves the task to one of nine
states, higher than it was. A call that returns `ErrTaskNoop` is
followed by calls that return it again (`noop_stable`). With every
operation succeeding, nine calls settle a task at its desired state, a
task desired RUNNING running on to COMPLETE (`calls_settle`).

# The design

From ASSIGNED on, with a desired state the design allows, every change
`Do` or `Resolve` makes is one WorkerSpec.tla allows the worker, except
three that it does not and that each happen: a task stopped before it
runs goes straight to SHUTDOWN, one that fails while STARTING is FAILED
and not REJECTED, and a running task whose shutdown fails is FAILED and
not SHUTDOWN (`agent_conforms`).
-/

namespace SwarmKit.Agent.Exec

open SwarmKit.Scheduler (TaskState)
open SwarmKit.Design

-- ======================= the moves

/-- The results of the controller's four operations. -/
def Controller.ops (ctlr : Controller) : List (Option OpError) :=
  [ctlr.prepare, ctlr.start, ctlr.wait, ctlr.shutdown]

/-- The state `fatal` ends a task in. -/
def fatalState (s : TaskState) : TaskState :=
  if s.rank < TaskState.starting.rank then .rejected else .failed

/-- The moves of `Do` when its operation succeeds or it needs none, from
the state of a task desired `d`: one constructor a branch of the body. -/
inductive Move (d : TaskState) : TaskState → TaskState → Prop
  | shutdown {s : TaskState} : TaskState.shutdown.rank ≤ d.rank →
      s.rank < TaskState.complete.rank → Move d s .shutdown
  | prepared : d.rank < TaskState.shutdown.rank → TaskState.preparing.rank ≤ d.rank →
      Move d .preparing .ready
  | started : d.rank < TaskState.shutdown.rank → TaskState.starting.rank ≤ d.rank →
      Move d .starting .running
  | finished : d.rank < TaskState.shutdown.rank → TaskState.running.rank ≤ d.rank →
      Move d .running .complete
  | accepted {s : TaskState} : d.rank < TaskState.shutdown.rank → s.rank < d.rank →
      s = .new ∨ s = .pending ∨ s = .assigned → Move d s .accepted
  | preparing : d.rank < TaskState.shutdown.rank → TaskState.accepted.rank < d.rank →
      Move d .accepted .preparing
  | starting : d.rank < TaskState.shutdown.rank → TaskState.ready.rank < d.rank →
      Move d .ready .starting

/-- Where `Do` calls an operation: `Shutdown` on a task that has not
completed, or `Prepare`, `Start` or `Wait`. -/
inductive Operates (d : TaskState) : TaskState → Prop
  | shutdown {s : TaskState} : TaskState.shutdown.rank ≤ d.rank →
      s.rank < TaskState.complete.rank → Operates d s
  | prepare : d.rank < TaskState.shutdown.rank → TaskState.preparing.rank ≤ d.rank →
      Operates d .preparing
  | start : d.rank < TaskState.shutdown.rank → TaskState.starting.rank ≤ d.rank →
      Operates d .starting
  | wait : d.rank < TaskState.shutdown.rank → TaskState.running.rank ≤ d.rank →
      Operates d .running

/-- Where the body returns `ErrTaskNoop` without calling the controller:
done with a task desired shut down, past the desired state, at it in a
pause state, or below it in a state with nowhere to go. -/
inductive Paused (d s : TaskState) : Prop
  | done : TaskState.shutdown.rank ≤ d.rank → TaskState.complete.rank ≤ s.rank → Paused d s
  | past : d.rank < TaskState.shutdown.rank → d.rank < s.rank → Paused d s
  | reached : d.rank < TaskState.shutdown.rank → d.rank ≤ s.rank →
      s ≠ .preparing → s ≠ .starting → s ≠ .running → Paused d s
  | stuck : d.rank < TaskState.shutdown.rank → s.rank < d.rank →
      s ≠ .preparing → s ≠ .starting → s ≠ .running → s ≠ .new → s ≠ .pending → s ≠ .assigned →
      s ≠ .accepted → s ≠ .ready → Paused d s

/-- What the body returns from `status` for a task desired `d`: a noop
where it is paused, a move with nil, or `fatal` of an error one of the
controller's operations returned, where it calls one. -/
inductive Result (d : TaskState) (ctlr : Controller) (status : TaskStatus) : Outcome → Prop
  | noop : Paused d status.state → Result d ctlr status (noop status)
  | move {o : Outcome} : o.err = none → Move d status.state o.status.state → Result d ctlr status o
  | fatal {err : OpError} : some err ∈ ctlr.ops → Operates d status.state →
      Result d ctlr status (fatal status err)

-- ================ the pieces of Do

theorem transition_eq {status : TaskStatus} (state : TaskState) (msg : String)
    (h : status.state.rank ≤ state.rank) :
    ∃ o, transition status state msg = some o ∧ o.err = none ∧ o.status.state = state :=
  ⟨_, if_neg (Nat.not_lt.mpr h), rfl, rfl⟩

/-- `fatal` retries and stays, or ends the task in `fatalState`. -/
theorem fatal_cases (status : TaskStatus) (err : OpError) :
    ((fatal status err).err = some .taskRetry ∧ (fatal status err).status.state = status.state) ∨
      ((fatal status err).err = none ∧ (fatal status err).status.state = fatalState status.state) := by
  unfold fatal
  split
  · exact .inl ⟨rfl, rfl⟩
  · split
    · exact .inl ⟨rfl, rfl⟩
    · exact .inr ⟨rfl, rfl⟩

/-- An operation of the controller that moves up to `state` when it
succeeds. -/
theorem proceed_result {d : TaskState} {ctlr : Controller} {status : TaskStatus}
    {result : Option OpError} (hmem : result ∈ ctlr.ops)
    (done : Option OpError) {state : TaskState} (msg : String) (h : status.state.rank ≤ state.rank)
    (hmove : Move d status.state state) (hop : Operates d status.state) :
    ∃ o, proceed status result done state msg = some o ∧ Result d ctlr status o := by
  obtain ⟨o, ho, herr, hstate⟩ := transition_eq state msg h
  have hok : Result d ctlr status o := .move herr (hstate ▸ hmove)
  cases result with
  | none => exact ⟨o, ho, hok⟩
  | some err =>
    -- an error other than the sentinel fails the task
    unfold proceed
    by_cases hne : some err ≠ done
    · exact ⟨_, if_pos hne, .fatal hmem hop⟩
    · exact ⟨o, (if_neg hne).trans ho, hok⟩

-- ======================== the body

theorem stop_spec (d : TaskState) (status : TaskStatus) (ctlr : Controller)
    (hd : TaskState.shutdown.rank ≤ d.rank) :
    ∃ o, stop status ctlr = some o ∧ Result d ctlr status o := by
  unfold stop
  by_cases hs : TaskState.complete.rank ≤ status.state.rank
  · exact ⟨_, if_pos hs, .noop (.done hd hs)⟩
  · rw [if_neg hs]
    have hs : status.state.rank < TaskState.complete.rank := Nat.lt_of_not_le hs
    cases hshut : ctlr.shutdown with
    | some err =>
      exact ⟨_, rfl, .fatal (by simp [Controller.ops, hshut]) (.shutdown hd hs)⟩
    | none =>
      -- a shutdown moves up: the task has not completed
      have hup : status.state.rank ≤ TaskState.shutdown.rank :=
        Nat.le_of_lt (Nat.lt_trans hs (by decide))
      obtain ⟨o, ho, herr, hstate⟩ := transition_eq .shutdown "shutdown" hup
      exact ⟨o, ho, .move herr (hstate ▸ .shutdown hd hs)⟩

theorem advance_spec (d : TaskState) (status : TaskStatus) (ctlr : Controller)
    (hd : d.rank < TaskState.shutdown.rank) (hprep : status.state ≠ .preparing)
    (hstart : status.state ≠ .starting) (hrun : status.state ≠ .running) :
    ∃ o, advance d status = some o ∧ Result d ctlr status o := by
  unfold advance
  by_cases hle : d.rank ≤ status.state.rank
  · exact ⟨_, if_pos hle, .noop (.reached hd hle hprep hstart hrun)⟩
  · rw [if_neg hle]
    have hlt : status.state.rank < d.rank := Nat.lt_of_not_le hle
    -- NEW, PENDING and ASSIGNED share one branch
    have accept (hs : status.state = .new ∨ status.state = .pending ∨ status.state = .assigned) :
        ∃ o, transition status .accepted "accepted" = some o ∧ Result d ctlr status o := by
      obtain ⟨o, ho, herr, hstate⟩ := transition_eq .accepted "accepted"
        (by rcases hs with hs | hs | hs <;> rw [hs] <;> decide)
      exact ⟨o, ho, .move herr (hstate ▸ .accepted hd hlt hs)⟩
    split
    · next hs => exact accept (.inl hs)
    · next hs => exact accept (.inr (.inl hs))
    · next hs => exact accept (.inr (.inr hs))
    · next hs =>
      obtain ⟨o, ho, herr, hstate⟩ := transition_eq .preparing "preparing" (by rw [hs]; decide)
      rw [hs] at hlt
      exact ⟨o, ho, .move herr (by rw [hstate, hs]; exact .preparing hd hlt)⟩
    · next hs =>
      obtain ⟨o, ho, herr, hstate⟩ := transition_eq .starting "starting" (by rw [hs]; decide)
      rw [hs] at hlt
      exact ⟨o, ho, .move herr (by rw [hstate, hs]; exact .starting hd hlt)⟩
    · next hnew hpend hass hacc hready =>
      exact ⟨_, rfl, .noop (.stuck hd hlt hprep hstart hrun hnew hpend hass hacc hready)⟩

/-- The body of `Do` never panics, and returns what `Result` allows. -/
theorem body_spec (task : Task) (ctlr : Controller) :
    ∃ o, body task ctlr = some o ∧ Result task.desiredState ctlr task.status o := by
  unfold body
  by_cases hd : TaskState.shutdown.rank ≤ task.desiredState.rank
  · rw [if_pos hd]
    exact stop_spec _ _ _ hd
  · rw [if_neg hd]
    have hd : task.desiredState.rank < TaskState.shutdown.rank := Nat.lt_of_not_le hd
    by_cases hds : task.desiredState.rank < task.status.state.rank
    · exact ⟨_, if_pos hds, .noop (.past hd hds)⟩
    · rw [if_neg hds]
      have hds : task.status.state.rank ≤ task.desiredState.rank := Nat.le_of_not_lt hds
      -- the three operations, each moving up when it succeeds
      split
      · next hs =>
        rw [hs] at hds
        exact proceed_result (by simp [Controller.ops]) _ _ (by rw [hs]; decide)
          (hs ▸ .prepared hd hds) (hs ▸ .prepare hd hds)
      · next hs =>
        rw [hs] at hds
        exact proceed_result (by simp [Controller.ops]) _ _ (by rw [hs]; decide)
          (hs ▸ .started hd hds) (hs ▸ .start hd hds)
      · next hs =>
        rw [hs] at hds
        exact proceed_result (by simp [Controller.ops]) _ _ (by rw [hs]; decide)
          (hs ▸ .finished hd hds) (hs ▸ .wait hd hds)
      · next hprep hstart hrun => exact advance_spec _ _ _ hd hprep hstart hrun

/-- A paused task gets a noop, whatever the controller. -/
theorem body_of_paused {task : Task} (ctlr : Controller)
    (h : Paused task.desiredState task.status.state) : body task ctlr = some (noop task.status) := by
  unfold body
  cases h with
  | done hd hs => rw [if_pos hd, stop, if_pos hs]
  | past hd hs => rw [if_neg (Nat.not_le.mpr hd), if_pos hs]
  | reached hd hle hprep hstart hrun =>
    rw [if_neg (Nat.not_le.mpr hd)]
    by_cases hlt : task.desiredState.rank < task.status.state.rank
    · rw [if_pos hlt]
    · rw [if_neg hlt]
      split
      · next hs => exact absurd hs hprep
      · next hs => exact absurd hs hstart
      · next hs => exact absurd hs hrun
      · rw [advance, if_pos hle]
  | stuck hd hlt hprep hstart hrun hnew hpend hass hacc hready =>
    rw [if_neg (Nat.not_le.mpr hd), if_neg (Nat.not_lt.mpr (Nat.le_of_lt hlt))]
    -- a state with nowhere to go below the desired one: the last branch
    split
    · next hs => exact absurd hs hprep
    · next hs => exact absurd hs hstart
    · next hs => exact absurd hs hrun
    · rw [advance, if_neg (Nat.not_le.mpr hlt)]
      split
      · next hs => exact absurd hs hnew
      · next hs => exact absurd hs hpend
      · next hs => exact absurd hs hass
      · next hs => exact absurd hs hacc
      · next hs => exact absurd hs hready
      · rfl

-- ======================== one call

/-- Every move of `Do` goes to a state of higher rank. -/
theorem Move.rank_lt {d s t : TaskState} (h : Move d s t) : s.rank < t.rank := by
  cases h with
  | shutdown _ hs => exact Nat.lt_trans hs (by decide)
  | accepted _ _ hs => rcases hs with rfl | rfl | rfl <;> decide
  | _ => decide

/-- An operation is called on a task that has not completed. -/
theorem Operates.lt_complete {d s : TaskState} (h : Operates d s) : s.rank < TaskState.complete.rank := by
  cases h with
  | shutdown _ hs => exact hs
  | _ => decide

/-- A task failed where an operation was called moves up. -/
theorem Operates.rank_lt {d s : TaskState} (h : Operates d s) : s.rank < (fatalState s).rank := by
  have hs := h.lt_complete
  cases s <;> revert hs <;> decide

@[simp] theorem collectStatus_state (task : Task) (ctlr : Controller) (o : Outcome) :
    (collectStatus task ctlr o).state = o.status.state := by
  unfold collectStatus
  split
  · rfl
  · -- whichever container status is found, only the container and port fields change
    dsimp only
    repeat' split
    all_goals rfl

@[simp] theorem stamp_state (now : Int) (task : Task) (status : TaskStatus) :
    (stamp now task status).state = status.state := by
  unfold stamp
  split <;> rfl

/-- `Do` is its body followed by the deferred functions, which leave the
state alone. -/
theorem execDo_spec (now : Int) (task : Task) (ctlr : Controller) :
    ∃ o, Result task.desiredState ctlr task.status o ∧
      execDo now task ctlr = some (stamp now task (collectStatus task ctlr o), o.err) := by
  obtain ⟨o, ho, hr⟩ := body_spec task ctlr
  exact ⟨o, hr, by rw [execDo, ho, Option.map_some]⟩

theorem execDo_isSome (now : Int) (task : Task) (ctlr : Controller) : (execDo now task ctlr).isSome := by
  obtain ⟨o, -, hdo⟩ := execDo_spec now task ctlr
  rw [hdo]
  rfl

/-- What a call of `Do` does to the state: with an error it stays; with
nil it moves by a `Move`, or to `fatalState` where an operation failed. -/
theorem execDo_cases {now : Int} {task : Task} {ctlr : Controller} {status : TaskStatus}
    {err : Option DoErr} (h : execDo now task ctlr = some (status, err)) :
    (err ≠ none ∧ status.state = task.status.state) ∨
      (err = none ∧ Move task.desiredState task.status.state status.state) ∨
      (err = none ∧ (∃ e, some e ∈ ctlr.ops) ∧ Operates task.desiredState task.status.state ∧
        status.state = fatalState task.status.state) := by
  obtain ⟨o, hr, hdo⟩ := execDo_spec now task ctlr
  rw [hdo, Option.some.injEq, Prod.mk.injEq] at h
  obtain ⟨rfl, rfl⟩ := h
  simp only [stamp_state, collectStatus_state]
  cases hr with
  | noop => exact .inl ⟨nofun, rfl⟩
  | move herr hmove => exact .inr (.inl ⟨herr, hmove⟩)
  | fatal hmem hop =>
    rcases fatal_cases task.status _ with ⟨herr, hstate⟩ | ⟨herr, hstate⟩
    · exact .inl ⟨by rw [herr]; exact nofun, hstate⟩
    · exact .inr (.inr ⟨herr, ⟨_, hmem⟩, hop, hstate⟩)

/-- `Do` never panics; it returns nil exactly when it moves the task to a
state of higher rank, and with `ErrTaskNoop` or `ErrTaskRetry` it leaves
the state as it was. -/
theorem do_moves_up (now : Int) (task : Task) (ctlr : Controller) :
    ∃ status err, execDo now task ctlr = some (status, err) ∧
      (err = none → task.status.state.rank < status.state.rank) ∧
      (err ≠ none → status.state = task.status.state) := by
  obtain ⟨⟨status, err⟩, hdo⟩ := Option.isSome_iff_exists.mp (execDo_isSome now task ctlr)
  refine ⟨status, err, hdo, fun herr => ?_, fun herr => ?_⟩
  · rcases execDo_cases hdo with ⟨hne, -⟩ | ⟨-, hmove⟩ | ⟨-, -, hop, hstate⟩
    · exact absurd herr hne
    · exact hmove.rank_lt
    · exact hstate ▸ hop.rank_lt
  · rcases execDo_cases hdo with ⟨-, hstate⟩ | ⟨hnil, -⟩ | ⟨hnil, -⟩
    · exact hstate
    · exact absurd hnil herr
    · exact absurd hnil herr

/-- `ErrTaskNoop` means a second call changes nothing: the call that
returns it leaves the state, and every later call on the status it
returns, at any time and whatever the controller, returns it again. -/
theorem noop_stable {now : Int} {task : Task} {ctlr : Controller} {status : TaskStatus}
    (h : execDo now task ctlr = some (status, some .taskNoop)) :
    status.state = task.status.state ∧ ∀ (now' : Int) (ctlr' : Controller), ∃ status',
      execDo now' { task with status } ctlr' = some (status', some .taskNoop) ∧
        status'.state = status.state := by
  obtain ⟨o, hr, hdo⟩ := execDo_spec now task ctlr
  rw [h, Option.some.injEq, Prod.mk.injEq] at hdo
  obtain ⟨rfl, herr⟩ := hdo
  -- only a paused task gets a noop, and it stays paused
  cases hr with
  | noop hp =>
    have hstate : (stamp now task (collectStatus task ctlr (noop task.status))).state =
        task.status.state := by simp [noop]
    refine ⟨hstate, fun now' ctlr' => ?_⟩
    rw [execDo, body_of_paused ctlr' (by exact hstate ▸ hp)]
    exact ⟨_, rfl, by simp [noop]⟩
  | move hr _ => rw [hr] at herr; cases herr
  | fatal =>
    rcases fatal_cases task.status _ with ⟨hr, -⟩ | ⟨hr, -⟩ <;> rw [hr] at herr <;> cases herr

theorem noop_stable_ready :
    execDo 0 ⟨.ready, ⟨none, .ready, "", "", none, none⟩⟩ ⟨none, none, none, none, none, none⟩ =
        some (⟨none, .ready, "", "", none, none⟩, some .taskNoop) ∧
      (⟨none, .ready, "", "", none, none⟩ : TaskStatus).state = TaskState.ready ∧
      ∀ (now' : Int) (ctlr' : Controller), ∃ status',
        execDo now' ⟨.ready, ⟨none, .ready, "", "", none, none⟩⟩ ctlr' = some (status', some .taskNoop) ∧
          status'.state = TaskState.ready :=
  have h : execDo 0 ⟨.ready, ⟨none, .ready, "", "", none, none⟩⟩ ⟨none, none, none, none, none, none⟩ =
      some (⟨none, .ready, "", "", none, none⟩, some .taskNoop) := by decide
  ⟨h, (noop_stable h).1, (noop_stable h).2⟩

-- ====================== many calls

/-- The states a call that returns nil can move a task to, in the order
of their numbers. -/
def targets : List TaskState :=
  [.accepted, .preparing, .ready, .starting, .running, .complete, .shutdown, .failed, .rejected]

/-- How many states of `l` are above `s`: what is left of a task's way
through `l`. -/
def above (l : List TaskState) (s : TaskState) : Nat := l.countP fun t => s.rank < t.rank

private theorem countP_lt_countP_of_mem {α : Type} {p q : α → Bool} {l : List α}
    (hpq : ∀ x ∈ l, p x → q x) {y : α} (hy : y ∈ l) (hqy : q y) (hpy : ¬ p y) :
    l.countP p < l.countP q := by
  induction l with
  | nil => cases hy
  | cons x l ih =>
    have hle : l.countP p ≤ l.countP q :=
      List.countP_mono_left fun z hz => hpq z (List.mem_cons_of_mem x hz)
    have hx : (if p x then 1 else 0) ≤ (if q x then 1 else 0) := by
      by_cases hp : p x
      · rw [if_pos hp, if_pos (hpq x List.mem_cons_self hp)]
      · rw [if_neg hp]
        exact Nat.zero_le _
    rw [List.countP_cons, List.countP_cons]
    rcases List.mem_cons.mp hy with rfl | hy
    · rw [if_pos hqy, if_neg hpy]
      omega
    · have := ih (fun z hz => hpq z (List.mem_cons_of_mem x hz)) hy
      omega

/-- A move to a state of `l` lowers what is left of the way through it. -/
theorem above_lt {l : List TaskState} {s t : TaskState} (ht : t ∈ l) (h : s.rank < t.rank) :
    above l t < above l s :=
  countP_lt_countP_of_mem (fun x _ hx => by simp only [decide_eq_true_eq] at hx ⊢; omega) ht
    (by simpa using h) (by simp)

theorem above_le_length (l : List TaskState) (s : TaskState) : above l s ≤ l.length :=
  List.countP_le_length

theorem Move.mem_targets {d s t : TaskState} (h : Move d s t) : t ∈ targets := by
  cases h <;> decide

theorem fatalState_mem_targets (s : TaskState) : fatalState s ∈ targets := by
  unfold fatalState
  split <;> decide

theorem callStep_isSome (c : Call) (task : Task) : (callStep c task).isSome := by
  obtain ⟨r, hdo⟩ := Option.isSome_iff_exists.mp (execDo_isSome c.now { task with desiredState := c.desired } c.ctlr)
  rw [callStep, hdo]
  rfl

/-- A call on the task manager's task goes through `Do`. -/
theorem callStep_eq {c : Call} {task task' : Task} {err : Option DoErr}
    (h : callStep c task = some (task', err)) :
    ∃ status, execDo c.now { task with desiredState := c.desired } c.ctlr = some (status, err) ∧
      task' = { task with desiredState := c.desired, status } := by
  obtain ⟨⟨status, err'⟩, hdo, heq⟩ := Option.map_eq_some_iff.mp h
  cases heq
  exact ⟨status, hdo, rfl⟩

/-- One call never lowers the state, and one that returns nil lowers what
is left of the task's way through `targets`. -/
theorem callStep_above {c : Call} {task task' : Task} {err : Option DoErr}
    (h : callStep c task = some (task', err)) :
    task.status.state.rank ≤ task'.status.state.rank ∧
      above targets task'.status.state + (if err.isNone then 1 else 0) ≤ above targets task.status.state := by
  obtain ⟨status, hdo, rfl⟩ := callStep_eq h
  have hcases := execDo_cases hdo
  dsimp only at hcases ⊢
  rcases hcases with ⟨hne, hstate⟩ | ⟨rfl, hmove⟩ | ⟨rfl, -, hop, hstate⟩
  · -- an error: the state stays
    obtain ⟨e, rfl⟩ := Option.ne_none_iff_exists'.mp hne
    rw [hstate]
    simp
  · have hlt := above_lt hmove.mem_targets hmove.rank_lt
    refine ⟨Nat.le_of_lt hmove.rank_lt, ?_⟩
    show _ + 1 ≤ _
    omega
  · have hlt := above_lt (fatalState_mem_targets _) hop.rank_lt
    rw [hstate]
    refine ⟨Nat.le_of_lt hop.rank_lt, ?_⟩
    show _ + 1 ≤ _
    omega

/-- Calls on a task run to their end, never lower its state, and return
nil at most nine times, whatever the controller answers and however the
desired state changes between them. -/
theorem calls_bounded (task : Task) (cs : List Call) :
    ∃ task' errs, calls task cs = some (task', errs) ∧ errs.length = cs.length ∧
      task.status.state.rank ≤ task'.status.state.rank ∧ errs.countP Option.isNone ≤ 9 := by
  obtain ⟨task', errs, hrun, hlen⟩ := Lts.runOut_total callStep_isSome cs task
  refine ⟨task', errs, hrun, hlen, ?_, ?_⟩
  · -- the rank only goes up
    exact Lts.runOut_invariant (P := fun t => task.status.state.rank ≤ t.status.state.rank)
      (fun _ _ _ _ hstep hle => Nat.le_trans hle (callStep_above hstep).1) hrun (Nat.le_refl _)
  · -- each nil lowers the nine states left above the task
    have hvar := Lts.runOut_variant (fun t => above targets t.status.state) Option.isNone
      (fun _ _ _ _ hstep => (callStep_above hstep).2) hrun
    have hnine : above targets task.status.state ≤ 9 := above_le_length targets _
    omega

-- ============== calls that succeed

/-- Where calls with every operation succeeding leave a task desired `d`:
shut down unless it completed, for a desired shutdown; below the desired
state, at it, or at COMPLETE where RUNNING is desired; past it, where it
is. -/
def settled (d s : TaskState) : TaskState :=
  if TaskState.shutdown.rank ≤ d.rank then (if s.rank < TaskState.complete.rank then .shutdown else s)
  else if s.rank ≤ d.rank then (if d = .running then .complete else d) else s

/-- The states a task desired `d` passes through on its way. -/
def movePath (d : TaskState) : List TaskState :=
  if TaskState.shutdown.rank ≤ d.rank then [.shutdown]
  else [.accepted, .preparing, .ready, .starting, .running, .complete]

theorem movePath_length_le (d : TaskState) : (movePath d).length ≤ 6 := by
  unfold movePath
  split <;> decide

theorem Move.mem_movePath {d s t : TaskState} (h : Move d s t) : t ∈ movePath d := by
  cases h with
  | shutdown hd _ => rw [movePath, if_pos hd]; exact List.mem_singleton_self _
  | prepared hd _ | started hd _ | finished hd _ | accepted hd _ _ | preparing hd _ | starting hd _ =>
    rw [movePath, if_neg (Nat.not_le.mpr hd)]
    decide

/-- A desired state the orchestrators set. -/
theorem mem_desiredStates {d : TaskState} (hd : d ∈ desiredStates) :
    d = .ready ∨ d = .running ∨ d = .shutdown ∨ d = .remove := by
  simpa [desiredStates] using hd

/-- A move stays on the way to where the task settles. This needs a
desired state the orchestrators set: a task desired PREPARING goes past
it, to READY. -/
theorem settled_move {d s t : TaskState} (hd : d ∈ desiredStates) (h : Move d s t) :
    settled d t = settled d s := by
  cases h with
  | shutdown hsd hs =>
    -- a task that has not completed settles at SHUTDOWN, as SHUTDOWN does
    unfold settled
    rw [if_pos hsd, if_pos hsd, ite_self, if_pos hs]
  | accepted hd' hlt hs =>
    rcases hs with rfl | rfl | rfl <;> rcases mem_desiredStates hd with rfl | rfl | rfl | rfl <;>
      revert hd' hlt <;> decide
  | prepared hd1 hd2 | started hd1 hd2 | finished hd1 hd2 | preparing hd1 hd2 | starting hd1 hd2 =>
    rcases mem_desiredStates hd with rfl | rfl | rfl | rfl <;> revert hd1 hd2 <;> decide

/-- A paused task is where it settles. -/
theorem settled_paused {d s : TaskState} (hd : d ∈ desiredStates) (h : Paused d s) : settled d s = s := by
  cases h with
  | done hsd hs =>
    unfold settled
    rw [if_pos hsd, if_neg (Nat.not_lt.mpr hs)]
  | past hd' hlt =>
    unfold settled
    rw [if_neg (Nat.not_le.mpr hd'), if_neg (Nat.not_le.mpr hlt)]
  | reached hd' hle hprep hstart hrun =>
    rcases mem_desiredStates hd with rfl | rfl | rfl | rfl <;> cases s <;>
      revert hd' hle hprep hstart hrun <;> decide
  | stuck hd' hlt hprep hstart hrun hnew hpend hass hacc hready =>
    -- no state with nowhere to go is below a desired state
    rcases mem_desiredStates hd with rfl | rfl | rfl | rfl <;> cases s <;>
      revert hd' hlt hprep hstart hrun hnew hpend hass hacc hready <;> decide

/-- A call on a paused task returns `ErrTaskNoop` and leaves the state. -/
theorem callStep_paused {c : Call} {task : Task} (h : Paused c.desired task.status.state) :
    ∃ task', callStep c task = some (task', some .taskNoop) ∧ task'.status.state = task.status.state := by
  have hbody := @body_of_paused { task with desiredState := c.desired } c.ctlr h
  rw [callStep, execDo, hbody]
  exact ⟨_, rfl, by simp [noop]⟩

/-- With every operation succeeding, a call on a task that is not paused
moves it and returns nil. -/
theorem callStep_succeeds {c : Call} {task : Task} (hops : ∀ r ∈ c.ctlr.ops, r = none)
    (hp : ¬ Paused c.desired task.status.state) :
    ∃ task', callStep c task = some (task', none) ∧ Move c.desired task.status.state task'.status.state := by
  obtain ⟨o, hr, hdo⟩ := execDo_spec c.now { task with desiredState := c.desired } c.ctlr
  cases hr with
  | noop hpaused => exact absurd hpaused hp
  | move herr hmove =>
    rw [callStep, hdo, herr]
    exact ⟨_, rfl, by simpa using hmove⟩
  | fatal hmem _ => exact absurd (hops _ hmem) nofun

/-- Seven calls, each desired `d` as the orchestrators set it and with
every operation succeeding, settle a task: at its desired state, or at
COMPLETE where RUNNING is desired, SHUTDOWN where it is desired shut down
and has not completed; and the last call returns `ErrTaskNoop`. -/
theorem calls_settle (task : Task) {d : TaskState} (hd : d ∈ desiredStates) (cs : List Call)
    (hcs : ∀ c ∈ cs, c.desired = d ∧ ∀ r ∈ c.ctlr.ops, r = none) (hlen : 7 ≤ cs.length) :
    ∃ task' errs, calls task cs = some (task', errs) ∧
      task'.status.state = settled d task.status.state ∧ errs.getLast? = some (some .taskNoop) := by
  -- a paused task stays paused, with the same state
  have hfix : ∀ c ∈ cs, ∀ t : Task, settled d t.status.state = settled d task.status.state →
      Paused d t.status.state → ∃ t', callStep c t = some (t', some .taskNoop) ∧
        settled d t'.status.state = settled d task.status.state ∧ Paused d t'.status.state := by
    intro c hc t hs hp
    obtain ⟨t', hstep, hstate⟩ := callStep_paused (by rw [(hcs c hc).1]; exact hp)
    exact ⟨t', hstep, hstate ▸ hs, hstate ▸ hp⟩
  -- any other moves on its way, to the same place
  have hmove : ∀ c ∈ cs, ∀ t : Task, settled d t.status.state = settled d task.status.state →
      ¬ Paused d t.status.state → ∃ t' err, callStep c t = some (t', err) ∧
        settled d t'.status.state = settled d task.status.state ∧
        above (movePath d) t'.status.state < above (movePath d) t.status.state := by
    intro c hc t hs hp
    obtain ⟨hdes, hops⟩ := hcs c hc
    obtain ⟨t', hstep, hm⟩ := callStep_succeeds hops (by rw [hdes]; exact hp)
    rw [hdes] at hm
    exact ⟨t', none, hstep, (settled_move hd hm).trans hs, above_lt hm.mem_movePath hm.rank_lt⟩
  have hμ : above (movePath d) task.status.state < cs.length := by
    have h6 := Nat.le_trans (above_le_length (movePath d) task.status.state) (movePath_length_le d)
    omega
  obtain ⟨t, errs, hrun, hs, hp, hlast⟩ := Lts.runOut_settles
    (P := fun t : Task => settled d t.status.state = settled d task.status.state)
    (μ := fun t : Task => above (movePath d) t.status.state) hfix hmove rfl hμ
  exact ⟨t, errs, hrun, (settled_paused hd hp).symm.trans hs, hlast⟩

theorem calls_settle_running :
    TaskState.running ∈ desiredStates ∧
      (∀ c ∈ List.replicate 7 (⟨0, .running, ⟨none, none, none, none, none, none⟩⟩ : Call),
        c.desired = .running ∧ ∀ r ∈ c.ctlr.ops, r = none) ∧
      7 ≤ (List.replicate 7 (⟨0, .running, ⟨none, none, none, none, none, none⟩⟩ : Call)).length ∧
      ∃ task' errs, calls ⟨.running, ⟨none, .new, "", "", none, none⟩⟩
          (List.replicate 7 ⟨0, .running, ⟨none, none, none, none, none, none⟩⟩) = some (task', errs) ∧
        task'.status.state = settled .running .new ∧ errs.getLast? = some (some .taskNoop) :=
  ⟨by decide, by decide, by decide,
    calls_settle ⟨.running, ⟨none, .new, "", "", none, none⟩⟩ (by decide)
      (List.replicate 7 ⟨0, .running, ⟨none, none, none, none, none, none⟩⟩) (by decide) (by decide)⟩

-- ====================== the design

/-- The changes the agent makes to a task that WorkerSpec.tla does not
allow the worker. -/
def Divergence (desired s t : TaskState) : Prop :=
  -- stopped before it runs: SHUTDOWN, where the design only rejects
  (s ∈ [.assigned, .accepted, .preparing, .ready, .starting] ∧ (desired = .shutdown ∨ desired = .remove) ∧
      t = .shutdown) ∨
    -- failed while STARTING: FAILED, where the design rejects
    (s = .starting ∧ t = .failed) ∨
    -- a running task whose shutdown failed: FAILED, where the design has SHUTDOWN
    (s = .running ∧ desired = .shutdown ∧ t = .failed)

instance (desired s t : TaskState) : Decidable (Divergence desired s t) :=
  inferInstanceAs (Decidable ((s ∈ [.assigned, .accepted, .preparing, .ready, .starting] ∧
    (desired = .shutdown ∨ desired = .remove) ∧ t = .shutdown) ∨ (s = .starting ∧ t = .failed) ∨
    (s = .running ∧ desired = .shutdown ∧ t = .failed)))

/-- Every move of `Do`, from ASSIGNED on, is a worker step or a
divergence. The table is finite: each move is checked at each desired
state. -/
theorem move_conforms {d s t : TaskState} (hd : d ∈ desiredStates) (hs : Precedes .assigned s)
    (h : Move d s t) : WorkerStep d s t ∨ Divergence d s t := by
  cases h with
  | shutdown hsd hlt =>
    rcases mem_desiredStates hd with rfl | rfl | rfl | rfl <;> cases s <;> revert hs hsd hlt <;> decide
  | accepted hd' hlt hs' =>
    rcases hs' with rfl | rfl | rfl <;> rcases mem_desiredStates hd with rfl | rfl | rfl | rfl <;>
      revert hs hd' hlt <;> decide
  | prepared hd1 hd2 | started hd1 hd2 | finished hd1 hd2 | preparing hd1 hd2 | starting hd1 hd2 =>
    rcases mem_desiredStates hd with rfl | rfl | rfl | rfl <;> revert hd1 hd2 <;> decide

/-- A failure from ASSIGNED up to RUNNING, as `fatal` or `Resolve` ends
it, is a worker step or a divergence. -/
theorem fatalState_conforms {d s : TaskState} (hd : d ∈ desiredStates) (hs : Precedes .assigned s)
    (hlt : s.rank < TaskState.complete.rank) :
    WorkerStep d s (fatalState s) ∨ Divergence d s (fatalState s) := by
  rcases mem_desiredStates hd with rfl | rfl | rfl | rfl <;> cases s <;> revert hs hlt <;> decide

/-- `Resolve` accepting an ASSIGNED task is the design's first progress
step, whatever the desired state. -/
theorem accept_conforms {d : TaskState} (hd : d ∈ desiredStates) : WorkerStep d .assigned .accepted := by
  rcases mem_desiredStates hd with rfl | rfl | rfl | rfl <;> decide

theorem eq_assigned_of_lt_accepted {s : TaskState} (hs : Precedes .assigned s)
    (hlt : s.rank < TaskState.accepted.rank) : s = .assigned := by
  cases s <;> revert hs hlt <;> decide

/-- What `Resolve` does to the state: a task it cannot get a controller
for ends as `fatal` would end it, up to RUNNING; one below ACCEPTED is
accepted. -/
theorem resolve_cases (task : Task) (controller : Except String Controller) :
    (resolve task controller).2.1.state = task.status.state ∨
      (task.status.state.rank ≤ TaskState.running.rank ∧
        (resolve task controller).2.1.state = fatalState task.status.state) ∨
      (task.status.state.rank < TaskState.accepted.rank ∧ (resolve task controller).2.1.state = .accepted) := by
  unfold resolve
  cases controller with
  | error err =>
    dsimp only
    by_cases hlt : task.status.state.rank < TaskState.starting.rank
    · rw [if_pos hlt]
      exact .inr (.inl ⟨Nat.le_of_lt (Nat.lt_trans hlt (by decide)), by rw [fatalState, if_pos hlt]⟩)
    · rw [if_neg hlt]
      by_cases hle : task.status.state.rank ≤ TaskState.running.rank
      · rw [if_pos hle]
        exact .inr (.inl ⟨hle, by rw [fatalState, if_neg hlt]⟩)
      · rw [if_neg hle]
        exact .inl rfl
  | ok ctlr =>
    dsimp only
    by_cases hlt : task.status.state.rank < TaskState.accepted.rank
    · rw [if_pos hlt]
      exact .inr (.inr ⟨hlt, rfl⟩)
    · rw [if_neg hlt]
      exact .inl rfl

/-- From ASSIGNED on, with a desired state the orchestrators set, every
change of state `Do` or `Resolve` makes is one WorkerSpec.tla allows the
worker, or one of the three divergences. -/
theorem agent_conforms (now : Int) (task : Task) (ctlr : Controller) (controller : Except String Controller)
    (hd : task.desiredState ∈ desiredStates) (hs : Precedes .assigned task.status.state) :
    (∀ status err, execDo now task ctlr = some (status, err) → status.state ≠ task.status.state →
        WorkerStep task.desiredState task.status.state status.state ∨
          Divergence task.desiredState task.status.state status.state) ∧
      ((resolve task controller).2.1.state ≠ task.status.state →
        WorkerStep task.desiredState task.status.state (resolve task controller).2.1.state ∨
          Divergence task.desiredState task.status.state (resolve task controller).2.1.state) := by
  constructor
  · intro status err hdo hne
    rcases execDo_cases hdo with ⟨-, hstate⟩ | ⟨-, hmove⟩ | ⟨-, -, hop, hstate⟩
    · exact absurd hstate hne
    · exact move_conforms hd hs hmove
    · rw [hstate]
      exact fatalState_conforms hd hs hop.lt_complete
  · intro hne
    rcases resolve_cases task controller with hstate | ⟨hle, hstate⟩ | ⟨hlt, hstate⟩
    · exact absurd hstate hne
    · rw [hstate]
      exact fatalState_conforms hd hs (Nat.lt_of_le_of_lt hle (by decide))
    · rw [hstate, eq_assigned_of_lt_accepted hs hlt]
      exact .inl (accept_conforms hd)

theorem agent_conforms_starting :
    TaskState.shutdown ∈ desiredStates ∧ Precedes .assigned .starting ∧
      (∀ status err, execDo 0 ⟨.shutdown, ⟨none, .starting, "", "", none, none⟩⟩
          ⟨none, none, none, none, none, none⟩ = some (status, err) → status.state ≠ .starting →
          WorkerStep .shutdown .starting status.state ∨ Divergence .shutdown .starting status.state) ∧
        ((resolve ⟨.shutdown, ⟨none, .starting, "", "", none, none⟩⟩ (.error "")).2.1.state ≠ .starting →
          WorkerStep .shutdown .starting
              (resolve ⟨.shutdown, ⟨none, .starting, "", "", none, none⟩⟩ (.error "")).2.1.state ∨
            Divergence .shutdown .starting
              (resolve ⟨.shutdown, ⟨none, .starting, "", "", none, none⟩⟩ (.error "")).2.1.state) :=
  ⟨by decide, by decide,
    agent_conforms 0 ⟨.shutdown, ⟨none, .starting, "", "", none, none⟩⟩
      ⟨none, none, none, none, none, none⟩ (.error "") (by decide) (by decide)⟩

theorem body_of_shutdown {task : Task} (ctlr : Controller)
    (hd : TaskState.shutdown.rank ≤ task.desiredState.rank) : body task ctlr = stop task.status ctlr := by
  unfold body
  exact if_pos hd

theorem stop_of_succeeds {status : TaskStatus} (ctlr : Controller) (hs : status.state.rank < TaskState.complete.rank)
    (hshut : ctlr.shutdown = none) :
    ∃ o, stop status ctlr = some o ∧ o.err = none ∧ o.status.state = .shutdown := by
  obtain ⟨o, ho, herr, hstate⟩ := transition_eq .shutdown "shutdown" (Nat.le_of_lt (Nat.lt_trans hs (by decide)))
  refine ⟨o, ?_, herr, hstate⟩
  unfold stop
  rw [if_neg (Nat.not_le.mpr hs), hshut]
  exact ho

theorem stop_of_fails {status : TaskStatus} (ctlr : Controller) {err : OpError}
    (hs : status.state.rank < TaskState.complete.rank) (hshut : ctlr.shutdown = some err) :
    stop status ctlr = some (fatal status err) := by
  unfold stop
  rw [if_neg (Nat.not_le.mpr hs), hshut]

/-- An error with a live context that is not temporary ends the task. -/
theorem fatal_state_of_permanent (status : TaskStatus) (err : OpError) (hc : err.contextDone = false)
    (ht : err.temporary = false) : (fatal status err).status.state = fatalState status.state := by
  unfold fatal
  simp only [hc, ht, Bool.false_eq_true, if_false]
  rfl

/-- Each divergence happens: to every task in a state and at a desired
state of a divergence, some controller, or a failure to get one, does
it. -/
theorem divergences_occur (task : Task) {t : TaskState} (h : Divergence task.desiredState task.status.state t) :
    (∃ now ctlr status err, execDo now task ctlr = some (status, err) ∧ status.state = t) ∨
      ∃ err, (resolve task (.error err)).2.1.state = t := by
  have hsd (hdes : task.desiredState = .shutdown ∨ task.desiredState = .remove) :
      TaskState.shutdown.rank ≤ task.desiredState.rank := by
    rcases hdes with h | h
    · exact h ▸ Nat.le_refl _
    · rw [h]
      decide
  rcases h with ⟨hs, hdes, rfl⟩ | ⟨hs, rfl⟩ | ⟨hs, hdes, rfl⟩
  · -- a shutdown that succeeds, below RUNNING
    have hlt : task.status.state.rank < TaskState.complete.rank := by
      simp only [List.mem_cons, List.not_mem_nil, or_false] at hs
      rcases hs with h | h | h | h | h <;> rw [h] <;> decide
    let ctlr : Controller := ⟨none, none, none, none, none, none⟩
    obtain ⟨o, hstop, -, hstate⟩ := stop_of_succeeds ctlr hlt rfl
    refine .inl ⟨0, ctlr, stamp 0 task (collectStatus task ctlr o), o.err, ?_, ?_⟩
    · rw [execDo, body_of_shutdown ctlr (hsd hdes), hstop]
      rfl
    · simp [hstate]
  · -- `Resolve` fails on a STARTING task
    refine .inr ⟨"", ?_⟩
    unfold resolve
    dsimp only
    rw [hs, if_neg (show ¬ TaskState.starting.rank < TaskState.starting.rank by decide),
      if_pos (show TaskState.starting.rank ≤ TaskState.running.rank by decide)]
  · -- the shutdown of a running task fails for good
    let err : OpError := .other "" false false none none
    let ctlr : Controller := ⟨none, none, none, some err, none, none⟩
    have hlt : task.status.state.rank < TaskState.complete.rank := by rw [hs]; decide
    refine .inl ⟨0, ctlr, stamp 0 task (collectStatus task ctlr (fatal task.status err)),
      (fatal task.status err).err, ?_, ?_⟩
    · rw [execDo, body_of_shutdown ctlr (hsd (.inl hdes)), stop_of_fails ctlr hlt rfl]
      rfl
    · simp only [stamp_state, collectStatus_state]
      rw [fatal_state_of_permanent task.status err rfl rfl, hs]
      rfl

theorem divergences_occur_starting :
    Divergence .shutdown .starting .shutdown ∧
      ((∃ now ctlr status err, execDo now ⟨.shutdown, ⟨none, .starting, "", "", none, none⟩⟩ ctlr =
          some (status, err) ∧ status.state = .shutdown) ∨
        ∃ err, (resolve ⟨.shutdown, ⟨none, .starting, "", "", none, none⟩⟩ (.error err)).2.1.state = .shutdown) :=
  ⟨by decide, divergences_occur ⟨.shutdown, ⟨none, .starting, "", "", none, none⟩⟩ (by decide)⟩

end SwarmKit.Agent.Exec

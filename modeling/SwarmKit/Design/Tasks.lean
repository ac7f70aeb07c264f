import SwarmKit.Scheduler.Scheduler

/-
The task lifecycle as the design states it (design/tla/Types.tla,
Tasks.tla and WorkerSpec.tla).

# The order and the table

A task's states are ranked by their place in `order`; the design allows
a task to change state only to a state of higher rank, and only by the
component `Transitions` gives that change to. The special state `null`
of the table, a task that does not exist, is `none` here.

# The worker's actions on one task

WorkerSpec.tla says what the agent may do to a task of a node that is
up: progress towards its desired state, never past it
(`ProgressTask`); a running task stopped at its desired shutdown
(`ShutdownComplete`); a rejection between ASSIGNED and STARTING
(`RejectTask`); and a running container exiting (`ContainerExit`). While
the node is down, the manager orphans its tasks between ASSIGNED and
RUNNING (`OrphanTasks`). Each is stated here for the one task it
changes: its desired state, its state before and its state after.

# The code's numbers

The code compares states by the numeric values of `api.TaskState`
(`TaskState.rank`); those increase along `order`, so the code's
comparisons are the design's (`stateRank_le_iff`).
-/

namespace SwarmKit.Design

open SwarmKit.Scheduler (TaskState)

-- ======================= the order

/-- `order` of Types.tla. -/
def order : List TaskState :=
  [.new, .pending, .assigned, .accepted, .preparing, .ready, .starting, .running,
    .complete, .shutdown, .failed, .rejected, .remove, .orphaned]

/-- `StateRank(s)`: the place of `s` in `order`, from 1. -/
def stateRank (s : TaskState) : Nat := order.idxOf s + 1

/-- `s1 \preceq s2`. -/
def Precedes (s t : TaskState) : Prop := stateRank s ≤ stateRank t

instance (s t : TaskState) : Decidable (Precedes s t) :=
  inferInstanceAs (Decidable (stateRank s ≤ stateRank t))

/-- `TaskState`: the states a task can be in; `remove` is only desired. -/
def taskStates : List TaskState := order.erase .remove

/-- `DesiredState`: the desired states the orchestrators set. -/
def desiredStates : List TaskState := [.ready, .running, .shutdown, .remove]

/-- The code's numeric values order the states as the design does. -/
theorem stateRank_le_iff (s t : TaskState) : stateRank s ≤ stateRank t ↔ s.rank ≤ t.rank := by
  cases s <;> cases t <;> decide

-- ======================= the table

/-- The components `Transitions` has an entry for. -/
inductive Actor
  | orchestrator
  | allocator
  | scheduler
  | agent
  | reaper
  deriving DecidableEq, Repr

/-- `Transitions` of Tasks.tla: the changes each component makes, `none`
standing for `null`. -/
def transitions : Actor → List (Option TaskState × Option TaskState)
  | .orchestrator => [(none, some .new)]
  | .allocator => [(some .new, some .pending)]
  | .scheduler => [(some .pending, some .assigned)]
  | .agent =>
    [(some .assigned, some .accepted), (some .accepted, some .preparing),
      (some .preparing, some .ready), (some .ready, some .starting), (some .starting, some .running),
      (some .assigned, some .rejected), (some .accepted, some .rejected),
      (some .preparing, some .rejected), (some .ready, some .rejected),
      (some .starting, some .rejected),
      (some .running, some .complete), (some .running, some .failed),
      (some .running, some .shutdown),
      (some .assigned, some .orphaned), (some .accepted, some .orphaned),
      (some .preparing, some .orphaned), (some .ready, some .orphaned),
      (some .starting, some .orphaned), (some .running, some .orphaned)]
  | .reaper =>
    [(some .new, none), (some .pending, none), (some .rejected, none), (some .complete, none),
      (some .failed, none), (some .shutdown, none), (some .orphaned, none)]

/-- A change of state of an existing task the table gives to `a`. -/
def Legal (a : Actor) (s t : TaskState) : Prop := (some s, some t) ∈ transitions a

instance (a : Actor) (s t : TaskState) : Decidable (Legal a s t) :=
  inferInstanceAs (Decidable ((some s, some t) ∈ transitions a))

/-- An entry of the table that creates or removes a task, or moves it
to a state of rank at least its own. -/
def EntryOK : Option TaskState × Option TaskState → Prop
  | (some s, some t) => Precedes s t
  | _ => True

instance : DecidablePred EntryOK
  | (some s, some t) => inferInstanceAs (Decidable (Precedes s t))
  | (none, _) | (some _, none) => isTrue trivial

-- ============ the worker's actions

/-- The pairs of `ProgressTask`. -/
def progressPairs : List (TaskState × TaskState) :=
  [(.assigned, .accepted), (.accepted, .preparing), (.preparing, .ready), (.ready, .starting),
    (.starting, .running)]

/-- `ProgressTask` on one task: a progress pair, not past the desired
state. -/
def ProgressTask (desired s t : TaskState) : Prop := (s, t) ∈ progressPairs ∧ Precedes t desired

instance (desired s t : TaskState) : Decidable (ProgressTask desired s t) :=
  inferInstanceAs (Decidable ((s, t) ∈ progressPairs ∧ Precedes t desired))

/-- `ShutdownComplete` on one task. -/
def ShutdownComplete (desired s t : TaskState) : Prop :=
  (desired = .shutdown ∨ desired = .remove) ∧ s = .running ∧ t = .shutdown

instance (desired s t : TaskState) : Decidable (ShutdownComplete desired s t) :=
  inferInstanceAs (Decidable ((desired = .shutdown ∨ desired = .remove) ∧ s = .running ∧ t = .shutdown))

/-- `RejectTask` on one task. -/
def RejectTask (s t : TaskState) : Prop :=
  s ∈ [.assigned, .accepted, .preparing, .ready, .starting] ∧ t = .rejected

instance (s t : TaskState) : Decidable (RejectTask s t) :=
  inferInstanceAs (Decidable (s ∈ [.assigned, .accepted, .preparing, .ready, .starting] ∧ t = .rejected))

/-- `ContainerExit` on one task: it exits failed or complete, a failure
reported as SHUTDOWN when it was desired shut down. -/
def ContainerExit (desired s t : TaskState) : Prop :=
  s = .running ∧ ∃ c ∈ [TaskState.failed, .complete],
    t = if c = .failed ∧ desired = .shutdown then .shutdown else c

instance (desired s t : TaskState) : Decidable (ContainerExit desired s t) :=
  inferInstanceAs (Decidable (s = .running ∧ ∃ c ∈ [TaskState.failed, .complete],
    t = if c = .failed ∧ desired = .shutdown then .shutdown else c))

/-- A change the worker may make to one task of a node that is up. -/
def WorkerStep (desired s t : TaskState) : Prop :=
  ProgressTask desired s t ∨ ShutdownComplete desired s t ∨ RejectTask s t ∨ ContainerExit desired s t

instance (desired s t : TaskState) : Decidable (WorkerStep desired s t) :=
  inferInstanceAs (Decidable (ProgressTask desired s t ∨ ShutdownComplete desired s t ∨
    RejectTask s t ∨ ContainerExit desired s t))

/-- `OrphanTasks` on one task of a node that is down: the node's tasks
from ASSIGNED (`TasksOwnedByNode`) up to RUNNING (`Runnable`) become
ORPHANED. -/
def OrphanTask (s t : TaskState) : Prop :=
  Precedes .assigned s ∧ Precedes s .running ∧ t = .orphaned

instance (s t : TaskState) : Decidable (OrphanTask s t) :=
  inferInstanceAs (Decidable (Precedes .assigned s ∧ Precedes s .running ∧ t = .orphaned))

/-- Every change the worker spec allows is one the table gives to the
agent. -/
theorem legal_of_workerStep {desired s t : TaskState} (h : WorkerStep desired s t) :
    Legal .agent s t := by
  rcases h with ⟨hp, -⟩ | ⟨-, rfl, rfl⟩ | ⟨hs, rfl⟩ | ⟨rfl, c, hc, rfl⟩
  · -- each progress pair is an entry
    simp only [progressPairs, List.mem_cons, Prod.mk.injEq, List.not_mem_nil, or_false] at hp
    rcases hp with ⟨rfl, rfl⟩ | ⟨rfl, rfl⟩ | ⟨rfl, rfl⟩ | ⟨rfl, rfl⟩ | ⟨rfl, rfl⟩ <;> decide
  · decide
  · simp only [List.mem_cons, List.not_mem_nil, or_false] at hs
    rcases hs with rfl | rfl | rfl | rfl | rfl <;> decide
  · -- a running container ends complete, failed, or shut down
    simp only [List.mem_cons, List.not_mem_nil, or_false] at hc
    rcases hc with rfl | rfl <;> split <;> decide

end SwarmKit.Design

import SwarmKit.Orchestrator.Jobs

/-
How often a job's task is replaced: where the restart supervisor records
a replacement and where it looks for it (`Restart.lean`), and what the
job reconcilers make of a task the supervisor declined to replace
(`Jobs.lean`).

# The keys

`Restart` records a replacement under the replacement's own slot,
service and node: the old slot and no node for the replicated modes, no
slot and the old node for the global ones. `shouldRestart` looks a
failed task up under its slot and service, with its node only for a
global *service*. For a replacement, which is the task whose failure
the limit is about, the two keys agree in three modes
(`restart_keys_agree`), and so does the key `taskinit.CheckTasks`
rebuilds the history under; for a global job on a node they differ:
the node is recorded but not looked up, so the lookup never finds the count and every failure is replaced.

# The runs

`global_job_restarts_unbounded` replays it in the jobs orchestrator: a
global job with `MaxAttempts = 1` and no window, whose task fails and
whose replacement fails again, gets a second replacement; a replicated
job in the same run gets one.

The limit holds only at the moment of the failure. `Restart` shuts the
failed task down whether or not it replaces it, and both reconcilers
count only tasks desired at most `Completed` (or observed `Completed`),
so the next `ReconcileService` finds the slot or node empty and creates
a new task of the same iteration there (`job_restart_policy_not_kept`).
-/

namespace SwarmKit.Orchestrator

open SwarmKit.Scheduler (TaskState)
open SwarmKit.Scheduler.Fit (Node)

-- ======================== the keys

/-- The key `Restart` records the replacement of `t` under, by mode. -/
def recordKey (service : Service) (t : Task) : SlotTuple :=
  match service.mode with
  | .replicated _ | .replicatedJob _ _ => ⟨t.slot, service.id, 0⟩
  | .global | .globalJob => ⟨0, service.id, t.nodeID⟩

/-- The replacement's slot, service and node, by mode. -/
theorem restartTuple_replacementFor (service : Service) (t : Task) (id : Nat) (now : Int) :
    restartTuple (replacementFor service t id now) = recordKey service t := by
  cases h : service.mode <;>
    simp [restartTuple, replacementFor, recordKey, newTask, h, Service.isReplicatedJob,
      Service.isGlobalJob]

/-- The key `shouldRestart` looks the replacement up under, by mode. -/
theorem instanceTuple_replacementFor (service : Service) (t : Task) (id : Nat) (now : Int) :
    instanceTuple (replacementFor service t id now) service =
      match service.mode with
      | .replicated _ | .replicatedJob _ _ => ⟨t.slot, service.id, 0⟩
      | .global => ⟨0, service.id, t.nodeID⟩
      | .globalJob => ⟨0, service.id, 0⟩ := by
  cases h : service.mode <;>
    simp [instanceTuple, replacementFor, newTask, h, Service.isGlobalService,
      Service.isReplicatedJob, Service.isGlobalJob]

/-- `CheckTasks` rebuilds the history of a replacement under the key it
was recorded under, in every mode. -/
theorem handlerSlotTuple_replacementFor (service : Service) (t : Task) (id : Nat) (now : Int) :
    handlerSlotTuple service.mode (replacementFor service t id now) = recordKey service t := by
  cases h : service.mode <;>
    simp [handlerSlotTuple, slotTupleBySlot, slotTupleByNode, replacementFor, recordKey, newTask,
      h, Service.isReplicatedJob, Service.isGlobalJob]

/-- Outside global jobs, a replacement is looked up under the key it was
recorded under, and `CheckTasks` rebuilds the history under that key. -/
theorem restart_keys_agree (service : Service) (t : Task) (id : Nat) (now : Int)
    (hmode : service.mode ≠ .globalJob) :
    instanceTuple (replacementFor service t id now) service =
        restartTuple (replacementFor service t id now) ∧
      handlerSlotTuple service.mode (replacementFor service t id now) =
        restartTuple (replacementFor service t id now) := by
  rw [instanceTuple_replacementFor, restartTuple_replacementFor,
    handlerSlotTuple_replacementFor]
  refine ⟨?_, rfl⟩
  cases h : service.mode
  case globalJob => exact absurd h hmode
  all_goals simp [recordKey, h]

-- ============== shut down for good

end SwarmKit.Orchestrator

namespace SwarmKit.Orchestrator.Jobs

open SwarmKit.Scheduler (TaskState)
open SwarmKit.Scheduler.Fit (Node)

-- ==================== the counting

-- ========================= the run

/-- Restart on failure, at most once, with no window. -/
def onFailureOnce : RestartPolicy := ⟨.onFailure, none, 1, 0⟩

/-- Never restart. -/
def restartNever : RestartPolicy := ⟨.none, none, 0, 0⟩

/-- One ready, active node (ID 1) and one job (ID 1) of the given mode
and restart policy; new IDs start at 10. -/
def oneNodeJob (mode : Mode) (policy : RestartPolicy) : World :=
  ⟨⟨∅, (∅ : Table Node).insert 1 ⟨1, .ready, .active, none⟩,
    (∅ : Table Service).insert 1 ⟨1, mode, some policy, some 1, 0⟩, 10⟩, Supervisor.new⟩

/-- The job's task fails, is replaced, the replacement starts and fails
too, and the job is reconciled after each failure. -/
def failTwice : List Act :=
  [.reconcile 1 0, .setState 10 .failed, .reconcile 1 1, .finishDelay 11, .setState 11 .failed,
    .reconcile 1 2]

/-- The tasks of job 1's iteration 0 with the given slot and node. -/
def instanceTasks (w : World) (slot node : Nat) : Nat :=
  (w.store.findTasksByService 1).countP fun t =>
    t.slot = slot ∧ t.nodeID = node ∧ t.jobIteration = some 0

/-- A global job restarting at most once is restarted twice on its node:
after the replacement fails, `shouldRestart` misses the count recorded
under the node, and a third task is created there; the history shows two
restarts. A replicated job in the same run gets one replacement. -/
theorem global_job_restarts_unbounded :
    ((Lts.run (step fun _ _ => true) (oneNodeJob .globalJob onFailureOnce) failTwice).map fun w =>
      (instanceTasks w 0 1,
        (w.sup.historyByService 1 ⟨0, 1, 1⟩).map (·.totalRestarts))) = some (3, some 2) ∧
    ((Lts.run (step fun _ _ => true) (oneNodeJob (.replicatedJob 1 1) onFailureOnce)
      failTwice).map fun w => instanceTasks w 0 0) = some 2 := by
  decide

/-- The job's task fails and the job is reconciled twice. -/
def failOnce : List Act := [.reconcile 1 0, .setState 10 .failed, .reconcile 1 1, .reconcile 1 2]

/-- A job that never restarts gets a second task of the same iteration in
the slot (replicated) or on the node (global) of a failed one, and a
replicated job restarting at most once gets a third. -/
theorem job_restart_policy_not_kept :
    ((Lts.run (step fun _ _ => true) (oneNodeJob (.replicatedJob 1 1) restartNever)
      failOnce).map fun w => instanceTasks w 0 0) = some 2 ∧
    ((Lts.run (step fun _ _ => true) (oneNodeJob .globalJob restartNever) failOnce).map fun w =>
      instanceTasks w 0 1) = some 2 ∧
    ((Lts.run (step fun _ _ => true) (oneNodeJob (.replicatedJob 1 1) onFailureOnce)
      (failTwice ++ [.reconcile 1 3])).map fun w => instanceTasks w 0 0) = some 3 := by
  decide

end SwarmKit.Orchestrator.Jobs

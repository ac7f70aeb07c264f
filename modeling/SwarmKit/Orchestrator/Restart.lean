import SwarmKit.Orchestrator.Task

/-
The restart supervisor (manager/orchestrator/restart/restart.go
`Supervisor`, `Restart`, `shouldRestart`, `RecordRestartHistory`,
`DelayStart`, `StartNow`, `ClearServiceHistory`).

# What it keeps

Per service and `SlotTuple`, how often the instance was restarted
(`instanceRestartInfo`): a total, the creation times of the
replacements when the policy has a window, and the spec version the
count belongs to. And per replacement task whose start is delayed, a
`delayedStart` with the flag saying whether a later `Restart` of that
task waits for it.

# The calls

`Restart` runs inside the caller's store transaction: it shuts the
failed task down, asks `shouldRestart`, and if so creates a replacement
in the same slot (replicated modes) or on the same node (global modes),
records it in the history under the replacement's slot, service and
node, and delays its start. `shouldRestart` looks the history up under
the failed task's slot and service, adding the node only for a global
service. Both keys are built here exactly as the source builds them;
the difference between them for global jobs is
`Proofs/JobRestarts.lean`'s subject.

`DelayStart` starts a goroutine; here only what it does to the map is
modelled (its timing and the wait for the old task are the
environment's), and the goroutine's end is `finishDelay`: `StartNow`
in a store update, then the entry leaves the map. A `Restart` of a task
whose start is still delayed spawns `waitRestart`, recorded in
`waiting` and run by the world once the delay has ended.
-/

namespace SwarmKit.Orchestrator

open SwarmKit.Scheduler (TaskState)
open SwarmKit.Store (Err)

-- ======================= the state

/-- `instanceRestartInfo`. -/
structure InstanceRestartInfo where
  totalRestarts : Nat
  /-- `restartedInstances`, `none` for a nil list. -/
  restartedInstances : Option (List Int)
  specVersion : Nat
  deriving DecidableEq, Repr

/-- `delayedStart`, as far as the supervisor's map goes. -/
structure DelayedStart where
  waiter : Bool
  deriving DecidableEq, Repr

/-- `Supervisor`: the delayed starts, the restart history, and the task
IDs whose `waitRestart` goroutine has not run yet. -/
structure Supervisor where
  delays : Table DelayedStart
  historyByService : Nat → SlotTuple → Option InstanceRestartInfo
  waiting : List Nat

namespace Supervisor

/-- `NewSupervisor`. -/
def new : Supervisor := ⟨∅, fun _ _ => none, []⟩

/-- The history with the entry of `serviceID` and `tuple` replaced. -/
def setHistory (s : Supervisor) (serviceID : Nat) (tuple : SlotTuple)
    (info : InstanceRestartInfo) : Supervisor :=
  { s with historyByService := fun sid k =>
      if sid = serviceID ∧ k = tuple then some info else s.historyByService sid k }

/-- `ClearServiceHistory(serviceID)`. -/
def clearServiceHistory (serviceID : Nat) (s : Supervisor) : Supervisor :=
  { s with historyByService := fun sid k =>
      if sid = serviceID then none else s.historyByService sid k }

end Supervisor

/-- The errors of `Restart`. -/
inductive RestartErr
  /-- "Restart called on task that was already shut down" -/
  | alreadyShutDown
  /-- the error of a store write -/
  | store (e : Err)
  deriving DecidableEq, Repr

-- =================== shouldRestart

/-- The time `shouldRestart` measures the window back from:
`Status.AppliedAt`, else `Status.Timestamp`. -/
def taskTime (t : Task) : Option Int :=
  match t.appliedAt with
  | some a => some a
  | none => t.timestamp

/-- The key `shouldRestart` looks the instance up under: the node only
for a global service. -/
def instanceTuple (t : Task) (service : Service) : SlotTuple :=
  ⟨t.slot, t.serviceID, if service.isGlobalService then t.nodeID else 0⟩

/-- Whether the restart policy's condition lets the task restart at all. -/
def conditionAllows (t : Task) (service : Service) : Bool :=
  match restartCondition t with
  | .any =>
    -- jobs treat `RestartOnAny` as `RestartOnFailure`
    !((service.isReplicatedJob || service.isGlobalJob) && t.state = .complete)
  | .onFailure => t.state ≠ .complete
  | .none => false

/-- The window branch of `shouldRestart` on a non-nil list of restart
times: the times at or before `timestamp - window` leave the list for
good, those at or after `timestamp` are not counted, and the list
becomes nil once empty. -/
def windowCount (insts : List Int) (timestamp : Int) (window : Nat) :
    Nat × Option (List Int) :=
  let kept := insts.dropWhile fun r => r ≤ timestamp - window
  let notBefore := (kept.reverse.takeWhile fun r => ¬ r < timestamp).length
  (kept.length - notBefore, if kept = [] then none else some kept)

/-- `shouldRestart(t, service)`: the answer, and the supervisor with the
window branch's pruning of the instance's list. -/
def shouldRestart (t : Task) (service : Service) (s : Supervisor) : Bool × Supervisor :=
  if !conditionAllows t service then (false, s)
  else
    match t.restart with
    | none => (true, s)
    | some p =>
      if p.maxAttempts = 0 then (true, s)
      else
        let tuple := instanceTuple t service
        match s.historyByService t.serviceID tuple with
        | none => (true, s)
        | some info =>
          if t.specVersion.any (· ≠ info.specVersion) then (true, s)
          else if p.window = 0 then (decide (info.totalRestarts < p.maxAttempts), s)
          else
            match info.restartedInstances with
            | none => (true, s)
            | some insts =>
              match taskTime t with
              -- "invalid task completion timestamp": the total decides
              | none => (decide (info.totalRestarts < p.maxAttempts), s)
              | some ts =>
                let (numRestarts, insts') := windowCount insts ts p.window
                (decide (numRestarts < p.maxAttempts),
                  s.setHistory t.serviceID tuple { info with restartedInstances := insts' })

-- ============ RecordRestartHistory

/-- `RecordRestartHistory(tuple, replacementTask)`, with `now` the clock
reading used when the task has no creation time. -/
def recordRestartHistory (tuple : SlotTuple) (replacementTask : Task) (now : Int)
    (s : Supervisor) : Supervisor :=
  match replacementTask.restart with
  | none => s
  | some p =>
    if p.maxAttempts = 0 then s
    else
      let serviceID := replacementTask.serviceID
      let info : InstanceRestartInfo := (s.historyByService serviceID tuple).getD ⟨0, none, 0⟩
      -- a new spec version starts the count afresh
      let info : InstanceRestartInfo := match replacementTask.specVersion with
        | some v => if v ≠ info.specVersion then ⟨0, none, v⟩ else info
        | none => info
      let info := { info with totalRestarts := info.totalRestarts + 1 }
      let timestamp := replacementTask.createdAt.getD now
      let info :=
        if p.window ≠ 0 then
          { info with restartedInstances := some (info.restartedInstances.getD [] ++ [timestamp]) }
        else info
      s.setHistory serviceID tuple info

-- ========================== delays

/-- What `DelayStart(_, _, oldTask, newTaskID, ...)` does to the map: an
earlier delay of the same ID is cancelled and awaited (its goroutine
removes it), and the new one is entered. -/
def delayStart (newTaskID : Nat) (s : Supervisor) : Supervisor :=
  { s with delays := s.delays.insert newTaskID ⟨false⟩ }

/-- `StartNow(tx, taskID)`: a task still short of running is moved to
`Completed` (job tasks) or `Running`. -/
def startNow (taskID : Nat) (st : Store) : Except Err Store :=
  match st.getTask taskID with
  | none => .ok st
  | some t =>
    if t.desiredState.rank ≥ TaskState.running.rank then .ok st
    else
      let t := { t with desiredState := if t.jobIteration.isSome then .complete else .running }
      st.updateTask t

/-- The end of a delayed start's goroutine: `StartNow` in a store update
(its error is logged and the update commits nothing), then the entry
leaves the map. -/
def finishDelay (taskID : Nat) (st : Store) (s : Supervisor) : Store × Supervisor :=
  let st := match startNow taskID st with
    | .ok st' => st'
    | .error _ => st
  (st, { s with delays := s.delays.erase taskID })

-- ========================= Restart

/-- The replacement `Restart` creates for `t`, with ID `id`: in the old
task's slot for the replicated modes, on its node for the global ones;
in the job's current iteration for jobs; desired `Ready`, and with the
creation time the store stamps on the caller's copy too. -/
def replacementFor (service : Service) (t : Task) (id : Nat) (now : Int) : Task :=
  let restartTask := match service.mode with
    | .replicated _ | .replicatedJob _ _ => newTask service t.slot 0 id now
    | .global | .globalJob => newTask service 0 t.nodeID id now
  let restartTask :=
    if service.isReplicatedJob || service.isGlobalJob then
      { restartTask with jobIteration := some service.jobIteration }
    else restartTask
  { restartTask with desiredState := .ready, createdAt := some now }

/-- The key `Restart` records a replacement under. -/
def restartTuple (restartTask : Task) : SlotTuple :=
  ⟨restartTask.slot, restartTask.serviceID, restartTask.nodeID⟩

/-- `Restart(ctx, tx, cluster, service, t)` on the transaction's tables
`st`, at clock reading `now`: the tables and the supervisor afterwards,
and the error. A write made before an error stays in the transaction. -/
def restart (service : Service) (t : Task) (now : Int) (st : Store) (s : Supervisor) :
    (Store × Supervisor) × Option RestartErr :=
  match s.delays.lookup t.id with
  | some d =>
    -- the task's own start is still delayed: restart once it is over
    if d.waiter then ((st, s), none)
    else ((st, { s with delays := s.delays.insert t.id ⟨true⟩, waiting := s.waiting ++ [t.id] }),
      none)
  | none =>
    if t.desiredState.rank > TaskState.complete.rank then ((st, s), some .alreadyShutDown)
    else
      let t := { t with desiredState := .shutdown }
      match st.updateTask t with
      | .error e => ((st, s), some (.store e))
      | .ok st =>
        match shouldRestart t service s with
        | (false, s) => ((st, s), none)
        | (true, s) =>
          let (id, st) := st.newID
          let restartTask := replacementFor service t id now
          match st.createTask restartTask with
          | .error e => ((st, s), some (.store e))
          | .ok st =>
            let s := recordRestartHistory (restartTuple restartTask) restartTask now s
            ((st, delayStart restartTask.id s), none)

end SwarmKit.Orchestrator

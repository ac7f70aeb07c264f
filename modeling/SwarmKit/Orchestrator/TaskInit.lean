import SwarmKit.Orchestrator.Replicated

/-
A new leader's orchestrator start (manager/orchestrator/taskinit
init.go `CheckTasks`, `tasksByCreationTimestamp`; replicated
replicated.go `Run`, tasks.go `initTasks`, `FixTask`, services.go
`initServices`).

# What CheckTasks rebuilds

The restart supervisor of a new leader starts empty. `CheckTasks`
groups the store's tasks of the services its orchestrator handles by
the orchestrator's `SlotTuple`, and for each group takes the tasks of
the greatest spec version, sorts them by creation time, and records
every one but the first as a restart (`RecordRestartHistory`). So the
rebuilt count of an instance is the number of its tasks of that version
minus one, where the live supervisor counted the replacements `Restart`
created for that version.

# The rest of the pass

In the same batch, a task of a deleted service is deleted; each task is
handed to the orchestrator's `FixTask` (for the replicated orchestrator,
the check of `handleTaskChange`); and a task desired `READY` that has not
stopped is started, after what is left of its restart delay or at once.
The batch commits, and its events reach the new orchestrator's queue,
whose watch was opened first. `Run` then marks every replicated service
for reconciliation (`initServices`) and ticks.

# Failovers

`leaderStep` runs the replicated orchestrator of `Replicated.lean`, and
at `failover` replaces it by a new leader's: same store, new supervisor,
nothing pending. The goroutines of the old supervisor are gone with it.
-/

namespace SwarmKit.Orchestrator

open SwarmKit.Scheduler (TaskState)

-- ===================== the history

/-- `tasksByCreationTimestamp.Less`: a task without a creation time
comes first. -/
def createdLess (a b : Task) : Bool :=
  match a.createdAt, b.createdAt with
  | none, _ => true
  | _, none => false
  | some x, some y => decide (x < y)

/-- The greatest spec version of the tasks that have one, from zero. -/
def maxSpecVersion (inst : List Task) : Nat :=
  inst.foldl (fun m t =>
    match t.specVersion with
    | some v => if v > m then v else m
    | none => m) 0

/-- The reconstruction of one instance: the tasks of the greatest spec
version, sorted by creation time (`sort.Sort` is not stable; ties stay
in the order found), all but the first recorded as restarts. -/
def rebuildInstance (now : Int) (s : Supervisor) (tuple : SlotTuple) (inst : List Task) : Supervisor :=
  let maxVersion := maxSpecVersion inst
  let upToDate := (inst.filter (·.specVersion = some maxVersion)).mergeSort fun a b => !createdLess b a
  if upToDate.length < 2 then s
  else (upToDate.drop 1).foldl (fun s t => recordRestartHistory tuple t now s) s

/-- `instances`: the tasks of each `SlotTuple`, in the order found. -/
abbrev Instances := AList fun _ : SlotTuple => List Task

def addInstance (tuple : SlotTuple) (t : Task) (instances : Instances) : Instances :=
  instances.insert tuple ((instances.lookup tuple).getD [] ++ [t])

/-- The loop of `CheckTasks` over the instances, at clock reading `now`. -/
def rebuildHistory (now : Int) (instances : Instances) (s : Supervisor) : Supervisor :=
  instances.entries.foldl (fun s e => rebuildInstance now s e.1 e.2) s

namespace Replicated

-- =============== CheckTasks' batch

/-- `defaults.Service.Task.Restart.Delay`: five seconds. -/
def defaultRestartDelay : Nat := 5000000000

/-- The first loop of `CheckTasks`: the batch's tables, the world that
`FixTask` and the supervisor's starts write to, and the instances. -/
structure CheckState where
  batch : Store
  w : World
  instances : Instances

/-- `StartNow` in a batch update; its error is logged. -/
def CheckState.startNow (t : Task) (c : CheckState) : CheckState :=
  match Orchestrator.startNow t.id c.batch with
  | .ok batch => { c with batch }
  | .error _ => c

/-- A task desired `READY` that has not stopped: started after what is
left of its restart delay, measured from its status time, or at once
when nothing is left or the time is missing. -/
def CheckState.startReady (now : Int) (t : Task) (c : CheckState) : CheckState :=
  let restartDelay : Int := ((t.restart.bind (·.delay)).getD defaultRestartDelay : Nat)
  if restartDelay ≠ 0 then
    match taskTime t with
    | some timestamp =>
      let restartDelay := min restartDelay (timestamp + restartDelay - now)
      if restartDelay > 0 then
        -- `DelayStart` in a batch update, for a task still desired `READY`
        if (c.batch.getTask t.id).any (·.desiredState = .ready) then
          { c with w := { c.w with sup := delayStart t.id c.w.sup } }
        else c
      else c.startNow t
    -- "invalid status timestamp"
    | none => c.startNow t
  else c.startNow t

/-- One task of the snapshot `readTx` in the first loop of `CheckTasks`,
for the replicated orchestrator. -/
def checkTask (readTx : Store) (now : Int) (c : CheckState) (t : Task) : CheckState :=
  if t.serviceID = 0 then c
  else
    match readTx.services.lookup t.serviceID with
    -- the service was deleted; a failed delete is logged
    | none => { c with batch := { c.batch with tasks := c.batch.tasks.erase t.id } }
    | some service =>
      if !service.isReplicatedService then c
      else
        -- `FixTask` is `handleTaskChange`'s check
        let c := { c with instances := addInstance (slotTupleBySlot t) t c.instances, w := handleTaskChange t c.w }
        if t.desiredState ≠ .ready ∨ t.state.rank > TaskState.complete.rank then c
        else c.startReady now t

/-- `initTasks`: `CheckTasks` on the world's store, whose batch commits,
then the history rebuilt from the instances. -/
def initTasks (now : Int) (w : World) : World :=
  let c := (w.store.tasks.entries.map (·.2)).foldl (checkTask w.store now) ⟨w.store, w, ∅⟩
  let w := c.w.commit true c.batch
  { w with sup := rebuildHistory now c.instances w.sup }

/-- `initServices`: every replicated service is to be reconciled. -/
def initServices (w : World) : World :=
  let reconcileServices := w.store.services.entries.foldl
    (fun rs e => if e.2.isReplicatedService then rs.insert e.1 e.2 else rs) w.reconcileServices
  { w with reconcileServices }

/-- `Run` of a new leader's orchestrator on the store: `initTasks`,
`initServices`, then a tick whose batches commit as given. -/
def failover (now : Int) (tasksOk : Bool) (servicesOk : Nat → Bool) (st : Store) : World :=
  let w := initServices (initTasks now ⟨st, Supervisor.new, [], [], ∅⟩)
  tickServices servicesOk now (tickTasks tasksOk now w)

-- ========================= leaders

/-- What happens next, with leader changes. -/
inductive LeaderAct
  | orchestrator (a : Act)
  /-- The leader is replaced; the new one starts at clock reading `now`. -/
  | failover (now : Int) (tasksOk : Bool) (servicesOk : Nat → Bool)

def leaderStep : LeaderAct → World → Option World
  | .orchestrator a, w => step a w
  | .failover now tasksOk servicesOk, w => some (failover now tasksOk servicesOk w.store)

end Replicated

end SwarmKit.Orchestrator

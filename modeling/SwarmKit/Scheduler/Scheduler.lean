import Mathlib.Data.List.AList
import SwarmKit.Store.Memory

/-
The scheduler (manager/scheduler/scheduler.go: `createTask`,
`updateTask`, `deleteTask`, `createOrUpdateNode`,
`processPreassignedTasks`, `tick`, `scheduleNTasksOnNodes`,
`noSuitableNode`, `applySchedulingDecisions`, `taskFitNode`, and the
event loop of `Run`), over the memory store of `Store/Memory.lean`.

# The cache

The scheduler keeps its own view of the tasks: `allTasks`, the queue of
unassigned tasks, the preassigned tasks, and per node a `NodeInfo` whose
`Tasks` are the tasks it reserves resources for. The maps are Mathlib's
`AList`s keyed by ID; their entry order stands for Go's map iteration
order. `NodeInfo` keeps the node object it was built from (its `Meta` is
compared with the store's) and its tasks; resources, ports, active
counts and failure history are not modelled, so `addTask` adds a task
that is not there and leaves one that is. Volumes are not modelled: no
decision carries attachments, and the final `freeVolumes` update writes
nothing.

# Where the environment decides

Which node a task goes to (the filter pipeline, the decision tree,
`nodeLess`) and what `noSuitableNode` finds for a task no node takes are
the environment's `Placement`; whether a preassigned task fits its node is
`fits`. The other components write to the store (`external`), and the
debounce timer decides when `schedule()` runs. Task objects carry only
what the scheduler reads: their node (`0` for `""`), status state,
message and error (`0` for `""`); a node object carries only its `Meta`.

# Committing decisions

`applySchedulingDecisions` runs one `MemoryStore.Batch` whose callback
calls `batch.Update` until every decision is taken: each `Update`
callback goes through the decisions until one is written, dropping
deleted tasks, ignoring decisions that change nothing, and failing those
whose node is out of date or whose write fails. `Batch.Update` commits
at its size limits, so a batch may commit some decisions and fail
later; then every decision it wrote is reported failed.
-/

-- the package `scheduler` and its struct `Scheduler` share a name
set_option linter.dupNamespace false

namespace SwarmKit.Scheduler

open SwarmKit.Store

-- =========================== tasks

/-- `api.TaskState`. -/
inductive TaskState
  | new | pending | assigned | accepted | preparing | ready | starting | running
  | complete | shutdown | failed | rejected | remove | orphaned
  deriving DecidableEq, Repr

/-- The numeric value of a task state, which the scheduler compares. -/
def TaskState.rank : TaskState → Nat
  | .new => 0
  | .pending => 64
  | .assigned => 192
  | .accepted => 256
  | .preparing => 320
  | .ready => 384
  | .starting => 448
  | .running => 512
  | .complete => 576
  | .shutdown => 640
  | .failed => 704
  | .rejected => 768
  | .remove => 800
  | .orphaned => 832

/-- A status message: the scheduler's two, or another component's. -/
inductive StatusMessage
  /-- "scheduler assigned task to node" -/
  | assigned
  /-- "scheduler confirmed task can run on preassigned node" -/
  | confirmed
  | other (n : Nat)
  deriving DecidableEq, Repr

/-- What the scheduler reads of a stored object. -/
structure TaskBody where
  nodeID : Nat
  state : TaskState
  message : StatusMessage
  err : Nat
  deriving DecidableEq, Repr

/-- A task (or node) object of the store. -/
abbrev Task := Object TaskBody

/-- A map from task IDs to tasks. -/
abbrev TaskMap := AList fun _ : Nat => Task

/-- `NodeInfo`: the node object it was built from and the tasks it
reserves resources for. -/
structure NodeInfo where
  node : Task
  tasks : TaskMap

/-- `addTask`: a task not tracked yet is added; whether it changed. -/
def NodeInfo.addTask (t : Task) (ni : NodeInfo) : NodeInfo × Bool :=
  if t.id ∈ ni.tasks then (ni, false) else ({ ni with tasks := ni.tasks.insert t.id t }, true)

/-- `removeTask`: a tracked task is removed; whether it changed. -/
def NodeInfo.removeTask (t : Task) (ni : NodeInfo) : NodeInfo × Bool :=
  if t.id ∈ ni.tasks then ({ ni with tasks := ni.tasks.erase t.id }, true) else (ni, false)

/-- The scheduler's cache. -/
structure Scheduler where
  allTasks : TaskMap
  unassignedTasks : TaskMap
  preassignedTasks : List Nat
  pendingPreassignedTasks : TaskMap
  nodeSet : AList fun _ : Nat => NodeInfo

namespace Scheduler

/-- `New(store)`: nothing cached. -/
def empty : Scheduler := ⟨∅, ∅, [], ∅, ∅⟩

/-- `s.allTasks[t.ID] = t`. -/
def setTask (t : Task) (s : Scheduler) : Scheduler := { s with allTasks := s.allTasks.insert t.id t }

/-- `enqueue(t)`. -/
def enqueue (t : Task) (s : Scheduler) : Scheduler :=
  { s with unassignedTasks := s.unassignedTasks.insert t.id t }

/-- `nodeSet.updateNode(nodeInfo)`. -/
def updateNode (id : Nat) (ni : NodeInfo) (s : Scheduler) : Scheduler :=
  { s with nodeSet := s.nodeSet.insert id ni }

/-- `nodeInfo, err := s.nodeSet.nodeInfo(t.NodeID)`, then `addTask`,
written back when it changed. -/
def addToNode (t : Task) (s : Scheduler) : Scheduler × Bool :=
  match s.nodeSet.lookup t.body.nodeID with
  | none => (s, false)
  | some ni =>
    match ni.addTask t with
    | (ni, true) => (s.updateNode t.body.nodeID ni, true)
    | (_, false) => (s, false)

/-- The same with `removeTask`. -/
def removeFromNode (t : Task) (s : Scheduler) : Scheduler × Bool :=
  match s.nodeSet.lookup t.body.nodeID with
  | none => (s, false)
  | some ni =>
    match ni.removeTask t with
    | (ni, true) => (s.updateNode t.body.nodeID ni, true)
    | (_, false) => (s, false)

/-- A preassigned task waiting for `processPreassignedTasks`. -/
def preassign (t : Task) (s : Scheduler) : Scheduler :=
  { s with preassignedTasks := t.id :: s.preassignedTasks.filter (· ≠ t.id),
           pendingPreassignedTasks := s.pendingPreassignedTasks.insert t.id t }

-- ==================== store events

/-- Whether a task state is between `PENDING` and `RUNNING`. -/
def consumesResources (st : TaskState) : Bool :=
  TaskState.pending.rank ≤ st.rank && st.rank ≤ TaskState.running.rank

/-- `createTask`: whether a tick is needed. -/
def createTask (t : Task) (s : Scheduler) : Scheduler × Bool :=
  if !consumesResources t.body.state then (s, false)
  else
    let s := s.setTask t
    if t.body.nodeID = 0 then (s.enqueue t, true)
    else if t.body.state = .pending then (s.preassign t, false)
    else ((s.addToNode t).1, false)

/-- `deleteTask`: forget the task, and free its node's reservation;
whether a reservation was freed. The unassigned queue keeps it. -/
def deleteTask (t : Task) (s : Scheduler) : Scheduler × Bool :=
  { s with allTasks := s.allTasks.erase t.id,
           preassignedTasks := s.preassignedTasks.filter (· ≠ t.id),
           pendingPreassignedTasks := s.pendingPreassignedTasks.erase t.id }.removeFromNode t

/-- The cached copy is dropped before a task is cached again. -/
def forget (old : Option Task) (s : Scheduler) : Scheduler :=
  match old with
  | some o => (s.deleteTask o).1
  | none => s

/-- `updateTask`: whether a tick is needed. `taskFailed`'s failure history
is not modelled. -/
def updateTask (t : Task) (s : Scheduler) : Scheduler × Bool :=
  if t.body.state.rank < TaskState.pending.rank then (s, false)
  else
    let oldTask := s.allTasks.lookup t.id
    if TaskState.running.rank < t.body.state.rank then
      match oldTask with
      | none => (s, false)
      | some o => ((s.deleteTask o).1, true)
    else if t.body.nodeID = 0 then (((s.forget oldTask).setTask t).enqueue t, true)
    else if t.body.state = .pending then (((s.forget oldTask).setTask t).preassign t, false)
    else (((s.setTask t).addToNode t).1, false)

/-- `createOrUpdateNode`: the node object is replaced, its tasks kept; a
new node starts with none. -/
def createOrUpdateNode (n : Task) (s : Scheduler) : Scheduler :=
  match s.nodeSet.lookup n.id with
  | some ni => s.updateNode n.id { ni with node := n }
  | none => s.updateNode n.id ⟨n, ∅⟩

/-- One event of the scheduler's watch, with `tickRequired`. -/
def handleEvent (ev : Event TaskBody) (s : Scheduler) (tickRequired : Bool) : Scheduler × Bool :=
  match ev with
  | .create .task t => let (s, b) := s.createTask t; (s, tickRequired || b)
  | .update .task t _ => let (s, b) := s.updateTask t; (s, tickRequired || b)
  | .delete .task t => let (s, b) := s.deleteTask t; (s, tickRequired || b)
  | .create .node n => (s.createOrUpdateNode n, true)
  | .update .node n _ => (s.createOrUpdateNode n, true)
  | .delete .node n => ({ s with nodeSet := s.nodeSet.erase n.id }, tickRequired)
  | _ => (s, tickRequired)

end Scheduler

-- ======================= decisions

/-- `schedulingDecision`: the task as it was and as the scheduler wants it. -/
structure Decision where
  old : Task
  new : Task
  deriving DecidableEq, Repr

/-- What the `Update` callback did with a decision. -/
inductive Outcome
  /-- the task no longer exists; `deleteTask(decision.new)` -/
  | gone
  /-- "No changes, ignore" -/
  | unchanged
  /-- appended to `failed` -/
  | failed
  /-- written, appended to `successful` -/
  | written
  deriving DecidableEq, Repr

/-- Whether the store's node matches the `NodeInfo` the decision was made
on (`node.Meta.Version != nodeInfo.Meta.Version`). -/
def nodeCurrent (s : Scheduler) (tx : Tx TaskBody) (id : Nat) : Bool :=
  match s.nodeSet.lookup id, tx.lookup .node id with
  | some ni, some n => n.objMeta.version = ni.node.objMeta.version
  | _, _ => false

/-- One decision inside the `Update` callback, on its transaction. -/
def decideOne (now : Nat) (d : Decision) (s : Scheduler) (tx : Tx TaskBody) :
    Outcome × Tx TaskBody × Scheduler :=
  match tx.lookup .task d.old.id with
  | none => (.gone, tx, (s.deleteTask d.new).1)
  | some t =>
    if t.body.state = d.new.body.state ∧ t.body.message = d.new.body.message ∧
        t.body.err = d.new.body.err then (.unchanged, tx, s)
    else if TaskState.assigned.rank ≤ t.body.state.rank ∧ !nodeCurrent s tx d.new.body.nodeID then
      (.failed, tx, s)
    else
      match tx.update .task d.new now with
      | .error _ => (.failed, tx, s)
      | .ok (tx', _) => (.written, tx', s)

/-- One `Update` callback: the decisions up to and including the first
written one, and those left for the next callback. -/
def callback (now : Nat) : List Decision → Scheduler → Tx TaskBody →
    Tx TaskBody × Scheduler × List (Decision × Outcome) × List Decision
  | [], s, tx => (tx, s, [], [])
  | d :: ds, s, tx =>
    match decideOne now d s tx with
    | (.written, tx, s) => (tx, s, [(d, .written)], ds)
    | (o, tx, s) =>
      let (tx, s, outs, rest) := callback now ds s tx
      (tx, s, (d, o) :: outs, rest)

/-- A callback leaves at most the decisions it was given. -/
theorem callback_rest_length (now : Nat) :
    ∀ (ds : List Decision) (s : Scheduler) (tx : Tx TaskBody),
      (callback now ds s tx).2.2.2.length ≤ ds.length
  | [], _, _ => Nat.le_refl 0
  | d :: ds, s, tx => by
    have ih := callback_rest_length now ds
    simp only [callback]
    split
    · simp
    · simp only [List.length_cons]
      exact Nat.le_succ_of_le (ih _ _)

/-- A callback given a decision takes at least that one. -/
theorem callback_rest_lt (now : Nat) (d : Decision) (ds : List Decision) (s : Scheduler)
    (tx : Tx TaskBody) : (callback now (d :: ds) s tx).2.2.2.length < (d :: ds).length := by
  simp only [callback]
  split
  · simp
  · simp only [List.length_cons]
    exact Nat.lt_succ_of_le (callback_rest_length now ds _ _)

/-- The batch callback of `applySchedulingDecisions`: `batch.Update` until
no decision is left, then the `freeVolumes` update. -/
def applyLoop (p : Proposer TaskBody) (size : StoreAction TaskBody → Nat) (now : Nat)
    (ds : List Decision) (s : Scheduler) (b : Batch TaskBody) (st : MemoryStore TaskBody) :
    ((Batch TaskBody × MemoryStore TaskBody) × Option Err) × Scheduler × List (Decision × Outcome) :=
  match ds with
  | [] => (b.update (some p) size (fun tx => (tx, none)) st, s, [])
  | d :: ds' =>
    match b.err with
    | some e => (((b, st), some e), s, [])
    | none =>
      let taken := callback now (d :: ds') s b.tx
      match b.update (some p) size (fun tx => ((callback now (d :: ds') s tx).1, none)) st with
      | ((b', st), some e) => (((b', st), some e), taken.2.1, taken.2.2.1)
      | ((b', st), none) =>
        let (r, s'', outs') := applyLoop p size now taken.2.2.2 taken.2.1 b' st
        (r, s'', taken.2.2.1 ++ outs')
termination_by ds.length
decreasing_by exact callback_rest_lt _ _ _ _ _

/-- The decisions with a given outcome. -/
def withOutcome (o : Outcome) (outs : List (Decision × Outcome)) : List Decision :=
  (outs.filter (·.2 = o)).map (·.1)

/-- `applySchedulingDecisions`: the store after the batch, the cache after
the callback's own changes, and the decisions reported successful and
failed; a batch error turns every written decision into a failed one. -/
def applySchedulingDecisions (p : Proposer TaskBody) (size : StoreAction TaskBody → Nat) (now : Nat)
    (ds : List Decision) (s : Scheduler) (st : MemoryStore TaskBody) :
    MemoryStore TaskBody × Scheduler × List Decision × List Decision :=
  if ds = [] then (st, s, [], [])
  else
    match st.batchWith (some p) (fun b st => applyLoop p size now ds s b st) with
    | ((st, some _), (s, outs)) => (st, s, [], withOutcome .failed outs ++ withOutcome .written outs)
    | ((st, none), (s, outs)) => (st, s, withOutcome .written outs, withOutcome .failed outs)

-- ====================== scheduling

/-- Where the environment sends an unassigned task. -/
inductive Placement
  /-- `scheduleNTasksOnNodes` picked this node of the node set -/
  | node (id : Nat)
  /-- `noSuitableNode`, current revision: the error text and a retry -/
  | noNode (explanation : Nat)
  /-- `noSuitableNode`, old revision: whether the task is desired shut down -/
  | oldRevision (desiredShutdown : Bool)
  /-- `noSuitableNode` finds no service: "removing task from the scheduler" -/
  | noService

namespace Scheduler

/-- The bookkeeping of one unassigned task in `tick`; `none` when the
environment names a node outside the node set. -/
def scheduleOne (place : Nat → Placement) (t : Task) (s : Scheduler) :
    Option (Scheduler × Option Decision) :=
  match place t.id with
  | .node n =>
    if n ∈ s.nodeSet then
      let newT : Task := { t with body := ⟨n, .assigned, .assigned, 0⟩ }
      some (((s.setTask newT).addToNode newT).1, some ⟨t, newT⟩)
    else none
  | .noNode e =>
    let newT : Task := { t with body := { t.body with err := e } }
    some ((s.setTask newT).enqueue newT, some ⟨t, newT⟩)
  | .oldRevision desiredShutdown =>
    let newT : Task :=
      if t.body.state = .pending ∧ desiredShutdown then { t with body := { t.body with state := .shutdown, err := 0 } }
      else t
    some (s.setTask newT, some ⟨t, newT⟩)
  | .noService => some (s, none)

/-- The decisions of `tick`: the queue is emptied, stale entries dropped,
and each task placed. -/
def tickDecisions (place : Nat → Placement) (s : Scheduler) : Option (Scheduler × List Decision) :=
  let queued := (s.unassignedTasks.entries.map (·.2)).filter (·.body.nodeID = 0)
  queued.foldl
    (fun acc t => acc.bind fun (s, ds) => (s.scheduleOne place t).map fun (s, d) => (s, ds ++ d.toList))
    (some ({ s with unassignedTasks := ∅ }, []))

/-- The rollback of a failed decision: the old task is cached again and
its reservation on the new node freed. -/
def rollback (s : Scheduler) (d : Decision) : Scheduler :=
  ((s.setTask d.old).removeFromNode d.new).1

/-- `tick`: place the queue, commit, and roll back and requeue every
decision reported failed. -/
def tick (p : Proposer TaskBody) (size : StoreAction TaskBody → Nat) (now : Nat) (place : Nat → Placement)
    (s : Scheduler) (st : MemoryStore TaskBody) : Option (Scheduler × MemoryStore TaskBody) :=
  (s.tickDecisions place).map fun (s, ds) =>
    let (st, s, _, failed) := applySchedulingDecisions p size now ds s st
    (failed.foldl (fun s d => (s.rollback d).enqueue d.old) s, st)

/-- `taskFitNode(t, t.NodeID)`; `fits` is the pipeline's explanation
when the node cannot take the task. -/
def taskFitNode (fits : Option Nat) (t : Task) (s : Scheduler) : Option Task × Scheduler :=
  match s.nodeSet.lookup t.body.nodeID with
  | none => (none, s)
  | some _ =>
    match fits with
    | some e =>
      let newT : Task := { t with body := { t.body with err := e } }
      (some newT, s.setTask newT)
    | none =>
      let newT : Task := { t with body := { t.body with state := .assigned, message := .confirmed, err := 0 } }
      (some newT, ((s.setTask newT).addToNode newT).1)

/-- `processPreassignedTasks`. -/
def processPreassignedTasks (p : Proposer TaskBody) (size : StoreAction TaskBody → Nat) (now : Nat)
    (fits : Nat → Option Nat) (s : Scheduler) (st : MemoryStore TaskBody) : Scheduler × MemoryStore TaskBody :=
  let (s, ds) := (s.pendingPreassignedTasks.entries.map (·.2)).foldl
    (fun (s, ds) t =>
      match s.taskFitNode (fits t.id) t with
      | (none, s) => (s, ds)
      | (some newT, s) => (s, ds ++ [⟨t, newT⟩]))
    (s, [])
  let (st, s, successful, failed) := applySchedulingDecisions p size now ds s st
  let s := successful.foldl
    (fun s d => if d.new.body.state = .assigned then
        { s with pendingPreassignedTasks := s.pendingPreassignedTasks.erase d.old.id } else s) s
  (failed.foldl rollback s, st)

end Scheduler

-- ============================ runs

/-- The store, the scheduler, how far it has read the store's queue, and
`tickRequired`. -/
structure World where
  store : MemoryStore TaskBody
  sched : Scheduler
  cursor : Nat
  tickRequired : Bool

/-- An empty store and a scheduler watching it from the start. -/
def World.init : World := ⟨MemoryStore.new TaskBody, Scheduler.empty, 0, false⟩

/-- What happens next, with the environment's choices. -/
inductive Act where
  /-- another component's `store.Update` running these writes -/
  | external (ops : List (TxOp TaskBody))
  /-- the event loop takes the next event of the watch -/
  | event
  /-- the debounce timer fires: `schedule()` -/
  | schedule (now : Nat) (fits : Nat → Option Nat) (place : Nat → Placement)

/-- One step, under raft's answers `p` and the serialized sizes `size`. -/
def World.step (p : Proposer TaskBody) (size : StoreAction TaskBody → Nat) : Act → World → Option World
  | .external ops, w => some { w with store := (w.store.update (some p) fun tx => runOps tx ops).1 }
  | .event, w =>
    match w.store.queue[w.cursor]? with
    | none => none
    | some ev =>
      let (s, tr) := w.sched.handleEvent ev w.tickRequired
      some { w with sched := s, cursor := w.cursor + 1, tickRequired := tr }
  | .schedule now fits place, w =>
    let (s, st) :=
      if w.sched.pendingPreassignedTasks.entries.isEmpty then (w.sched, w.store)
      else w.sched.processPreassignedTasks p size now fits w.store
    if w.tickRequired then
      (s.tick p size now place st).map fun (s, st) => { w with sched := s, store := st, tickRequired := false }
    else some { w with sched := s, store := st }

end SwarmKit.Scheduler

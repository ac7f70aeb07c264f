import SwarmKit.Scheduler.NodeInfo

/-
What the orchestrators read and write of tasks, services and nodes
(manager/orchestrator: task.go `NewTask`, `RestartCondition`,
`InvalidNode`; service.go `IsReplicatedService`, `IsGlobalService`,
`IsReplicatedJob`, `IsGlobalJob`; slot.go `SlotTuple`; the `SlotTuple`
methods of the four orchestrators).

# The data

A task is what the orchestrators and the restart supervisor read of an
`api.Task`: its IDs, slot, node, desired and observed state, the two
status timestamps, its restart policy, spec version and job iteration,
and `Meta.CreatedAt`. IDs are numbers and `0` stands for the empty
string, which is what an unset `NodeID` is. Times are nanoseconds, as
`Int` because `shouldRestart` subtracts a window from them. A duration
the control API validated is never negative (`validateRestartPolicy`),
so delays and windows are `Nat`; a nil window and a zero one read the
same.

A service is its ID, its mode with the numbers each mode carries, the
restart policy of its task spec, its spec version and the index of its
job iteration (zero without a `JobStatus`, as the job reconcilers treat
it).

# The store

The orchestrators work on the task, node and service tables inside
store transactions. Here those tables are association lists by ID, so
that `FindTasks` can list them; the writes fail as the store's do
(`ErrExist`, `ErrNotExist`), and the version check is left out, since
every write here writes back a task the same transaction read.
`identity.NewID()` is a counter of the store, so a created ID is always
fresh.
-/

namespace SwarmKit.Orchestrator

open SwarmKit.Scheduler (TaskState)
open SwarmKit.Scheduler.Fit (Node NodeState NodeAvailability)
open SwarmKit.Store (Err)

-- ======================== the data

/-- `api.RestartPolicy_RestartCondition`. -/
inductive RestartCondition
  | none | onFailure | any
  deriving DecidableEq, Repr

/-- `api.RestartPolicy`. -/
structure RestartPolicy where
  condition : RestartCondition
  /-- `Delay`, `none` when nil. -/
  delay : Option Nat
  maxAttempts : Nat
  /-- `Window`; nil and zero are both `0`. -/
  window : Nat
  deriving DecidableEq, Repr

/-- What the orchestrators read of an `api.Task`. -/
structure Task where
  id : Nat
  serviceID : Nat
  slot : Nat
  /-- `NodeID`, `0` when unset. -/
  nodeID : Nat
  desiredState : TaskState
  /-- `Status.State`. -/
  state : TaskState
  /-- `Status.Timestamp`. -/
  timestamp : Option Int
  /-- `Status.AppliedAt`. -/
  appliedAt : Option Int
  /-- `Spec.Restart`. -/
  restart : Option RestartPolicy
  specVersion : Option Nat
  /-- `JobIteration.Index`, `none` for a task of a service. -/
  jobIteration : Option Nat
  /-- `Meta.CreatedAt`. -/
  createdAt : Option Int
  deriving DecidableEq, Repr

/-- `api.ServiceSpec`'s mode. -/
inductive Mode
  | replicated (replicas : Nat)
  | global
  | replicatedJob (maxConcurrent totalCompletions : UInt64)
  | globalJob
  deriving DecidableEq, Repr

/-- What the orchestrators read of an `api.Service`. -/
structure Service where
  id : Nat
  mode : Mode
  /-- `Spec.Task.Restart`. -/
  restart : Option RestartPolicy
  specVersion : Option Nat
  /-- `JobStatus.JobIteration.Index`. -/
  jobIteration : Nat
  deriving DecidableEq, Repr

/-- `orchestrator.SlotTuple`: a slot number for replicated tasks, a node
for global ones. -/
structure SlotTuple where
  slot : Nat
  serviceID : Nat
  nodeID : Nat
  deriving DecidableEq, Repr

-- =========================== modes

namespace Service

/-- `IsReplicatedService`. -/
def isReplicatedService (s : Service) : Bool :=
  match s.mode with
  | .replicated _ => true
  | _ => false

/-- `IsGlobalService`. -/
def isGlobalService (s : Service) : Bool :=
  match s.mode with
  | .global => true
  | _ => false

/-- `IsReplicatedJob`. -/
def isReplicatedJob (s : Service) : Bool :=
  match s.mode with
  | .replicatedJob _ _ => true
  | _ => false

/-- `IsGlobalJob`. -/
def isGlobalJob (s : Service) : Bool :=
  match s.mode with
  | .globalJob => true
  | _ => false

end Service

/-- `RestartCondition(task)`: the task's own, `RestartOnAny` by default. -/
def restartCondition (t : Task) : RestartCondition :=
  match t.restart with
  | some p => p.condition
  | none => .any

/-- `InvalidNode(n)`: a missing node, or one that is down or drained. -/
def invalidNode : Option Node → Bool
  | none => true
  | some n => n.state = .down || n.availability = .drain

/-- `NewTask(cluster, service, slot, nodeID)` with the ID `id` and the
clock reading `now`: a new task desired to run. -/
def newTask (service : Service) (slot nodeID id : Nat) (now : Int) : Task where
  id := id
  serviceID := service.id
  slot := slot
  nodeID := nodeID
  desiredState := .running
  state := .new
  timestamp := some now
  appliedAt := none
  restart := service.restart
  specVersion := service.specVersion
  jobIteration := none
  createdAt := none

-- ===================== slot tuples

/-- The `SlotTuple` of the replicated orchestrator and of the replicated
job reconciler. -/
def slotTupleBySlot (t : Task) : SlotTuple := ⟨t.slot, t.serviceID, 0⟩

/-- The `SlotTuple` of the global orchestrator and of the global job
reconciler. -/
def slotTupleByNode (t : Task) : SlotTuple := ⟨0, t.serviceID, t.nodeID⟩

/-- The `SlotTuple` method of the orchestrator that handles a mode, as
`taskinit.CheckTasks` calls it. -/
def handlerSlotTuple : Mode → Task → SlotTuple
  | .replicated _ => slotTupleBySlot
  | .global => slotTupleByNode
  | .replicatedJob _ _ => slotTupleBySlot
  | .globalJob => slotTupleByNode

-- ======================= the store

/-- A table by ID. -/
abbrev Table (α : Type) := AList fun _ : Nat => α

/-- The tables the orchestrators use, and the ID counter. -/
structure Store where
  tasks : Table Task
  nodes : Table Node
  services : Table Service
  nextID : Nat

namespace Store

/-- `identity.NewID()`. -/
def newID (st : Store) : Nat × Store := (st.nextID, { st with nextID := st.nextID + 1 })

/-- `GetTask(tx, id)`. -/
def getTask (st : Store) (id : Nat) : Option Task := st.tasks.lookup id

/-- `CreateTask(tx, t)`. -/
def createTask (t : Task) (st : Store) : Except Err Store :=
  if t.id ∈ st.tasks then .error .exist else .ok { st with tasks := st.tasks.insert t.id t }

/-- `UpdateTask(tx, t)`. -/
def updateTask (t : Task) (st : Store) : Except Err Store :=
  if t.id ∈ st.tasks then .ok { st with tasks := st.tasks.insert t.id t } else .error .notExist

/-- `FindTasks(tx, ByServiceID(id))`, in the table's order. -/
def findTasksByService (st : Store) (id : Nat) : List Task :=
  (st.tasks.entries.map (·.2)).filter (·.serviceID = id)

/-- `FindTasks(tx, ByNodeID(id))`, in the table's order. -/
def findTasksByNode (st : Store) (id : Nat) : List Task :=
  (st.tasks.entries.map (·.2)).filter (·.nodeID = id)

variable {st st' : Store} {y : Task}

theorem createTask_tasks (h : st.createTask y = .ok st') :
    y.id ∉ st.tasks ∧ st' = { st with tasks := st.tasks.insert y.id y } := by
  unfold Store.createTask at h
  split at h
  · cases h
  · cases h
    exact ⟨‹_›, rfl⟩

theorem updateTask_tasks (h : st.updateTask y = .ok st') :
    st' = { st with tasks := st.tasks.insert y.id y } := by
  unfold Store.updateTask at h
  split at h
  · cases h
    rfl
  · cases h

end Store

end SwarmKit.Orchestrator

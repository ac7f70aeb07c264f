import SwarmKit.Scheduler.NodeInfo

/-
The constraint enforcer's check of one node
(manager/orchestrator/constraintenforcer/constraint_enforcer.go
`rejectNoncompliantTasks`).

# The check

On an active node the enforcer lists the node's tasks and walks them in
the store's order. A task whose desired state lies outside
[ASSIGNED, COMPLETED] is skipped; the observed state is not read. A task
whose placement constraints (its service's current ones, else the
task's own) the node does not meet is marked. A task with reservations
is marked when its memory or its CPUs exceed what is left of the node's
described resources; when `HasResource` holds of one of its assigned
generic resources and what is left, it is marked and the walk stops;
otherwise its reservations and its generic resources are taken from
what is left. Every marked task that is still desired at most COMPLETED
is then given the observed state REJECTED.

# Reading the source

What `constraint.Parse` and `constraint.NodeMatches` make of a list of
constraints on a node is the predicate `satisfies`; the enforcer drops
the parse error. The service map the enforcer builds holds the store's
service for each task's service ID, so it is the service table read by
ID. `removeTasks` is a Go map, ranged in no fixed order; every task is
put in it at most once and each write of the batch touches only its own
task, so a list in marking order stands for it. The writes cannot fail,
since each writes back a task its own transaction read.
-/

namespace SwarmKit.Orchestrator.ConstraintEnforcer

open SwarmKit.Api (GenericResource)
open SwarmKit.Scheduler (TaskState)
open SwarmKit.Scheduler.Fit (Resources NodeAvailability)

-- ======================== the data

/-- `Spec.Resources.Reservations` of a task: its CPUs and memory. -/
structure Reservations where
  nanoCPUs : Int
  memoryBytes : Int
  deriving DecidableEq, Repr

/-- What the enforcer reads and writes of an `api.Task`. -/
structure Task where
  id : Nat
  serviceID : Nat
  nodeID : Nat
  desiredState : TaskState
  /-- `Status.State`. -/
  state : TaskState
  /-- `Spec.Placement.Constraints`, `none` for a nil placement. -/
  placement : Option (List String)
  /-- `Spec.Resources.Reservations`, `none` when either is nil. -/
  reservations : Option Reservations
  assignedGenericResources : List GenericResource
  /-- `Status.Message`. -/
  message : String
  /-- `Status.Err`. -/
  err : String
  /-- `Status.Timestamp`. -/
  timestamp : Option Int
  deriving DecidableEq, Repr

/-- What the enforcer reads of an `api.Service`: `Spec.Task.Placement`'s
constraints. -/
structure Service where
  id : Nat
  placement : Option (List String)
  deriving DecidableEq, Repr

/-- What the enforcer reads of an `api.Node`. -/
structure Node where
  id : Nat
  /-- `Spec.Availability`. -/
  availability : NodeAvailability
  /-- `Description.Resources`, `none` when either is nil. -/
  resources : Option Resources
  deriving DecidableEq, Repr

/-- The task and service tables; a task is filed under its ID. -/
structure Store where
  tasks : AList fun _ : Nat => Task
  services : AList fun _ : Nat => Service
  keyed : ∀ e ∈ tasks.entries, e.2.id = e.1

theorem Store.id_of_lookup (st : Store) {k : Nat} {x : Task} (h : st.tasks.lookup k = some x) :
    x.id = k :=
  st.keyed ⟨k, x⟩ (AList.mem_lookup_iff.mp h)

theorem Store.keyed_insert (st : Store) {k : Nat} {x : Task} (hx : x.id = k) :
    ∀ e ∈ (st.tasks.insert k x).entries, e.2.id = e.1 := by
  intro e he
  rw [AList.entries_insert, List.mem_cons] at he
  rcases he with rfl | he
  · exact hx
  · exact st.keyed e ((List.kerase_sublist _ _).subset he)

/-- `FindTasks(tx, ByNodeID(id))`, in the table's order. -/
def Store.findTasksByNode (st : Store) (id : Nat) : List Task :=
  (st.tasks.entries.map (·.2)).filter (·.nodeID = id)

-- ======================== the walk

/-- Whether a placement rules the node out: only a non-empty list of
constraints is checked. -/
def placementRejects (satisfies : List String → Node → Bool) (placement : Option (List String))
    (node : Node) : Bool :=
  match placement with
  | some cs => !cs.isEmpty && !satisfies cs node
  | none => false

/-- The placement the enforcer checks: the service's current one, else
the task's own. -/
def placementOf (services : Nat → Option Service) (t : Task) : Option (List String) :=
  match services t.serviceID with
  | some service => service.placement
  | none => t.placement

/-- The walk over the node's tasks with what is left of its resources:
the tasks marked, in order. `break loop` ends the walk. -/
def checkTasks (satisfies : List String → Node → Bool) (services : Nat → Option Service)
    (node : Node) : Resources → List Task → List Task → List Task
  | _, [], removeTasks => removeTasks
  | available, t :: ts, removeTasks =>
    if t.desiredState.rank < TaskState.assigned.rank ∨
        TaskState.complete.rank < t.desiredState.rank then
      checkTasks satisfies services node available ts removeTasks
    else
      if placementRejects satisfies (placementOf services t) node then
        checkTasks satisfies services node available ts (removeTasks ++ [t])
      else
        match t.reservations with
        | none => checkTasks satisfies services node available ts removeTasks
        | some r =>
          if r.memoryBytes > available.memoryBytes then
            checkTasks satisfies services node available ts (removeTasks ++ [t])
          else if r.nanoCPUs > available.nanoCPUs then
            checkTasks satisfies services node available ts (removeTasks ++ [t])
          else if t.assignedGenericResources.any (GenericResource.hasResource · available.generic) then
            removeTasks ++ [t]
          else
            checkTasks satisfies services node
              { nanoCPUs := available.nanoCPUs - r.nanoCPUs
                memoryBytes := available.memoryBytes - r.memoryBytes
                generic := GenericResource.consumeNodeResources available.generic
                  t.assignedGenericResources }
              ts removeTasks

/-- The task as the batch writes it back: observed REJECTED, with the
enforcer's message and error, at `now`. -/
def rejected (now : Int) (t : Task) : Task :=
  { t with
    state := .rejected
    message := "task rejected by constraint enforcer"
    err := "assigned node no longer meets constraints"
    timestamp := some now }

/-- The batch's write for one marked task: read again, and unless it is
gone or desired past COMPLETED, rejected. -/
def rejectTask (now : Int) (st : Store) (t : Task) : Store :=
  match h : st.tasks.lookup t.id with
  | none => st
  | some x =>
    if TaskState.complete.rank < x.desiredState.rank then st
    else
      { st with
        tasks := st.tasks.insert t.id (rejected now x)
        keyed := st.keyed_insert (x := rejected now x) (st.id_of_lookup (x := x) h) }

/-- `rejectNoncompliantTasks(node)`, with `now` the clock reading. -/
def rejectNoncompliantTasks (satisfies : List String → Node → Bool) (now : Int) (node : Node)
    (st : Store) : Store :=
  if node.availability ≠ .active then st
  else
    let available := node.resources.getD ⟨0, 0, []⟩
    let removeTasks := checkTasks satisfies (st.services.lookup ·) node available
      (st.findTasksByNode node.id) []
    removeTasks.foldl (rejectTask now) st

end SwarmKit.Orchestrator.ConstraintEnforcer

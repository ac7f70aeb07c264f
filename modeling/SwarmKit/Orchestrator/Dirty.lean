import SwarmKit.Allocator.Ports
import SwarmKit.Scheduler.Scheduler

/-
Whether a task is out of date with its service (manager/orchestrator
task.go `IsTaskDirty`, `nodeMatches`,
`IsTaskDirtyPlacementConstraintsOnly`; update/updater.go the dirty slot
selection of `Run`, `isTaskDirty`, `isSlotDirty`).

# The comparison

`IsTaskDirty` says a task is clean when its spec version is the
service's. Otherwise it compares the service's task spec with the
task's: when they differ in the placement alone and the task's node
satisfies the service's placement constraints, the task is clean; else,
with the pull options ignored for a task that has its image, the task is
dirty when the specs differ or its endpoint's spec differs from the
service's.

# Reading the source

The task spec keeps as fields what the comparison singles out: the
container, whose pull options it may ignore, and the placement; every
other field (resources, restart policy, networks, log driver,
`ForceUpdate`) is one value of an arbitrary type with decidable
equality, compared whole as `reflect.DeepEqual` does. `Placement` is a
pointer in the source: `none` is nil, and `nodeMatches` dereferences it,
so it panics (`none` here) on a service without one. Whether a node
satisfies a list of constraints (`constraint.Parse` then
`constraint.NodeMatches`) is a parameter, and so is the node type.
-/

namespace SwarmKit.Orchestrator.Dirty

open SwarmKit.Scheduler (TaskState)
open SwarmKit.Allocator (EndpointSpec)

-- =========================== specs

/-- `api.Platform`. -/
structure Platform where
  architecture : String
  os : String
  deriving DecidableEq, Repr

/-- `api.Placement`. -/
structure Placement where
  constraints : List String
  preferences : List String
  maxReplicas : Nat
  platforms : List Platform
  deriving DecidableEq, Repr

/-- `api.ContainerSpec`: its image and its pull options. -/
structure ContainerSpec where
  image : String
  pullOptions : Option String
  deriving DecidableEq, Repr

/-- `api.TaskSpec`: the container (`none` for another runtime), the
placement, and the other fields. -/
structure TaskSpec (α : Type) where
  container : Option ContainerSpec
  placement : Option Placement
  rest : α
  deriving DecidableEq, Repr

/-- `api.ServiceSpec`, its task spec and endpoint spec. -/
structure ServiceSpec (α : Type) where
  task : TaskSpec α
  endpoint : Option EndpointSpec
  deriving DecidableEq, Repr

/-- `api.Service`: its spec and spec version. -/
structure Service (α : Type) where
  spec : ServiceSpec α
  specVersion : Option Nat
  deriving DecidableEq, Repr

/-- `api.Task`: what the dirty check reads; `endpoint` is `none` when
the task has no endpoint, else the spec it was allocated for. -/
structure Task (α : Type) where
  id : Nat
  nodeID : Nat
  spec : TaskSpec α
  specVersion : Option Nat
  endpoint : Option (Option EndpointSpec)
  desiredState : TaskState
  state : TaskState
  deriving DecidableEq, Repr

variable {α ν : Type} [DecidableEq α]

-- ===================== dirty check

/-- `IsTaskDirtyPlacementConstraintsOnly`: the placements differ, and
the specs agree once the service's placement is the task's. -/
def isTaskDirtyPlacementConstraintsOnly (serviceTaskSpec : TaskSpec α) (t : Task α) : Bool :=
  if serviceTaskSpec.placement = t.spec.placement then false
  else decide ({ serviceTaskSpec with placement := t.spec.placement } = t.spec)

/-- `nodeMatches`: the node satisfies the service's constraints; `none`
is the nil dereference of a service without a placement. -/
def nodeMatches (satisfies : List String → ν → Bool) (s : Service α) : Option ν → Option Bool
  | none => some false
  | some n => s.spec.task.placement.map fun p => satisfies p.constraints n

/-- A task desired to run that has reached `READY`, so that its image is
pulled: its pull options are not compared. -/
def ignorePullOpts (t : Task α) : Bool :=
  decide (t.desiredState.rank ≤ TaskState.running.rank ∧ TaskState.ready.rank ≤ t.state.rank ∧
    t.state.rank ≤ TaskState.running.rank)

/-- The service's task spec with the task's pull options, when both are
containers. -/
def withPullOptions (serviceTaskSpec : TaskSpec α) (t : Task α) : TaskSpec α :=
  match serviceTaskSpec.container, t.spec.container with
  | some c, some tc => { serviceTaskSpec with container := some { c with pullOptions := tc.pullOptions } }
  | _, _ => serviceTaskSpec

/-- `IsTaskDirty(s, t, n)`; `none` when it panics. -/
def isTaskDirty (satisfies : List String → ν → Bool) (s : Service α) (t : Task α) (n : Option ν) :
    Option Bool :=
  if t.specVersion.isSome ∧ s.specVersion.isSome ∧ s.specVersion = t.specVersion then some false
  else
    let serviceTaskSpec := s.spec.task
    -- `&&` evaluates `nodeMatches` only when the placement alone changed
    let placementOnly : Option Bool :=
      if isTaskDirtyPlacementConstraintsOnly serviceTaskSpec t then nodeMatches satisfies s n else some false
    placementOnly.map fun clean =>
      if clean then false
      else
        let serviceTaskSpec := if ignorePullOpts t then withPullOptions serviceTaskSpec t else serviceTaskSpec
        !decide (serviceTaskSpec = t.spec) || (t.endpoint.isSome && !decide (some s.spec.endpoint = t.endpoint))

-- ========================= updater

/-- `Updater.isSlotDirty`: a slot of several tasks, or one dirty task, its
node read from the store; a panic is `none`. -/
def isSlotDirty (satisfies : List String → ν → Bool) (nodes : Nat → Option ν) (s : Service α) :
    List (Task α) → Option Bool
  | [] => some false
  | [t] => isTaskDirty satisfies s t (nodes t.nodeID)
  | _ :: _ :: _ => some true

/-- The first loop of `Updater.Run`: the dirty slots, in order. The run
updates these and no other; with none it completes at once. -/
def dirtySlots (satisfies : List String → ν → Bool) (nodes : Nat → Option ν) (s : Service α) :
    List (List (Task α)) → Option (List (List (Task α)))
  | [] => some []
  | slot :: slots =>
    match isSlotDirty satisfies nodes s slot, dirtySlots satisfies nodes s slots with
    | some dirty, some rest => some (if dirty then slot :: rest else rest)
    | _, _ => none

end SwarmKit.Orchestrator.Dirty

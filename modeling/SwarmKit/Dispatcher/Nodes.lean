import SwarmKit.Orchestrator.Task
import SwarmKit.Lib.Lts

/-
The dispatcher's sessions and heartbeats (manager/dispatcher/nodes.go
`nodeStore.AddUnknown`, `Add`, `GetWithSession`, `Heartbeat`, `Delete`;
dispatcher.go `register`, `markNodesUnknown`, `markNodeNotReady`;
heartbeat/heartbeat.go `New`, `Beat`, `Update`, `Stop`).

# Timers

A heartbeat is a `time.AfterFunc` timer with the expiry function the
dispatcher gave it. `Stop` disarms a timer that has not fired; once it
has fired, its function runs in a goroutine of its own and `Stop` no
longer matters. `Reset` (`Beat`) arms the timer again, whether it fired
or was stopped. The expiry functions capture only a node ID.

# The world

The store's node status, the dispatcher's `nodeStore` (per node, the
session and the timer of its heartbeat), the timers, the expiry
functions running, and the `Heartbeat` calls that have looked their
session up (`GetWithSession`) and not yet called `Beat`, which they do
after releasing the store's lock. Session and timer IDs come from one
counter; `0` is the empty session of a node added as unknown. The
batching of node updates is left out: a status change reaches the store
in the step that makes it.
-/

namespace SwarmKit.Dispatcher

open SwarmKit.Scheduler.Fit (NodeState)
open SwarmKit.Orchestrator (Table)

-- ======================== the data

/-- `registeredNode`: its session and its heartbeat's timer. -/
structure RegisteredNode where
  sessionID : Nat
  timer : Nat
  deriving DecidableEq, Repr

/-- A `time.AfterFunc` timer: the node its expiry function was made for,
and whether it is armed. -/
structure Timer where
  nodeID : Nat
  armed : Bool
  deriving DecidableEq, Repr

/-- The dispatcher's state and the store's node status. -/
structure World where
  /-- `Node.Status.State` of the store's nodes. -/
  status : Table NodeState
  /-- `nodeStore.nodes`. -/
  nodes : Table RegisteredNode
  timers : Table Timer
  /-- The nodes whose expiry function is running. -/
  expiring : List Nat
  /-- The timers of `Heartbeat` calls past their session check. -/
  beating : List Nat
  nextID : Nat

namespace World

/-- `heartbeat.New`: a new armed timer for the node's expiry function. -/
def newTimer (nodeID : Nat) (w : World) : Nat × World :=
  (w.nextID, { w with timers := w.timers.insert w.nextID ⟨nodeID, true⟩, nextID := w.nextID + 1 })

/-- `Stop` on a timer. -/
def stopTimer (t : Nat) (w : World) : World :=
  match w.timers.lookup t with
  | none => w
  | some tm => { w with timers := w.timers.insert t { tm with armed := false } }

/-- `Reset` on a timer: armed again, whatever happened to it. -/
def resetTimer (t : Nat) (w : World) : World :=
  match w.timers.lookup t with
  | none => w
  | some tm => { w with timers := w.timers.insert t { tm with armed := true } }

/-- `nodeStore.Delete(id)`: the node's entry leaves and its timer stops. -/
def deleteNode (id : Nat) (w : World) : World :=
  match w.nodes.lookup id with
  | none => w
  | some rn => { stopTimer rn.timer w with nodes := w.nodes.erase id }

end World

-- ======================= the calls

/-- `markNodesUnknown` for a node that is not down: `UNKNOWN` in the
store, and `AddUnknown`, an entry without a session. -/
def addUnknown (id : Nat) (w : World) : Option World :=
  match w.status.lookup id with
  | none => none
  | some st =>
    if st = .down then none
    else
      let (t, w) := w.newTimer id
      some { w with status := w.status.insert id .unknown, nodes := w.nodes.insert id ⟨0, t⟩ }

/-- `register(nodeID)`: the node must be in the store; it is marked
ready, and `nodeStore.Add` stops the old entry's timer, drops the entry
and adds one with a new session and a new timer. -/
def register (id : Nat) (w : World) : Option World :=
  match w.status.lookup id with
  | none => none
  | some _ =>
    let w := { w with status := w.status.insert id .ready }
    let w := match w.nodes.lookup id with
      | none => w
      | some rn => { w.stopTimer rn.timer with nodes := w.nodes.erase id }
    let sessionID := w.nextID
    let w := { w with nextID := w.nextID + 1 }
    let (t, w) := w.newTimer id
    some { w with nodes := w.nodes.insert id ⟨sessionID, t⟩ }

/-- `nodeStore.Heartbeat(id, sid)` up to its `Beat`: the session check
`GetWithSession` makes under the store's lock. -/
def heartbeat (id sid : Nat) (w : World) : Option World :=
  match w.nodes.lookup id with
  | none => none
  | some rn =>
    if sid = 0 ∨ rn.sessionID ≠ sid then none
    else some { w with beating := w.beating ++ [rn.timer] }

/-- The expiry function of `register` (and of `markNodesUnknown`) for
node `id`: `markNodeNotReady(id, DOWN, ...)`, which needs the node in the
store, marks it down and deletes whatever entry the node store has for
it. -/
def markNodeNotReady (id : Nat) (w : World) : World :=
  match w.status.lookup id with
  | none => w
  | some _ => { w with status := w.status.insert id .down }.deleteNode id

/-- What happens next. -/
inductive Act
  | addUnknown (id : Nat)
  | register (id : Nat)
  | heartbeat (id sid : Nat)
  /-- A `Heartbeat` call past its check calls `Beat` on its timer. -/
  | beat (timer : Nat)
  /-- An armed timer fires: its expiry function starts. -/
  | fire (timer : Nat)
  /-- A running expiry function for the node runs to its end. -/
  | expire (id : Nat)

/-- One step. -/
def step : Act → World → Option World
  | .addUnknown id, w => addUnknown id w
  | .register id, w => register id w
  | .heartbeat id sid, w => heartbeat id sid w
  | .beat t, w =>
    if t ∈ w.beating then some { w.resetTimer t with beating := w.beating.erase t } else none
  | .fire t, w =>
    match w.timers.lookup t with
    | some tm =>
      if tm.armed then
        let timers := w.timers.insert t { tm with armed := false }
        some { w with timers, expiring := w.expiring ++ [tm.nodeID] }
      else none
    | none => none
  | .expire id, w =>
    if id ∈ w.expiring then some (markNodeNotReady id { w with expiring := w.expiring.erase id })
    else none

end SwarmKit.Dispatcher

import SwarmKit.Scheduler.Scheduler
import Mathlib.Data.List.AList

/-
A log subscription's bookkeeping of the nodes it waits for
(manager/logbroker/subscription.go `newSubscription`, `match`, `Done`,
`Wait`; broker.go `SubscribeLogs`, `registerSubscription`, `markDone`,
`nodeConnected`, `nodeDisconnected`, and the `markDone` calls of
`PublishLogs`).

# The subscription

`match` collects the nodes whose logs the subscription waits for: the
node IDs its selector names, the nodes of the tasks it names, and the
nodes of the running tasks of the services it names (a task not yet on a
node is pending). A node reached through a task is added to the
`sync.WaitGroup`; a node the selector names is not. `Done` records an
error, and for a subscription that does not follow, forgets a node it
waits for and calls `wg.Done()`. `Wait`'s channel closes when the
counter is zero; a counter below zero panics.

# The broker

Of `subscriptionsByNode` only this subscription's part is kept: for
each connected node, whether its set holds the subscription. Other
subscriptions do not touch this one's counter. `registerSubscription`
marks done, at once, every node of the subscription that is not
connected. `markDone` is what `PublishLogs` calls when a node closes its
stream or fails, for the node of the stream; `nodeDisconnected` marks
done the subscriptions in the node's set. A panic is `none`.
-/

namespace SwarmKit.Logbroker

open SwarmKit.Scheduler (TaskState)

-- ======================== the data

/-- What `match` reads of an `api.Task`; an unassigned task has node
`""`. -/
structure LogTask where
  id : String
  nodeID : String
  serviceID : String
  state : TaskState
  deriving DecidableEq, Repr

/-- `api.LogSelector`. -/
structure LogSelector where
  serviceIDs : List String
  nodeIDs : List String
  taskIDs : List String
  deriving DecidableEq, Repr

/-- The store's task table. -/
abbrev Tasks := AList fun _ : String => LogTask

/-- `FindTasks(tx, ByServiceID(id))`, in the table's order. -/
def findTasksByService (tasks : Tasks) (serviceID : String) : List LogTask :=
  (tasks.entries.map (·.2)).filter (·.serviceID = serviceID)

/-- `subscription`: its selector, `Options.Follow`, the `WaitGroup`'s
counter, the node set, the pending tasks and the errors. -/
structure Subscription where
  selector : LogSelector
  follow : Bool
  wg : Int
  nodes : List String
  pendingTasks : List String
  errors : List String
  deriving DecidableEq, Repr

/-- `newSubscription`. -/
def newSubscription (selector : LogSelector) (follow : Bool) : Subscription :=
  ⟨selector, follow, 0, [], [], []⟩

namespace Subscription

/-- `match`'s `add`: a node not yet in the set is added, and counted. -/
def add (s : Subscription) (t : LogTask) : Subscription :=
  if t.nodeID = "" then
    { s with pendingTasks := if t.id ∈ s.pendingTasks then s.pendingTasks else s.pendingTasks ++ [t.id] }
  else if t.nodeID ∈ s.nodes then s
  else { s with nodes := s.nodes ++ [t.nodeID], wg := s.wg + 1 }

/-- `s.nodes[nid] = struct{}{}`, with no `wg.Add`. -/
def addNodeID (s : Subscription) (nodeID : String) : Subscription :=
  { s with nodes := if nodeID ∈ s.nodes then s.nodes else s.nodes ++ [nodeID] }

/-- A selected task that `match` adds: when the store has it. -/
def addTaskID (tasks : Tasks) (s : Subscription) (taskID : String) : Subscription :=
  match tasks.lookup taskID with
  | some t => s.add t
  | none => s

/-- The tasks of a selected service that `match` adds: not yet running
ones only when following. -/
def addServiceTasks (tasks : Tasks) (s : Subscription) (serviceID : String) : Subscription :=
  (findTasksByService tasks serviceID).foldl (fun s t =>
    if !s.follow && t.state.rank < TaskState.running.rank then s else s.add t) s

/-- `match` (a Lean keyword): the selected node IDs, then the selected
tasks, then the tasks of the selected services. -/
def matchSelector (tasks : Tasks) (s : Subscription) : Subscription :=
  let s := s.selector.nodeIDs.foldl addNodeID s
  let s := s.selector.taskIDs.foldl (addTaskID tasks) s
  s.selector.serviceIDs.foldl (addServiceTasks tasks) s

/-- `s.errors = append(s.errors, err)` for an error that is not nil. -/
def recordError (err : Option String) (s : Subscription) : Subscription :=
  match err with
  | some e => { s with errors := s.errors ++ [e] }
  | none => s

/-- `Done(nodeID, err)`; `none` is the panic of `wg.Done()` on a zero
counter. -/
def done (nodeID : String) (err : Option String) (s : Subscription) : Option Subscription :=
  let s := s.recordError err
  if s.follow then some s
  else if nodeID ∉ s.nodes then some s
  else
    let s := { s with nodes := s.nodes.erase nodeID, wg := s.wg - 1 }
    if s.wg < 0 then none else some s

/-- Whether the channel `Wait` returned has closed: never for a
subscription that follows, else once the counter is zero. -/
def waitClosed (s : Subscription) : Bool := !s.follow && s.wg = 0

end Subscription

-- ====================== the broker

/-- The broker as this subscription sees it. -/
structure Broker where
  /-- The connected nodes, and whether each node's set holds the
  subscription. -/
  subscriptionsByNode : AList fun _ : String => Bool
  sub : Subscription

/-- `registerSubscription`: every node of the subscription, as
`Nodes()` listed them, is marked done when it is not connected, and
else gets the subscription in its set. -/
def registerSubscription (b : Broker) : Option Broker :=
  b.sub.nodes.foldlM (fun b node =>
    match b.subscriptionsByNode.lookup node with
    | none => (b.sub.done node (some ("node " ++ node ++ " is not available"))).map
        fun sub => { b with sub }
    | some _ => some { b with subscriptionsByNode := b.subscriptionsByNode.insert node true }) b

/-- `SubscribeLogs` up to its loop: the subscription is made, matched
against the store and registered. -/
def subscribeLogs (tasks : Tasks) (selector : LogSelector) (follow : Bool)
    (subscriptionsByNode : AList fun _ : String => Bool) : Option Broker :=
  registerSubscription ⟨subscriptionsByNode, (newSubscription selector follow).matchSelector tasks⟩

/-- The calls that reach the subscription after it is registered. -/
inductive Call
  | nodeConnected (nodeID : String)
  | markDone (nodeID : String) (err : Option String)
  | nodeDisconnected (nodeID : String)
  deriving DecidableEq, Repr

/-- One call; `none` is a panic. -/
def step : Call → Broker → Option Broker
  | .nodeConnected n, b =>
    some (if n ∈ b.subscriptionsByNode then b
      else { b with subscriptionsByNode := b.subscriptionsByNode.insert n false })
  | .markDone n err, b =>
    let byNode :=
      if n ∈ b.subscriptionsByNode then b.subscriptionsByNode.insert n false
      else b.subscriptionsByNode
    (b.sub.done n err).map fun sub => ⟨byNode, sub⟩
  | .nodeDisconnected n, b =>
    let byNode := b.subscriptionsByNode.erase n
    if b.subscriptionsByNode.lookup n = some true then
      (b.sub.done n (some ("node " ++ n ++ " disconnected unexpectedly"))).map fun sub => ⟨byNode, sub⟩
    else some ⟨byNode, b.sub⟩

end SwarmKit.Logbroker

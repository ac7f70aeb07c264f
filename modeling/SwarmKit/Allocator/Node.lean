import SwarmKit.Allocator.Vip
import SwarmKit.Scheduler.Scheduler

/-
The load-balancer attachments of nodes (manager/allocator/network.go
`getNodeNetworks`, `allocateNode`, `reallocateNode`,
`commitAllocatedNode`, `deallocateNode`, `allocateNodes`,
`deallocateNodeAttachments`; cnmallocator/networkallocator.go
`AllocateAttachment`, `DeallocateAttachment`, `IsAttachmentAllocated`,
`allocateNetworkIPs`, `releaseEndpoints`), over the networks and IPAM
of `Vip.lean`.

# The allocator's side

Next to its networks the cnm allocator keeps `nodes`: for each node,
the networks on which it allocated the node an attachment. An
attachment is allocated when its node and network are in `nodes`, the
network is one the allocator knows, and the attachment's first address
is among the network's `endpoints`. Allocating one takes an address
from the network's pools, or the one the attachment names; freeing one
drops the pair from `nodes` and every address of the attachment from
`endpoints` and from its pool.

# The node's side

`reallocateNode` reads the node from the store and the networks it
needs: the overlay networks of its tasks that have not stopped, and the
ingress network. `allocateNode` gives each of those networks an
attachment (an existing one is reallocated when the allocator does not
hold it), then frees and drops every attachment on another network.
When something changed, the node is committed in a batch of
`Service.lean`. When its `batch.Update` fails, `commitAllocatedNode`
rolls back by `deallocateNode`, which frees every attachment of the node
that the allocator holds; a refused last commit rolls nothing back.

# Reading the source

Attachments are pointers into the node's slice: the attachment that
`allocateNode` finds for a network is updated in its place
(`List.replace` of the first one on that network), and the filter
`node.Attachments[:0]` keeps the order of what it keeps. The store hands
out copies, so the node a call works on is its own until the commit.
What the store does with a batch is the environment's choice. Addresses are numbers and parse; the IPAM driver resolves; the
errors, which the callers only log, are `VipErr`'s.
-/

namespace SwarmKit.Allocator.Cnm

open SwarmKit.Scheduler (TaskState)

-- ===================== attachments

/-- `api.NetworkAttachment` of a node: its network and its addresses. -/
structure NetworkAttachment where
  network : Nat
  addresses : List Nat
  deriving DecidableEq, Repr

namespace CnmNetworkAllocator

/-- The loop of `allocateNetworkIPs` over the attachment's addresses
(`none` is the empty one it tries when there are none): the first that
a pool of the network gives, with its position. -/
def requestAddresses (na : CnmNetworkAllocator) (nw : Nat) (ln : LocalNetwork) (i : Nat) :
    List (Option Nat) → Except VipErr (CnmNetworkAllocator × Nat × Nat)
  | [] => .error .noAvailableIP
  | pref :: prefs =>
    match na.requestFromPools nw ln pref ln.pools with
    | .ok (na, a) => .ok (na, i, a)
    | .error .noAvailableIP => na.requestAddresses nw ln (i + 1) prefs
    | .error e => .error e

/-- `allocateNetworkIPs`: the address got is written in its place in
the attachment's addresses. -/
def allocateNetworkIPs (na : CnmNetworkAllocator) (att : NetworkAttachment) :
    Except VipErr (CnmNetworkAllocator × NetworkAttachment) :=
  match na.networks.lookup att.network with
  | none => .error .noNetwork
  | some ln =>
    let prefs := if att.addresses = [] then [none] else att.addresses.map some
    match na.requestAddresses att.network ln 0 prefs with
    | .ok (na, i, a) =>
      .ok (na, { att with addresses := if att.addresses = [] then [a] else att.addresses.set i a })
    | .error e => .error e

/-- One address of `releaseEndpoints`: it leaves the network's
`endpoints`, then goes back to the pool `endpoints` named for it (a
release that fails is logged). -/
def releaseEndpoint (na : CnmNetworkAllocator) (nw a : Nat) : CnmNetworkAllocator :=
  match na.networks.lookup nw with
  | none => na
  | some ln =>
    let na' := { na with networks := na.networks.insert nw { ln with endpoints := ln.endpoints.erase a } }
    match ln.endpoints.lookup a with
    | some poolID =>
      match releaseAddress na.ipam poolID a with
      | .ok ipam => { na' with ipam }
      | .error _ => na'
    | none => na'

/-- `releaseEndpoints` of one attachment; a node-local network keeps its
addresses. -/
def releaseEndpoints (na : CnmNetworkAllocator) (att : NetworkAttachment) : Except VipErr CnmNetworkAllocator :=
  match na.networks.lookup att.network with
  | none => .error .noNetwork
  | some ln =>
    if ln.isNodeLocal then .ok na
    else .ok (att.addresses.foldl (fun na a => na.releaseEndpoint att.network a) na)

end CnmNetworkAllocator

/-- The cnm allocator with its `nodes` map, which only the attachment
calls read and write: the (node, network) pairs on which it allocated a
node's attachment. -/
structure NodeNetworkAllocator extends CnmNetworkAllocator where
  nodes : Finset (Nat × Nat)

namespace NodeNetworkAllocator

/-- `IsAttachmentAllocated`. -/
def isAttachmentAllocated (na : NodeNetworkAllocator) (nodeID : Nat) (att : NetworkAttachment) : Bool :=
  decide ((nodeID, att.network) ∈ na.nodes) &&
    match na.networks.lookup att.network, att.addresses with
    | some ln, a :: _ => decide (a ∈ ln.endpoints)
    | _, _ => false

/-- `AllocateAttachment`. -/
def allocateAttachment (na : NodeNetworkAllocator) (nodeID : Nat) (att : NetworkAttachment) :
    Except VipErr (NodeNetworkAllocator × NetworkAttachment) :=
  match na.allocateNetworkIPs att with
  | .ok (cnm, att) => .ok (⟨cnm, insert (nodeID, att.network) na.nodes⟩, att)
  | .error e => .error e

/-- `DeallocateAttachment`, and whether it succeeded: the pair leaves
`nodes` before the addresses are released, so a failure keeps that. -/
def deallocateAttachment (na : NodeNetworkAllocator) (nodeID : Nat) (att : NetworkAttachment) :
    NodeNetworkAllocator × Bool :=
  let nodes := na.nodes.erase (nodeID, att.network)
  match na.releaseEndpoints att with
  | .ok cnm => (⟨cnm, nodes⟩, true)
  | .error _ => ({ na with nodes }, false)

end NodeNetworkAllocator

-- =========================== nodes

open NodeNetworkAllocator

/-- `deallocateNode`: every attachment the allocator holds is freed; the
first failure stops the walk. The node's attachments are then nil. -/
def deallocateNode (na : NodeNetworkAllocator) (nodeID : Nat) : List NetworkAttachment → NodeNetworkAllocator × Bool
  | [] => (na, true)
  | att :: atts =>
    if na.isAttachmentAllocated nodeID att then
      match na.deallocateAttachment nodeID att with
      | (na, true) => deallocateNode na nodeID atts
      | (na, false) => (na, false)
    else deallocateNode na nodeID atts

/-- One network of `allocateNode`'s first loop, on the allocator, the
node's attachments and `allocated`. -/
def allocateNodeNetwork (nodeID : Nat) (existingAddressesOnly : Bool)
    (s : NodeNetworkAllocator × List NetworkAttachment × Bool) (network : Nat) :
    NodeNetworkAllocator × List NetworkAttachment × Bool :=
  let (na, atts, allocated) := s
  match atts.find? (·.network = network) with
  | some att =>
    if na.isAttachmentAllocated nodeID att then s
    -- restoring: an attachment with no address stays as it is
    else if existingAddressesOnly && att.addresses.isEmpty then s
    else
      match na.allocateAttachment nodeID att with
      | .ok (na, att') => (na, atts.replace att att', true)
      | .error _ => s
  | none =>
    if existingAddressesOnly then s
    else
      -- a new attachment is appended before it is allocated, and stays
      -- without an address when the allocation fails
      match na.allocateAttachment nodeID ⟨network, []⟩ with
      | .ok (na, att') => (na, atts ++ [att'], true)
      | .error _ => (na, atts ++ [⟨network, []⟩], allocated)

/-- The filter at the end of `allocateNode`: each attachment on a
network not passed in is freed and dropped, which counts as a change. -/
def freeUnused (nodeID : Nat) (networks : List Nat) (na : NodeNetworkAllocator) :
    List NetworkAttachment → NodeNetworkAllocator × List NetworkAttachment × Bool
  | [] => (na, [], false)
  | att :: atts =>
    if att.network ∈ networks then
      let (na, kept, dropped) := freeUnused nodeID networks na atts
      (na, att :: kept, dropped)
    else
      let (na, kept, _) := freeUnused nodeID networks (na.deallocateAttachment nodeID att).1 atts
      (na, kept, true)

/-- `allocateNode`: the allocator, the node's attachments, and whether
something was allocated or freed. -/
def allocateNode (na : NodeNetworkAllocator) (nodeID : Nat) (existingAddressesOnly : Bool)
    (networks : List Nat) (atts : List NetworkAttachment) : NodeNetworkAllocator × List NetworkAttachment × Bool :=
  let (na, atts, allocated) := networks.foldl (allocateNodeNetwork nodeID existingAddressesOnly) (na, atts, false)
  -- restoring stops here and frees nothing
  if existingAddressesOnly then (na, atts, allocated)
  else
    let (na, atts, dropped) := freeUnused nodeID networks na atts
    (na, atts, allocated || dropped)

end SwarmKit.Allocator.Cnm

namespace SwarmKit.Allocator.Network

open SwarmKit.Scheduler (TaskState)
open SwarmKit.Allocator.Cnm (NetworkAttachment NodeNetworkAllocator allocateNode deallocateNode)

-- =========================== store

/-- A network of a task's attachment, as `getNodeNetworks` reads it. -/
structure TaskNetwork where
  id : Nat
  /-- `isOverlayNetwork`: the driver, of the network's state or of its
  spec, is "overlay". -/
  overlay : Bool
  deriving DecidableEq, Repr

/-- What `getNodeNetworks` reads of an `api.Task`. -/
structure NodeTask where
  id : Nat
  nodeID : Nat
  state : TaskState
  networks : List TaskNetwork
  deriving DecidableEq, Repr

/-- The store's nodes, each with its attachments. -/
abbrev NodeStore := AList fun _ : Nat => List NetworkAttachment

/-- What the node calls read and write: the network allocator and the
ingress network of `netCtx`, and the store's nodes (each with its
attachments) and tasks. -/
structure NodeState where
  nwkAllocator : NodeNetworkAllocator
  ingressNetwork : Option Nat
  nodes : NodeStore
  tasks : List NodeTask

/-- The loop of `getNodeNetworks`: an overlay network not yet in the
list is added. -/
def addNodeNetwork (networks : List Nat) (nw : TaskNetwork) : List Nat :=
  if nw.overlay && !networks.contains nw.id then networks ++ [nw.id] else networks

/-- `getNodeNetworks`: the overlay networks of the node's tasks that
have not stopped, in the order found, then the ingress network. -/
def getNodeNetworks (s : NodeState) (nodeID : Nat) : List Nat :=
  let tasks := s.tasks.filter fun t => t.nodeID = nodeID && t.state.rank ≤ TaskState.running.rank
  (tasks.flatMap (·.networks)).foldl addNodeNetwork [] ++ s.ingressNetwork.toList

/-- Why a node call failed. -/
inductive NodeErr
  /-- "node %v cannot be found". -/
  | notFound
  /-- "failed updating state in store transaction for node %s". -/
  | commit
  deriving DecidableEq, Repr

/-- The callback of `commitAllocatedNode`: `UpdateNode` with the node's
attachments; on a version conflict the stored node takes them. -/
def updateNodeAttachments (nodeID : Nat) (atts : List NetworkAttachment) (tx : NodeStore) :
    Except StoreErr (NodeStore × Nat × List NetworkAttachment) :=
  match tx.lookup nodeID with
  | none => .error .notExist
  | some _ => .ok (tx.insert nodeID atts, (nodeID, atts))

/-- `commitAllocatedNode`: the node written in the batch; when
`batch.Update` fails, everything the node holds is freed. -/
def NodeState.commitAllocatedNode (s : NodeState) (out : BatchOutcome (Nat × List NetworkAttachment))
    (b : BatchState NodeStore (Nat × List NetworkAttachment)) (nodeID : Nat) (atts : List NetworkAttachment) :
    NodeState × BatchState NodeStore (Nat × List NetworkAttachment) × Bool :=
  match b.update out (updateNodeAttachments nodeID atts) with
  | (b, none) => (s, b, false)
  | (b, some _) => ({ s with nwkAllocator := (deallocateNode s.nwkAllocator nodeID atts).1 }, b, true)

/-- `store.Batch` around one `commitAllocatedNode`, whose error it
returns. -/
def NodeState.commitNode (s : NodeState) (out : BatchOutcome (Nat × List NetworkAttachment)) (nodeID : Nat)
    (atts : List NetworkAttachment) : NodeState × Option NodeErr :=
  let (s, b, err) := s.commitAllocatedNode out (BatchState.init s.nodes) nodeID atts
  match b.finish out err with
  | (nodes, _, true) => ({ s with nodes }, none)
  | (nodes, _, false) => ({ s with nodes }, some .commit)

/-- `reallocateNode`. -/
def NodeState.reallocateNode (s : NodeState) (out : BatchOutcome (Nat × List NetworkAttachment)) (nodeID : Nat) :
    NodeState × Option NodeErr :=
  match s.nodes.lookup nodeID with
  | none => (s, some .notFound)
  | some atts =>
    let (na, atts, allocated) := allocateNode s.nwkAllocator nodeID false (getNodeNetworks s nodeID) atts
    let s := { s with nwkAllocator := na }
    if allocated then s.commitNode out nodeID atts else (s, none)

/-- `allocateNodes`: every node of the store is allocated, then those
that changed are committed in one batch, a failed commit only logged. -/
def NodeState.allocateNodes (s : NodeState) (existingAddressesOnly : Bool)
    (out : BatchOutcome (Nat × List NetworkAttachment)) : NodeState :=
  let (na, allocated) := s.nodes.entries.foldl
    (fun (na, allocated) node =>
      let (na, atts, changed) := allocateNode na node.1 existingAddressesOnly (getNodeNetworks s node.1) node.2
      (na, if changed then allocated ++ [(node.1, atts)] else allocated))
    (s.nwkAllocator, [])
  let (s, b) := allocated.foldl
    (fun (s, b) node => let (s, b, _) := s.commitAllocatedNode out b node.1 node.2; (s, b))
    ({ s with nwkAllocator := na }, BatchState.init s.nodes)
  { s with nodes := (b.finish out false).1 }

/-- Go's delete of the `i`-th element by moving the last one into its
place. -/
def swapRemove {α : Type} (l : List α) (i : Nat) : List α :=
  match l.getLast? with
  | some last => (l.set i last).dropLast
  | none => l

/-- `deallocateNodeAttachments` for one node: its first attachment on
the network, when the allocator holds it, is freed and dropped, and the
node committed in a batch of its own. -/
def NodeState.deallocateNodeAttachment (nid : Nat) (out : Nat → BatchOutcome (Nat × List NetworkAttachment))
    (s : NodeState)
    (node : Σ _ : Nat, List NetworkAttachment) : NodeState :=
  match node.2.findIdx? (·.network = nid) with
  | none => s
  | some i =>
    match node.2[i]? with
    | none => s
    | some att =>
      if s.nwkAllocator.isAttachmentAllocated node.1 att then
        match s.nwkAllocator.deallocateAttachment node.1 att with
        | (na, true) => ({ s with nwkAllocator := na }.commitNode (out node.1) node.1 (swapRemove node.2 i)).1
        | (na, false) => { s with nwkAllocator := na }
      else s

/-- `deallocateNodeAttachments`, when network `nid` is deleted. -/
def NodeState.deallocateNodeAttachments (s : NodeState) (nid : Nat)
    (out : Nat → BatchOutcome (Nat × List NetworkAttachment)) : NodeState :=
  s.nodes.entries.foldl (NodeState.deallocateNodeAttachment nid out) s

-- =========================== steps

/-- The calls that touch node attachments, each with what the store
does with its batches. -/
inductive NodeAct
  /-- A task written to the store by its owner, then `doTaskAlloc`'s
  `reallocateNode` of its node. -/
  | updateTask (t : NodeTask) (out : BatchOutcome (Nat × List NetworkAttachment))
  /-- A task deleted from the store, then `reallocateNode` of its node. -/
  | deleteTask (t : NodeTask) (out : BatchOutcome (Nat × List NetworkAttachment))
  /-- A node created or updated: `reallocateNode`. -/
  | nodeEvent (nodeID : Nat) (out : BatchOutcome (Nat × List NetworkAttachment))
  | allocateNodes (existingAddressesOnly : Bool) (out : BatchOutcome (Nat × List NetworkAttachment))
  /-- A network deleted: `deallocateNodeAttachments`, a batch per node. -/
  | removeNetwork (nid : Nat) (out : Nat → BatchOutcome (Nat × List NetworkAttachment))

def NodeState.putTask (s : NodeState) (t : NodeTask) : NodeState :=
  { s with tasks := s.tasks.filter (·.id ≠ t.id) ++ [t] }

def NodeState.deleteTask (s : NodeState) (id : Nat) : NodeState :=
  { s with tasks := s.tasks.filter (·.id ≠ id) }

def nodeStep : NodeAct → NodeState → NodeState
  | .updateTask t out, s => ((s.putTask t).reallocateNode out t.nodeID).1
  | .deleteTask t out, s => ((s.deleteTask t.id).reallocateNode out t.nodeID).1
  | .nodeEvent nodeID out, s => (s.reallocateNode out nodeID).1
  | .allocateNodes existingAddressesOnly out, s => s.allocateNodes existingAddressesOnly out
  | .removeNetwork nid out, s => s.deallocateNodeAttachments nid out

def nodeRun (acts : List NodeAct) (s : NodeState) : NodeState := acts.foldl (fun s a => nodeStep a s) s

end SwarmKit.Allocator.Network

import SwarmKit.Store.Memory
import SwarmKit.Scheduler.Scheduler
import SwarmKit.Lib.Idm

/-
The allocator's task path (manager/allocator/network.go `allocateTask`,
`commitAllocatedTask`, `procTasksNetwork`, `doTaskAlloc`,
`taskCreateNetworkAttachments`, the task part of the `EventCommit`
case; allocator.go `taskAllocateVote`; cnmallocator/networkallocator.go
`IsTaskAllocated`, `AllocateTask`, `DeallocateTask`,
`allocateNetworkIPs`, `releaseEndpoints`), over the memory store of
`Store/Memory.lean`.

# The ballot

A task moves to `PENDING` once every registered voter has voted for it.
The network allocator is the only voter, so its first vote for a task
completes the ballot and every later one is refused; a vote is never
taken back. `allocateTask` sets `PENDING` only on a completed ballot,
and reports `errNoChanges` when it changed nothing.

# Networks

Each network the allocator holds has an IPAM pool, an `Idm` handing out
addresses serially; the store's networks are those. A task's attachment
holds the addresses allocated to it; `IsTaskAllocated` asks whether the
allocator holds the task and the first address of each attachment.

# The store

Tasks are objects of the memory store. Its proposer is the environment:
whether each proposal goes through, at each call. The allocator reads
the store's watch queue from the start; other components write tasks
through `MemoryStore.update`. The services the tasks belong to are
given by what the task path reads of them (`ServiceView`).

# Reading the source

`pendingTasks` and `unallocatedTasks` are maps from ID to a pointer:
allocating a queued task changes the entry itself, so here every
allocated task is written back under its ID. Go's map order is the
queue's order.
-/

namespace SwarmKit.Allocator.Tasks

open SwarmKit.Store
open SwarmKit.Scheduler (TaskState)

-- =========================== tasks

/-- `api.NetworkAttachment`: the network and the addresses allocated on
it. -/
structure NetworkAttachment where
  network : Nat
  addresses : List Nat
  deriving DecidableEq, Repr

/-- What the task path reads and writes of a task: its service, the
networks its spec asks for, its attachments, the service endpoint copied
to it, and its desired and observed state. -/
structure TaskBody where
  serviceID : Option Nat
  specNetworks : List Nat
  networks : List NetworkAttachment
  endpoint : Option Nat
  desiredState : TaskState
  state : TaskState
  deriving DecidableEq, Repr

/-- A task object of the store. -/
abbrev Task := Object TaskBody

/-- What the task path reads of a service: whether the network allocator
holds it (`IsServiceAllocated`), its endpoint, whether it needs the
ingress network, and its spec's networks. -/
structure ServiceView where
  allocated : Bool
  endpoint : Option Nat
  ingressNeeded : Bool
  networks : List Nat

/-- The task with other attachments. -/
def Task.withNetworks (t : Task) (networks : List NetworkAttachment) : Task :=
  { t with body := { t.body with networks } }

/-- `tasks[t.ID] = t`. -/
def putTask (q : List Task) (t : Task) : List Task :=
  if q.any (·.id == t.id) then q.map fun p => if p.id = t.id then t else p else q ++ [t]

/-- `delete(tasks, id)`. -/
def dropTask (q : List Task) (id : Nat) : List Task := q.filter (·.id ≠ id)

-- ========================= network

/-- `cnmNetworkAllocator`, its task part: the IPAM pool of each network it
holds, and `tasks`, the tasks whose addresses it holds. -/
structure NetworkState where
  pools : Nat → Option Idm
  tasks : List Nat

/-- The allocator with one network's pool replaced. -/
def NetworkState.setPool (na : NetworkState) (network : Nat) (pool : Idm) : NetworkState :=
  { na with pools := Function.update na.pools network (some pool) }

/-- `IsTaskAllocated`: the allocator holds the task, the task has an
attachment, and the first address of each is in its network's pool. -/
def NetworkState.isTaskAllocated (na : NetworkState) (t : Task) : Bool :=
  t.id ∈ na.tasks && !t.body.networks.isEmpty &&
    t.body.networks.all fun a =>
      match na.pools a.network, a.addresses with
      | some pool, addr :: _ => decide (addr ∈ pool.taken)
      | _, _ => false

/-- Why an IPAM request failed. -/
inductive IPAMErr
  /-- "could not find network allocator state for network" -/
  | noNetworkState
  /-- "could not find an available IP" -/
  | noAvailableIP
  /-- the address asked for is taken -/
  | alreadyAllocated
  deriving DecidableEq, Repr

/-- The loop of `allocateNetworkIPs` over the addresses an attachment
asks for: the first one the pool gives. -/
def requestAddress (pool : Idm) : List Nat → Except IPAMErr Idm
  | [] => .error .noAvailableIP
  | addr :: rest =>
    match pool.getSpecificID addr with
    | .ok pool => .ok pool
    | .error .bitAllocated => .error .alreadyAllocated
    -- out of the pool's range: the next address
    | .error _ => requestAddress pool rest

/-- `allocateNetworkIPs`: an attachment without addresses gets the next
free one. -/
def NetworkState.allocateNetworkIPs (na : NetworkState) (a : NetworkAttachment) :
    Except IPAMErr (NetworkState × NetworkAttachment) :=
  match na.pools a.network with
  | none => .error .noNetworkState
  | some pool =>
    match a.addresses with
    | [] =>
      match pool.getID with
      | .ok (ip, pool) => .ok (na.setPool a.network pool, { a with addresses := [ip] })
      | .error _ => .error .noAvailableIP
    | addrs =>
      match requestAddress pool addrs with
      | .ok pool => .ok (na.setPool a.network pool, a)
      | .error e => .error e

/-- `releaseEndpoints`: each attachment's addresses released and
emptied; a network the allocator does not hold stops it. -/
def NetworkState.releaseEndpoints (na : NetworkState) :
    List NetworkAttachment → NetworkState × List NetworkAttachment × Option IPAMErr
  | [] => (na, [], none)
  | a :: rest =>
    match na.pools a.network with
    | none => (na, a :: rest, some .noNetworkState)
    | some pool =>
      let na := na.setPool a.network (a.addresses.foldl Idm.release pool)
      let (na, rest, err) := na.releaseEndpoints rest
      (na, { a with addresses := [] } :: rest, err)

/-- The loop of `AllocateTask`: each attachment allocated in turn; on a
failure those allocated before it are released. -/
def NetworkState.allocateAttachments (na : NetworkState) (done : List NetworkAttachment) :
    List NetworkAttachment → NetworkState × List NetworkAttachment × Option IPAMErr
  | [] => (na, done, none)
  | a :: rest =>
    match na.allocateNetworkIPs a with
    | .ok (na, a) => na.allocateAttachments (done ++ [a]) rest
    | .error e =>
      let (na, done, _) := na.releaseEndpoints done
      (na, done ++ a :: rest, some e)

/-- `AllocateTask`: on success the allocator holds the task. -/
def NetworkState.allocateTask (na : NetworkState) (t : Task) : NetworkState × Task × Option IPAMErr :=
  match na.allocateAttachments [] t.body.networks with
  | (na, networks, none) =>
    ({ na with tasks := if t.id ∈ na.tasks then na.tasks else t.id :: na.tasks }, t.withNetworks networks, none)
  | (na, networks, some e) => (na, t.withNetworks networks, some e)

/-- `DeallocateTask`. -/
def NetworkState.deallocateTask (na : NetworkState) (t : Task) : NetworkState × Task × Option IPAMErr :=
  match { na with tasks := na.tasks.erase t.id }.releaseEndpoints t.body.networks with
  | (na, networks, err) => (na, t.withNetworks networks, err)

-- ======================= allocator

/-- `networkContext`, its task part, with the ballot: the network
allocator, the tasks the network voter has voted for, the tasks waiting
for this round and for a retry, the ingress network, and whether
something was deallocated since the last retry. -/
structure TaskCtx where
  nwkAllocator : NetworkState
  votes : List Nat
  pendingTasks : List Task
  unallocatedTasks : List Task
  ingressNetwork : Option Nat
  somethingWasDeallocated : Bool

/-- `taskAllocateVote(networkVoter, id)`: the first vote for a task is
recorded and completes the ballot; a later one is refused. -/
def TaskCtx.taskAllocateVote (c : TaskCtx) (id : Nat) : TaskCtx × Bool :=
  if id ∈ c.votes then (c, false) else ({ c with votes := id :: c.votes }, true)

/-- Why `allocateTask` changed nothing in the store's eyes. -/
inductive AllocateTaskErr
  /-- `errNoChanges`, "task unchanged" -/
  | noChanges
  /-- "could not find service" -/
  | serviceNotFound
  /-- "service ... has pending allocations" -/
  | serviceNotAllocated
  /-- "network ... attached to task ... not allocated yet" -/
  | networkNotAllocated
  | ipam (e : IPAMErr)
  deriving DecidableEq, Repr

/-- The part of `allocateTask` inside its `View`: the service's endpoint
copied, the networks checked, and the addresses allocated; whether the
task changed. -/
def TaskCtx.allocateAddresses (c : TaskCtx) (services : Nat → Option ServiceView) (t : Task) :
    TaskCtx × Task × Bool × Option AllocateTaskErr :=
  let withService : Except AllocateTaskErr (Task × Bool) :=
    match t.body.serviceID with
    | none => .ok (t, false)
    | some sid =>
      match services sid with
      | none => .error .serviceNotFound
      | some s =>
        if !s.allocated then .error .serviceNotAllocated
        else
          match s.endpoint with
          | some e => .ok ({ t with body := { t.body with endpoint := some e } }, true)
          | none => .ok (t, false)
  match withService with
  | .error e => (c, t, false, some e)
  | .ok (t, updated) =>
    if t.body.networks.any fun a => (c.nwkAllocator.pools a.network).isNone then
      (c, t, updated, some .networkNotAllocated)
    else
      match c.nwkAllocator.allocateTask t with
      | (na, t, some e) => ({ c with nwkAllocator := na }, t, updated, some (.ipam e))
      | (na, t, none) => ({ c with nwkAllocator := na }, t, updated || na.isTaskAllocated t, none)

/-- `allocateTask`: the addresses, unless the allocator holds them
already (an allocation not committed), then the network vote, which
moves the task to `PENDING` when it completes the ballot. -/
def TaskCtx.allocateTask (c : TaskCtx) (services : Nat → Option ServiceView) (t : Task) :
    TaskCtx × Task × Option AllocateTaskErr :=
  let (c, t, updated, err) :=
    if c.nwkAllocator.isTaskAllocated t then (c, t, false, none) else c.allocateAddresses services t
  match err with
  | some e => (c, t, some e)
  | none =>
    let (c, voted) := c.taskAllocateVote t.id
    let (t, updated) :=
      if voted ∧ t.body.state.rank < TaskState.pending.rank then
        ({ t with body := { t.body with state := .pending } }, true)
      else (t, updated)
    if updated then (c, t, none) else (c, t, some .noChanges)

/-- The callback of `commitAllocatedTask`: `UpdateTask`, and on a version
conflict the stored task with these attachments, endpoint, and (while
the stored one is below `PENDING`) status. -/
def commitAllocatedTask (now : Nat) (t : Task) (tx : Tx TaskBody) : Tx TaskBody × Option Err :=
  match tx.update .task t now with
  | .ok (tx, _) => (tx, none)
  | .error .sequenceConflict =>
    match tx.lookup .task t.id with
    | none => (tx, some .sequenceConflict)
    | some st =>
      let state := if st.body.state.rank < TaskState.pending.rank then t.body.state else st.body.state
      let body := { st.body with networks := t.body.networks, endpoint := t.body.endpoint, state }
      match tx.update .task { st with body } now with
      | .ok (tx, _) => (tx, none)
      | .error e => (tx, some e)
  | .error e => (tx, some e)

/-- `taskCreateNetworkAttachments`: a task without attachments gets one
for the ingress network (when its service needs it) and one for each
network of its spec, or else of its service's spec, that exists. -/
def TaskCtx.taskCreateNetworkAttachments (c : TaskCtx) (t : Task) (s : Option ServiceView) : Task :=
  if t.body.networks ≠ [] then t
  else
    let ingress := match s, c.ingressNetwork with
      | some s, some n => if s.ingressNeeded then [n] else []
      | _, _ => []
    let specNetworks := if t.body.specNetworks = [] then (s.map (·.networks)).getD [] else t.body.specNetworks
    let specNetworks := specNetworks.filter fun n => (c.nwkAllocator.pools n).isSome
    t.withNetworks ((ingress ++ specNetworks).map fun n => ⟨n, []⟩)

/-- The first loop of `procTasksNetwork`: each task of the map allocated,
its entry changed with it; the entries after, and the tasks allocated. -/
def TaskCtx.allocateEach (c : TaskCtx) (services : Nat → Option ServiceView) :
    List Task → TaskCtx × List Task × List Task
  | [] => (c, [], [])
  | t :: ts =>
    let (c, t, err) := c.allocateTask services t
    let (c, ts, allocated) := c.allocateEach services ts
    (c, t :: ts, if err.isNone then t :: allocated else allocated)

/-- The batch of `procTasksNetwork`: each allocated task committed, a
failure logged; the IDs committed. -/
def commitEach (p : Option (Proposer TaskBody)) (size : StoreAction TaskBody → Nat) (now : Nat) :
    List Task → Batch TaskBody → MemoryStore TaskBody →
      ((Batch TaskBody × MemoryStore TaskBody) × Option Err) × List Nat
  | [], b, s => (((b, s), none), [])
  | t :: ts, b, s =>
    match b.update p size (commitAllocatedTask now t) s with
    | ((b, s), some _) => commitEach p size now ts b s
    | ((b, s), none) =>
      let (r, committed) := commitEach p size now ts b s
      (r, t.id :: committed)

/-- The environment of the task path: the proposer, the size of a store
action, and the services. -/
structure Env where
  p : Proposer TaskBody
  size : StoreAction TaskBody → Nat
  services : Nat → Option ServiceView

/-- `procTasksNetwork`: the pending tasks, or on a retry the unallocated
ones, allocated and committed in one batch; those committed leave the
map, and a failed batch puts every task it tried back. -/
def TaskCtx.procTasksNetwork (c : TaskCtx) (env : Env) (s : MemoryStore TaskBody) (now : Nat)
    (onRetry : Bool) : TaskCtx × MemoryStore TaskBody :=
  let toAllocate := if onRetry then c.unallocatedTasks else c.pendingTasks
  let (c, toAllocate, allocated) := c.allocateEach env.services toAllocate
  let (toAllocate, s) :=
    if allocated = [] then (toAllocate, s)
    else
      let ((s, err), committed) := MemoryStore.batchWith (some env.p) (commitEach (some env.p) env.size now allocated) s
      let toAllocate := toAllocate.filter (·.id ∉ committed)
      match err with
      | none => (toAllocate, s)
      | some _ => (allocated.foldl putTask toAllocate, s)
  (if onRetry then { c with unallocatedTasks := toAllocate } else { c with pendingTasks := toAllocate }, s)

/-- `doTaskAlloc` on one task (the store's for a create or update, the
deleted one for a delete): a task past `RUNNING` or deleted is freed;
one at `PENDING` or later needs nothing; any other waits in
`pendingTasks` with its attachments. -/
def TaskCtx.taskEvent (c : TaskCtx) (services : Nat → Option ServiceView) (isDelete : Bool) :
    Option Task → TaskCtx
  | none => c
  | some t =>
    if TaskState.running.rank < t.body.state.rank ∨ isDelete then
      let c :=
        if c.nwkAllocator.isTaskAllocated t then
          match c.nwkAllocator.deallocateTask t with
          | (na, _, none) => { c with nwkAllocator := na, somethingWasDeallocated := true }
          | (na, _, some _) => { c with nwkAllocator := na }
        else c
      { c with pendingTasks := dropTask c.pendingTasks t.id, unallocatedTasks := dropTask c.unallocatedTasks t.id }
    else if TaskState.pending.rank ≤ t.body.state.rank then
      { c with pendingTasks := dropTask c.pendingTasks t.id, unallocatedTasks := dropTask c.unallocatedTasks t.id }
    else
      match t.body.serviceID with
      | none => { c with pendingTasks := putTask c.pendingTasks (c.taskCreateNetworkAttachments t none) }
      | some sid =>
        match services sid with
        -- "could not find service": logged, the task waits for another event
        | none => c
        | some s => { c with pendingTasks := putTask c.pendingTasks (c.taskCreateNetworkAttachments t (some s)) }

/-- `doTaskAlloc`. -/
def TaskCtx.doTaskAlloc (c : TaskCtx) (services : Nat → Option ServiceView) (root : Db TaskBody) :
    Event TaskBody → TaskCtx
  | .create .task o => c.taskEvent services false (root .task o.id)
  | .update .task o _ => c.taskEvent services false (root .task o.id)
  | .delete .task o => c.taskEvent services true (some o)
  | _ => c

/-- The task part of `EventCommit`: the pending tasks, then on a retry
the unallocated ones; what is still pending waits for a retry. -/
def TaskCtx.onCommit (c : TaskCtx) (env : Env) (s : MemoryStore TaskBody) (now : Nat) (retryDue : Bool) :
    TaskCtx × MemoryStore TaskBody :=
  let (c, s) := c.procTasksNetwork env s now false
  let (c, s) :=
    if retryDue || c.somethingWasDeallocated then
      let (c, s) := c.procTasksNetwork env s now true
      ({ c with somethingWasDeallocated := false }, s)
    else (c, s)
  ({ c with unallocatedTasks := c.pendingTasks.foldl putTask c.unallocatedTasks, pendingTasks := [] }, s)

-- ======================== the runs

/-- The store, the allocator, and how much of the watch queue it has
handled. -/
structure World where
  store : MemoryStore TaskBody
  ctx : TaskCtx
  seen : Nat

/-- An empty store and a new allocator holding the networks `pools`. -/
def World.init (pools : Nat → Option Idm) : World := ⟨MemoryStore.new TaskBody, ⟨⟨pools, []⟩, [], [], [], none, false⟩, 0⟩

/-- Another component's write, or the allocator handling its next event. -/
inductive Act
  /-- A new task. -/
  | createTask (id : Nat) (body : TaskBody) (now : Nat)
  /-- A write of the task's desired state. -/
  | setDesiredState (id : Nat) (desiredState : TaskState) (now : Nat)
  /-- The allocator handles its next event; `retryDue` says whether the
  retry interval has passed. -/
  | deliver (retryDue : Bool) (now : Nat)

/-- One write through the store, or one event handled. -/
def step (env : Env) : Act → World → Option World
  | .createTask id body now, w =>
    let t : Task := ⟨id, ⟨⟨0⟩, none, none⟩, body⟩
    some { w with store := (w.store.update (some env.p) fun tx => runOps tx [.create .task t now]).1 }
  | .setDesiredState id desiredState now, w =>
    match w.store.root .task id with
    | none => none
    | some t =>
      let t := { t with body := { t.body with desiredState } }
      some { w with store := (w.store.update (some env.p) fun tx => runOps tx [.update .task t now]).1 }
  | .deliver retryDue now, w =>
    match w.store.queue[w.seen]? with
    | none => none
    | some (.commit _) =>
      let (ctx, store) := w.ctx.onCommit env w.store now retryDue
      some ⟨store, ctx, w.seen + 1⟩
    | some ev => some { w with ctx := w.ctx.doTaskAlloc env.services w.store.root ev, seen := w.seen + 1 }

end SwarmKit.Allocator.Tasks

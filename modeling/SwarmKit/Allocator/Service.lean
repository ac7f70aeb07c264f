import SwarmKit.Allocator.Ports
import SwarmKit.Store.Memory

/-
The allocator's service loop (manager/allocator/network.go
`allocateService`, `commitAllocatedService`, `procUnallocatedServices`,
`updatePortsInHostPublishMode` and the service cases of
`doNetworkAlloc`; cnmallocator/networkallocator.go `IsServiceAllocated`
and the VIP part of `AllocateService` and `DeallocateService`;
portallocator.go `isPortsAllocatedOnInit` and
`hostPublishPortsNeedUpdate`), over the port allocator of `Ports.lean`.

# Objects

A service passes between the store and the allocator as an object: the
service of `Ports.lean`, its version, and whether its endpoint holds a
VIP on the ingress network. The services here attach to no network of
their own, so that VIP is the only one an endpoint can hold, and the
cnm allocator's `services` (the IDs whose VIPs it holds) is kept beside
its port allocator. Whether allocating a VIP succeeds is the
environment's choice.

# The store and its batches

The store keeps one object per ID; `UpdateService` refuses an object
whose version is not the stored one. A batch runs the allocator's
updates in one transaction, which the store commits at the
`batch.Update` that brings it to `MaxChangesPerTransaction` changes or
to the size bound, and at the end. The sizes and whether each commit
goes through are the environment's choice, `BatchOutcome`. A refused commit
aborts the transaction and fails every later `batch.Update`; the last
commit then proposes the aborted changes again, which changes nothing
in this store even when it goes through.

# Events

Every commit appends its changes and an `EventCommit` to the queue the
allocator reads, the allocator's own commits too. The allocator handles
the queue's head: `EventCreateService` and `EventUpdateService` read the
service from the store, `EventDeleteService` frees what the deleted
object records, and `EventCommit` runs `procUnallocatedServices` when
the retry is due (the time is the environment's choice) or something
was deallocated.

# Reading the source

`unallocatedServices` is a map from ID to a pointer: allocating or
rolling back a queued service changes the entry itself, so here every
such change is written back under the service's ID. Go's map order is
the queue's order here.
-/

namespace SwarmKit.Allocator

/-- The ports of the spec's endpoint. -/
def Service.specPorts (s : Service) : List PortConfig := (s.spec.endpoint.map (·.ports)).getD []

namespace Network

-- ========================= objects

/-- A service as the store and the allocator hold it: its version, and
whether its endpoint holds the ingress network's VIP. -/
structure ServiceObject extends Service where
  version : Nat
  ingressVIP : Bool
  deriving DecidableEq, Repr

/-- `IsIngressNetworkNeeded`: an ingress port in the spec. -/
def isIngressNetworkNeeded (s : Service) : Bool :=
  match s.spec.endpoint with
  | none => false
  | some endpoint => endpoint.ports.any (·.publishMode == .ingress)

/-- The spec asks for DNS round robin. -/
def isDNSRR (s : Service) : Bool := s.spec.endpoint.any (·.mode == .dnsrr)

-- ===================== port checks

/-- The first loop of `isPortsAllocatedOnInit`: every published ingress
port of the spec finds its state. -/
def delPublished (states : List PortConfig) : List PortConfig → Option (List PortConfig)
  | [] => some states
  | pc :: rest =>
    if pc.publishMode = .ingress ∧ pc.publishedPort ≠ 0 then
      match delState states pc with
      | (none, _) => none
      | (some _, states) => delPublished states rest
    else delPublished states rest

/-- The second loop of `isPortsAllocatedOnInit`: every unpublished
ingress port finds a state (and none counts during the initial pass),
and every host port's target port is one of the endpoint's. -/
def checkUnpublished (onInit : Bool) (hostTargetPorts : List Nat) :
    List PortConfig → List PortConfig → Bool
  | _, [] => true
  | states, pc :: rest =>
    match pc.publishMode with
    | .ingress =>
      if pc.publishedPort = 0 then
        match delState states pc with
        | (none, _) => false
        | (some _, states) => !onInit && checkUnpublished onInit hostTargetPorts states rest
      else checkUnpublished onInit hostTargetPorts states rest
    | .host => hostTargetPorts.contains pc.targetPort && checkUnpublished onInit hostTargetPorts states rest

/-- `portAllocator.isPortsAllocatedOnInit`. -/
def isPortsAllocatedOnInit (s : Service) (onInit : Bool) : Bool :=
  match s.endpoint, s.spec.endpoint with
  | none, none => true
  | some _, none => false
  | none, some _ => false
  | some endpoint, some spec =>
    if spec.ports.length ≠ endpoint.ports.length then false
    else
      let portStates := (endpoint.ports.filter (·.publishMode == .ingress)).foldl addState []
      let hostTargetPorts := (endpoint.ports.filter (·.publishMode == .host)).map (·.targetPort)
      match delPublished portStates spec.ports with
      | none => false
      | some portStates => checkUnpublished onInit hostTargetPorts portStates spec.ports

/-- The loop of `hostPublishPortsNeedUpdate`: a published host port of
the spec without its state. -/
def hostPortMissing (states : List PortConfig) : List PortConfig → Bool
  | [] => false
  | pc :: rest =>
    if pc.publishMode = .host ∧ pc.publishedPort ≠ 0 then
      match delState states pc with
      | (none, _) => true
      | (some _, states) => hostPortMissing states rest
    else hostPortMissing states rest

/-- `portAllocator.hostPublishPortsNeedUpdate`. -/
def hostPublishPortsNeedUpdate (s : Service) : Bool :=
  match s.endpoint, s.spec.endpoint with
  | none, none => false
  | _, _ =>
    let portStates := (s.endpointPorts.filter (·.publishMode == .host)).foldl addState []
    hostPortMissing portStates s.specPorts

/-- `updatePortsInHostPublishMode`: the endpoint's host ports replaced by
the spec's, and the endpoint's spec by the service's. -/
def updatePortsInHostPublishMode (s : Service) : Service :=
  let s : Service := match s.endpoint with
    | none => s
    | some endpoint => { s with endpoint := some { endpoint with ports := endpoint.ports.filter (·.publishMode != PublishMode.host) } }
  let s : Service := match s.spec.endpoint with
    | none => s
    | some endpointSpec =>
      let endpoint : Endpoint := s.endpoint.getD ⟨none, []⟩
      let hostPorts := endpointSpec.ports.filter (·.publishMode == .host)
      { s with endpoint := some { endpoint with ports := endpoint.ports ++ hostPorts } }
  match s.endpoint with
  | none => s
  | some endpoint => { s with endpoint := some { endpoint with spec := s.spec.endpoint } }

-- =================== cnm allocator

/-- `cnmNetworkAllocator`: its port allocator, and `services`, the IDs of
the services whose VIPs it holds. -/
structure CnmNetworkAllocator where
  ports : NetworkAllocator
  services : List Nat

/-- `DeallocateService`: the VIP and every ingress port of the endpoint
freed. -/
def CnmNetworkAllocator.deallocateService (na : CnmNetworkAllocator) (o : ServiceObject) :
    CnmNetworkAllocator × ServiceObject :=
  match o.endpoint with
  | none => (na, o)
  | some _ =>
    let (ports, s) := na.ports.deallocateService o.toService
    (⟨ports, na.services.erase o.id⟩, { o with toService := s, ingressVIP := false })

/-- `AllocateService`: the ports, then the VIPs. A DNSRR spec frees the
VIP; otherwise the ingress VIP is kept, and allocated (`vipOk`), while
the spec has an ingress port, and freed when it has none. A VIP that
cannot be allocated deallocates the service. -/
def CnmNetworkAllocator.allocateService (na : CnmNetworkAllocator) (o : ServiceObject) (vipOk : Bool) :
    CnmNetworkAllocator × ServiceObject × Option AllocErr :=
  let keep := !isDNSRR o.toService && o.ingressVIP && isIngressNetworkNeeded o.toService
  match na.ports.allocateService o.toService (!keep || vipOk) with
  | (ports, s, some (.ports e)) => (⟨ports, na.services⟩, { o with toService := s }, some (.ports e))
  | (ports, s, some .vip) => (⟨ports, na.services.erase o.id⟩, { o with toService := s, ingressVIP := false }, some .vip)
  | (ports, s, none) =>
    let services := if keep then o.id :: na.services.erase o.id else na.services.erase o.id
    (⟨ports, services⟩, { o with toService := s, ingressVIP := keep }, none)

/-- `IsServiceAllocated`, for a service of no network of its own: an
ingress VIP only while the spec needs it and the allocator holds it, no
VIP held for a DNSRR spec, and the ports allocated. -/
def CnmNetworkAllocator.isServiceAllocated (na : CnmNetworkAllocator) (o : ServiceObject) (onInit : Bool) : Bool :=
  (!(o.endpoint.isSome && o.ingressVIP) || (isIngressNetworkNeeded o.toService && na.services.contains o.id)) &&
  !(isDNSRR o.toService && na.services.contains o.id) &&
  (if o.specPorts ≠ [] ∨ o.endpointPorts ≠ [] then isPortsAllocatedOnInit o.toService onInit else true)

-- =========================== store

/-- The store's services by ID. -/
structure Store where
  services : Nat → Option ServiceObject

/-- The store with no service. -/
def Store.empty : Store := ⟨fun _ => none⟩

/-- `GetService`. -/
def Store.getService (st : Store) (id : Nat) : Option ServiceObject := st.services id

/-- The store with `o` under its ID. -/
def Store.put (st : Store) (o : ServiceObject) : Store := ⟨Function.update st.services o.id (some o)⟩

/-- The store without the service `id`. -/
def Store.delete (st : Store) (id : Nat) : Store := ⟨Function.update st.services id none⟩

/-- Why a store write failed. -/
inductive StoreErr
  | notExist
  | sequenceConflict
  /-- The batch's commit was refused, at this call or before it. -/
  | commitRefused
  deriving DecidableEq, Repr

/-- `UpdateService`: the object written, its version the next. -/
def Store.updateService (st : Store) (o : ServiceObject) : Except StoreErr (Store × ServiceObject) :=
  match st.getService o.id with
  | none => .error .notExist
  | some cur =>
    if cur.version ≠ o.version then .error .sequenceConflict
    else
      let o := { o with version := o.version + 1 }
      .ok (st.put o, o)

/-- What the allocator sees of the store. -/
inductive Event
  | createService (o : ServiceObject)
  | updateService (o : ServiceObject)
  | deleteService (o : ServiceObject)
  | commit
  deriving DecidableEq, Repr

/-- The events a commit publishes: one per change, then `EventCommit`. -/
def changeEvents (changelist : List ServiceObject) : List Event :=
  if changelist = [] then [] else changelist.map .updateService ++ [.commit]

-- ========================= batches

/-- Where `batch.Update` commits: once the transaction holds
`MaxChangesPerTransaction` changes or three quarters of
`MaxTransactionBytes`. -/
def splitsAt (changes bytes : Nat) : Bool :=
  decide (Store.MaxChangesPerTransaction ≤ changes ∨ Store.MaxTransactionBytes * 3 / 4 ≤ bytes)

/-- The store's side of one batch: the size of each change's store
action (`sa.Size()`), whether the commit at a `batch.Update` that splits
the batch goes through, by call, and whether the last commit does. -/
structure BatchOutcome (α : Type) where
  size : α → Nat
  splitOk : Nat → Bool
  committed : Bool

/-- A batch under way over a store `σ` of objects `α`: the store as
committed, the transaction's view of it, the changes since the last
commit and the size of their store actions, the calls made, whether a
commit was refused (`batch.err`), and the changes of each commit. -/
structure BatchState (σ α : Type) where
  store : σ
  tx : σ
  changelist : List α
  bytes : Nat
  calls : Nat
  failed : Bool
  commits : List (List α)

section Batch

variable {σ α : Type}

/-- A new batch over the store. -/
def BatchState.init (st : σ) : BatchState σ α := ⟨st, st, [], 0, 0, false, []⟩

/-- `batch.Update`: the callback in the transaction, then the commit
where the batch splits. -/
def BatchState.update (b : BatchState σ α) (out : BatchOutcome α)
    (cb : σ → Except StoreErr (σ × α)) : BatchState σ α × Option StoreErr :=
  let k := b.calls
  let b := { b with calls := k + 1 }
  if b.failed then (b, some .commitRefused)
  else
    match cb b.tx with
    | .error e => (b, some e)
    | .ok (tx, o) =>
      let b := { b with tx, changelist := b.changelist ++ [o], bytes := b.bytes + out.size o }
      if !splitsAt b.changelist.length b.bytes then (b, none)
      else if out.splitOk k then
        ({ b with store := b.tx, changelist := [], bytes := 0, commits := b.commits ++ [b.changelist] }, none)
      -- the transaction aborted; its changelist stays for the last commit
      else ({ b with failed := true }, some .commitRefused)

/-- `MemoryStore.Batch` after its callback (`cbErr`: the callback
failed): the store, the changes of each commit, and whether it returned
no error. -/
def BatchState.finish (b : BatchState σ α) (out : BatchOutcome α) (cbErr : Bool) : σ × List (List α) × Bool :=
  if cbErr then (b.store, b.commits, false)
  else if b.failed then
    -- the aborted changes proposed again: the store keeps what it has
    if out.committed then (b.store, b.commits ++ [b.changelist], true) else (b.store, b.commits, false)
  else if b.changelist = [] then (b.store, b.commits, true)
  else if out.committed then (b.tx, b.commits ++ [b.changelist], true)
  else (b.store, b.commits, false)

end Batch

-- ======================= allocator

/-- `networkContext`, its service part: the cnm allocator, the services
waiting for a retry, whether the ingress network exists, and whether
something was deallocated since the last retry. -/
structure NetCtx where
  nwkAllocator : CnmNetworkAllocator
  unallocatedServices : List ServiceObject
  ingressNetwork : Bool
  somethingWasDeallocated : Bool

/-- `unallocatedServices[o.ID] = o`. -/
def setUnallocated (q : List ServiceObject) (o : ServiceObject) : List ServiceObject :=
  if q.any (·.id == o.id) then q.map fun p => if p.id = o.id then o else p else q ++ [o]

/-- `delete(unallocatedServices, id)`. -/
def deleteUnallocated (q : List ServiceObject) (id : Nat) : List ServiceObject := q.filter (·.id ≠ id)

/-- Why `allocateService` failed. -/
inductive ServiceAllocErr
  /-- "ingress network is missing" -/
  | ingressNetworkMissing
  | allocate (e : AllocErr)
  deriving DecidableEq, Repr

/-- An endpoint for the spec's, when the service has none. -/
def ServiceObject.ensureEndpoint (o : ServiceObject) (spec : EndpointSpec) : ServiceObject :=
  match o.endpoint with
  | none => { o with endpoint := some ⟨some spec, []⟩ }
  | some _ => o

/-- The first part of `allocateService`: an endpoint for the spec's,
attached to the ingress network when the spec has an ingress port; no
endpoint spec frees what the endpoint holds. -/
def NetCtx.prepareService (nc : NetCtx) (o : ServiceObject) (existingAddressesOnly : Bool) :
    Except (ServiceAllocErr × ServiceObject) (NetCtx × ServiceObject) :=
  match o.spec.endpoint with
  | some spec =>
    let o := o.ensureEndpoint spec
    if isIngressNetworkNeeded o.toService then
      if nc.ingressNetwork then .ok (nc, { o with ingressVIP := true })
      else .error (.ingressNetworkMissing, o)
    else .ok (nc, o)
  | none =>
    if o.endpoint.isSome && !existingAddressesOnly then
      let (na, o) := nc.nwkAllocator.deallocateService o
      .ok ({ nc with nwkAllocator := na, somethingWasDeallocated := true }, o)
    else .ok (nc, o)

/-- `Allocator.allocateService`: a failure of `AllocateService` queues
the service for a retry. -/
def NetCtx.allocateService (nc : NetCtx) (o : ServiceObject) (existingAddressesOnly vipOk : Bool) :
    NetCtx × ServiceObject × Option ServiceAllocErr :=
  match nc.prepareService o existingAddressesOnly with
  | .error (e, o) => (nc, o, some e)
  | .ok (nc, o) =>
    match nc.nwkAllocator.allocateService o vipOk with
    | (na, o, some e) =>
      ({ nc with nwkAllocator := na, unallocatedServices := setUnallocated nc.unallocatedServices o }, o,
        some (.allocate e))
    | (na, o, none) =>
      -- a lingering ingress VIP of a spec without ingress ports dropped
      let o := if !isIngressNetworkNeeded o.toService && nc.ingressNetwork then { o with ingressVIP := false } else o
      ({ nc with nwkAllocator := na }, o, none)

/-- The callback of `commitAllocatedService`: `UpdateService`, and on a
version conflict the stored service with this endpoint. -/
def commitUpdate (o : ServiceObject) (tx : Store) : Except StoreErr (Store × ServiceObject) :=
  match tx.updateService o with
  | .error .sequenceConflict =>
    match tx.getService o.id with
    | none => .error .sequenceConflict
    | some cur => tx.updateService { cur with endpoint := o.endpoint, ingressVIP := o.ingressVIP }
  | r => r

/-- `commitAllocatedService`: the update in the batch; when it fails, the
allocation rolled back by `DeallocateService`. Whether it failed comes
last. -/
def NetCtx.commitAllocatedService (nc : NetCtx) (out : BatchOutcome ServiceObject)
    (b : BatchState Store ServiceObject) (o : ServiceObject) :
    NetCtx × BatchState Store ServiceObject × ServiceObject × Bool :=
  match b.update out (commitUpdate o) with
  | (b, none) => (nc, b, o, false)
  | (b, some _) =>
    let (na, o) := nc.nwkAllocator.deallocateService o
    ({ nc with nwkAllocator := na }, b, o, true)

/-- The first loop of `procUnallocatedServices`: each queued service the
allocator does not hold allocated, its entry changed with it; those
allocated are returned. -/
def NetCtx.allocateQueued (nc : NetCtx) (vipOk : Nat → Bool) :
    List ServiceObject → NetCtx × List ServiceObject
  | [] => (nc, [])
  | o :: rest =>
    if nc.nwkAllocator.isServiceAllocated o false then nc.allocateQueued vipOk rest
    else
      match nc.allocateService o false (vipOk o.id) with
      | (nc, o, some _) =>
        let nc := { nc with unallocatedServices := setUnallocated nc.unallocatedServices o }
        nc.allocateQueued vipOk rest
      | (nc, o, none) =>
        let nc := { nc with unallocatedServices := setUnallocated nc.unallocatedServices o }
        let (nc, allocated) := nc.allocateQueued vipOk rest
        (nc, o :: allocated)

/-- The batch of `procUnallocatedServices`: each allocated service
committed, dropped from the queue when that went through and left
there, rolled back, when not. -/
def NetCtx.commitQueued (nc : NetCtx) (out : BatchOutcome ServiceObject)
    (b : BatchState Store ServiceObject) :
    List ServiceObject → NetCtx × BatchState Store ServiceObject × List ServiceObject
  | [] => (nc, b, [])
  | o :: rest =>
    match nc.commitAllocatedService out b o with
    | (nc, b, o, true) =>
      let nc := { nc with unallocatedServices := setUnallocated nc.unallocatedServices o }
      let (nc, b, committed) := nc.commitQueued out b rest
      (nc, b, o :: committed)
    | (nc, b, o, false) =>
      let nc := { nc with unallocatedServices := deleteUnallocated nc.unallocatedServices o.id }
      let (nc, b, committed) := nc.commitQueued out b rest
      (nc, b, o :: committed)

/-- `procUnallocatedServices`: a failed batch queues every service it
tried again. -/
def NetCtx.procUnallocatedServices (nc : NetCtx) (st : Store) (vipOk : Nat → Bool)
    (out : BatchOutcome ServiceObject) :
    NetCtx × Store × List Event :=
  match nc.allocateQueued vipOk nc.unallocatedServices with
  | (nc, []) => (nc, st, [])
  | (nc, allocated) =>
    let (nc, b, allocated) := nc.commitQueued out (BatchState.init st) allocated
    match b.finish out false with
    | (st, commits, true) => (nc, st, commits.flatMap changeEvents)
    | (st, commits, false) =>
      ({ nc with unallocatedServices := allocated.foldl setUnallocated nc.unallocatedServices }, st,
        commits.flatMap changeEvents)

/-- The end of `EventUpdateService`: the service committed in a batch of
its own, dropped from the queue when the batch went through and queued,
as the commit left it, when not. -/
def NetCtx.commitUpdated (nc : NetCtx) (st : Store) (out : BatchOutcome ServiceObject) (o : ServiceObject) :
    NetCtx × Store × List Event :=
  match nc.commitAllocatedService out (BatchState.init st) o with
  | (nc, b, o, err) =>
    match b.finish out err with
    | (st, commits, true) =>
      ({ nc with unallocatedServices := deleteUnallocated nc.unallocatedServices o.id }, st, commits.flatMap changeEvents)
    | (st, commits, false) =>
      ({ nc with unallocatedServices := setUnallocated nc.unallocatedServices o }, st, commits.flatMap changeEvents)

/-- `EventCreateService`: the stored service allocated and committed,
unless the allocator holds it; a failed commit is only logged. -/
def NetCtx.onCreateService (nc : NetCtx) (st : Store) (vipOk : Nat → Bool)
    (out : BatchOutcome ServiceObject) (id : Nat) :
    NetCtx × Store × List Event :=
  match st.getService id with
  | none => (nc, st, [])
  | some o =>
    if nc.nwkAllocator.isServiceAllocated o false then (nc, st, [])
    else
      match nc.allocateService o false (vipOk id) with
      | (nc, _, some _) => (nc, st, [])
      | (nc, o, none) =>
        match nc.commitAllocatedService out (BatchState.init st) o with
        | (nc, b, _, err) =>
          let (st, commits, _) := b.finish out err
          (nc, st, commits.flatMap changeEvents)

/-- `EventUpdateService`: the stored service allocated again unless the
allocator holds it (then only its host ports brought up to date, when
they changed), and committed. -/
def NetCtx.onUpdateService (nc : NetCtx) (st : Store) (vipOk : Nat → Bool)
    (out : BatchOutcome ServiceObject) (id : Nat) :
    NetCtx × Store × List Event :=
  match st.getService id with
  | none => (nc, st, [])
  | some o =>
    if nc.nwkAllocator.isServiceAllocated o false then
      if hostPublishPortsNeedUpdate o.toService then
        nc.commitUpdated st out { o with toService := updatePortsInHostPublishMode o.toService }
      else (nc, st, [])
    else
      match nc.allocateService o false (vipOk id) with
      | (nc, _, some _) => (nc, st, [])
      | (nc, o, none) => nc.commitUpdated st out o

/-- `EventDeleteService`: what the deleted object records freed. -/
def NetCtx.onDeleteService (nc : NetCtx) (o : ServiceObject) : NetCtx :=
  let (na, _) := nc.nwkAllocator.deallocateService o
  { nc with
    nwkAllocator := na
    somethingWasDeallocated := true
    unallocatedServices := deleteUnallocated nc.unallocatedServices o.id }

/-- `EventCommit`: the retry, when it is due or something was
deallocated. -/
def NetCtx.onCommit (nc : NetCtx) (st : Store) (vipOk : Nat → Bool) (out : BatchOutcome ServiceObject)
    (retryDue : Bool) :
    NetCtx × Store × List Event :=
  if retryDue || nc.somethingWasDeallocated then
    let (nc, st, events) := nc.procUnallocatedServices st vipOk out
    ({ nc with somethingWasDeallocated := false }, st, events)
  else (nc, st, [])

/-- `doNetworkAlloc`, its service cases. -/
def NetCtx.doNetworkAlloc (nc : NetCtx) (st : Store) (vipOk : Nat → Bool) (out : BatchOutcome ServiceObject)
    (retryDue : Bool) : Event → NetCtx × Store × List Event
  | .createService o => nc.onCreateService st vipOk out o.id
  | .updateService o => nc.onUpdateService st vipOk out o.id
  | .deleteService o => (nc.onDeleteService o, st, [])
  | .commit => nc.onCommit st vipOk out retryDue

-- ======================== the runs

/-- The store, the allocator, and the events it has not handled yet. -/
structure World where
  store : Store
  nc : NetCtx
  queue : List Event

/-- An empty store and a new allocator, the ingress network there. -/
def World.init : World := ⟨Store.empty, ⟨⟨⟨newPortAllocator⟩, []⟩, [], true, false⟩, []⟩

/-- A user's write, or the allocator handling the next event with the
environment's choices. -/
inductive Act
  /-- `CreateService`: a new service, without an endpoint. -/
  | createService (id : Nat) (spec : ServiceSpec)
  /-- `UpdateService`: a new spec; the endpoint stays. -/
  | updateService (id : Nat) (spec : ServiceSpec)
  /-- `RemoveService`. -/
  | removeService (id : Nat)
  /-- The allocator handles the next event: which VIPs can be
  allocated, whether the retry is due, and what the store does with the
  batch. -/
  | deliver (vipOk : Nat → Bool) (retryDue : Bool) (out : BatchOutcome ServiceObject)

/-- One write, its events queued, or one event handled. -/
def step : Act → World → Option World
  | .createService id spec, w =>
    match w.store.getService id with
    | some _ => none
    | none =>
      let o : ServiceObject := ⟨⟨id, spec, none⟩, 0, false⟩
      some { w with store := w.store.put o, queue := w.queue ++ [.createService o, .commit] }
  | .updateService id spec, w =>
    match w.store.getService id with
    | none => none
    | some o =>
      let o := { o with spec, version := o.version + 1 }
      some { w with store := w.store.put o, queue := w.queue ++ [.updateService o, .commit] }
  | .removeService id, w =>
    match w.store.getService id with
    | none => none
    | some o => some { w with store := w.store.delete id, queue := w.queue ++ [.deleteService o, .commit] }
  | .deliver vipOk retryDue out, w =>
    match w.queue with
    | [] => none
    | event :: rest =>
      let (nc, st, events) := w.nc.doNetworkAlloc w.store vipOk out retryDue event
      some ⟨st, nc, rest ++ events⟩

end Network

end SwarmKit.Allocator

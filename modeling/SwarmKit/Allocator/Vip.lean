import Mathlib.Data.List.AList
import Mathlib.Data.Finset.Card
import SwarmKit.Allocator.Service

/-
The VIPs of the cnm network allocator (manager/allocator/cnmallocator
networkallocator.go `AllocateService`, `DeallocateService`,
`allocateVIP`, `deallocateVIP`, `IsVIPOnIngressNetwork`,
`serviceNetworks`; the IPAM driver's `RequestAddress` and
`ReleaseAddress`), over the port allocator of `Ports.lean`.

# Networks and addresses

The allocator keeps, per network it allocated, whether the network is
node-local or the ingress network, the IPAM pools of its subnets in
order, and `endpoints`: each address it handed out on the network with
the pool it came from. The IPAM keeps, per pool, the addresses taken,
as an ID manager (`Lib/Idm.lean`). Addresses are numbers; an empty
`Addr` is `none`.

# One call

`AllocateService` allocates the ports first. It then walks the
endpoint's VIPs: one on the ingress network of a service that needs it,
or on a network of the spec, is allocated and kept in `eVIPs`, any
other deallocated. Then every network of the spec with no VIP in the
endpoint's slice gets a new VIP, appended to `eVIPs`. The slice is
replaced by `eVIPs` only when both loops succeed; on a failure the
deferred `DeallocateService` frees the VIPs of the slice as it is, then
the ports.

# Reading the source

VIPs are pointers, and `allocateVIP` writes the address it finds into
the VIP. Here a VIP of the call is a reference: the `i`-th of the
endpoint's VIPs, or the `k`-th the call created, with the values in a
heap. `eVIPs := VirtualIPs[:0]` shares the slice's backing array, so
each element appended to `eVIPs` while it is shorter than the slice
overwrites the slice's element at that position: the slice reads the
first elements of `eVIPs` and then its own (`aliasView`). Resolving the
IPAM driver and parsing an address do not fail here.
-/

namespace SwarmKit.Allocator.Cnm

-- ======================== networks

/-- `api.Endpoint_VirtualIP`: its network, and its address, `none`
while it is empty. -/
structure VirtualIP where
  networkID : Nat
  addr : Option Nat
  deriving DecidableEq, Repr, Inhabited

/-- `network`: what the allocator keeps of a network it allocated. -/
structure LocalNetwork where
  isNodeLocal : Bool
  /-- `IsIngressNetwork(nw)`. -/
  ingress : Bool
  /-- Whether the network's spec names an IPAM driver, which makes the
  allocator ask for serial addresses. -/
  serial : Bool
  /-- The IDs of the IPAM pools of its subnets, in order. -/
  pools : List Nat
  /-- `endpoints`: each address handed out, with its pool. -/
  endpoints : AList fun _ : Nat => Nat

/-- `cnmNetworkAllocator`: the port allocator, the networks, the IPAM
pools, and `services`, the IDs of the services whose VIPs it holds. -/
structure CnmNetworkAllocator where
  portAllocator : PortAllocator
  networks : AList fun _ : Nat => LocalNetwork
  ipam : Nat → Option Idm
  services : List Nat

/-- A service as `AllocateService` reads it: the service of
`Ports.lean`, the targets of `serviceNetworks(s)`, and the endpoint's
VIPs. -/
structure VipService extends Service where
  networks : List Nat
  virtualIPs : List VirtualIP

-- ============================ IPAM

/-- The IPAM driver's errors that `allocateVIP` tells apart. -/
inductive IpamErr
  | notFound
  | outOfRange
  | noAvailableIPs
  | alreadyAllocated
  deriving DecidableEq, Repr

/-- `RequestAddress(poolID, prefAddress, opts)`: the preferred address
if given, else a free one, serially or from the start. -/
def requestAddress (ipam : Nat → Option Idm) (poolID : Nat) (pref : Option Nat) (serial : Bool) :
    Except IpamErr (Nat × (Nat → Option Idm)) :=
  match ipam poolID with
  | none => .error .notFound
  | some bm =>
    if pref.any fun a => ¬ (bm.start ≤ a ∧ a ≤ bm.stop) then .error .outOfRange
    else if bm.taken.card = bm.stop + 1 - bm.start then .error .noAvailableIPs
    else
      match pref with
      | some a =>
        match bm.getSpecificID a with
        | .ok bm => .ok (a, Function.update ipam poolID (some bm))
        | .error .outOfSet => .error .outOfRange
        | .error _ => .error .alreadyAllocated
      | none =>
        match if serial then bm.getID else bm.getFirstID with
        | .ok (a, bm) => .ok (a, Function.update ipam poolID (some bm))
        | .error _ => .error .noAvailableIPs

/-- `ReleaseAddress(poolID, address)`. -/
def releaseAddress (ipam : Nat → Option Idm) (poolID : Nat) (a : Nat) : Except IpamErr (Nat → Option Idm) :=
  match ipam poolID with
  | none => .error .notFound
  | some bm =>
    if bm.start ≤ a ∧ a ≤ bm.stop then .ok (Function.update ipam poolID (some (bm.release a)))
    else .error .outOfRange

-- ============================ VIPs

/-- Why a VIP could not be allocated. -/
inductive VipErr
  /-- "could not find local network state". -/
  | noNetwork
  /-- "could not allocate VIP from IPAM". -/
  | ipam (e : IpamErr)
  /-- "could not find an available IP while allocating VIP". -/
  | noAvailableIP
  deriving DecidableEq, Repr

namespace CnmNetworkAllocator

/-- The loop of `allocateVIP` over the network's pools: an address from
the first pool that has one. -/
def requestFromPools (na : CnmNetworkAllocator) (nw : Nat) (ln : LocalNetwork) (pref : Option Nat) :
    List Nat → Except VipErr (CnmNetworkAllocator × Nat)
  | [] => .error .noAvailableIP
  | poolID :: pools =>
    match requestAddress na.ipam poolID pref ln.serial with
    | .ok (a, ipam) =>
      .ok ({ na with ipam, networks := na.networks.insert nw { ln with endpoints := ln.endpoints.insert a poolID } }, a)
    | .error .noAvailableIPs => na.requestFromPools nw ln pref pools
    | .error .outOfRange => na.requestFromPools nw ln pref pools
    | .error e => .error (.ipam e)

/-- `allocateVIP`: the VIP with the address it now has. -/
def allocateVIP (na : CnmNetworkAllocator) (vip : VirtualIP) : Except VipErr (CnmNetworkAllocator × VirtualIP) :=
  match na.networks.lookup vip.networkID with
  | none => .error .noNetwork
  | some ln =>
    if ln.isNodeLocal then .ok (na, vip)
    -- an address already allocated in memory needs nothing
    else if vip.addr.any (· ∈ ln.endpoints) then .ok (na, vip)
    else
      match na.requestFromPools vip.networkID ln vip.addr ln.pools with
      | .ok (na, a) => .ok (na, { vip with addr := some a })
      | .error e => .error e

/-- `deallocateVIP`: the allocator as it is when the call returns, and
whether it failed. The address leaves `endpoints` before it is parsed
and released. -/
def deallocateVIP (na : CnmNetworkAllocator) (vip : VirtualIP) : CnmNetworkAllocator × Bool :=
  match na.networks.lookup vip.networkID with
  | none => (na, false)
  | some ln =>
    if ln.isNodeLocal then (na, true)
    else
      let poolID := vip.addr.bind ln.endpoints.lookup
      let na := match vip.addr with
        | some a => { na with networks := na.networks.insert vip.networkID { ln with endpoints := ln.endpoints.erase a } }
        | none => na
      match vip.addr, poolID with
      | some a, some poolID =>
        match releaseAddress na.ipam poolID a with
        | .ok ipam => ({ na with ipam }, true)
        | .error _ => (na, false)
      | _, _ => (na, false)

/-- `IsVIPOnIngressNetwork`. -/
def isVIPOnIngressNetwork (na : CnmNetworkAllocator) (vip : VirtualIP) : Bool :=
  (na.networks.lookup vip.networkID).any (·.ingress)

/-- Every VIP of the list deallocated, the failures logged. -/
def deallocateVIPs (na : CnmNetworkAllocator) (vips : List VirtualIP) : CnmNetworkAllocator :=
  vips.foldl (fun na vip => (na.deallocateVIP vip).1) na

/-- `DeallocateService`. -/
def deallocateService (na : CnmNetworkAllocator) (s : VipService) : CnmNetworkAllocator × VipService :=
  match s.endpoint with
  | none => (na, s)
  | some _ =>
    let na := na.deallocateVIPs s.virtualIPs
    let (pa, s') := na.portAllocator.serviceDeallocatePorts s.toService
    ({ na with portAllocator := pa, services := na.services.erase s.id }, { s with toService := s', virtualIPs := [] })

end CnmNetworkAllocator

-- ======================== one call

/-- A VIP of an `AllocateService` call: the `i`-th of the endpoint's
VIPs, or the `k`-th the call created. -/
inductive VipRef
  | old (i : Nat)
  | new (k : Nat)
  deriving DecidableEq, Repr

/-- The endpoint's slice of `n` VIPs once `eVIPs` has been appended to
in its backing array. -/
def aliasView (n : Nat) (eVIPs : List VipRef) : List VipRef :=
  (eVIPs ++ ((List.range n).drop eVIPs.length).map VipRef.old).take n

/-- The state of the call: the allocator, the VIPs by reference,
`eVIPs`, and how many VIPs it created. -/
structure VipCall where
  na : CnmNetworkAllocator
  heap : VipRef → VirtualIP
  eVIPs : List VipRef
  created : Nat

namespace VipCall

/-- `allocateVIP` of a VIP of the call, which keeps the address it gets. -/
def allocate (c : VipCall) (r : VipRef) : Except VipErr VipCall :=
  match c.na.allocateVIP (c.heap r) with
  | .ok (na, vip) => .ok { c with na, heap := Function.update c.heap r vip }
  | .error e => .error e

/-- `eVIPs = append(eVIPs, r)`. -/
def keep (c : VipCall) (r : VipRef) : VipCall := { c with eVIPs := c.eVIPs ++ [r] }

end VipCall

/-- `vipLoop`: each of the endpoint's VIPs on the ingress network of a
service that needs it, or on a network of the spec, is allocated and
kept; any other is deallocated. A failure stops the call, in the state
it was in. -/
def vipLoop (ingressNeeded : Bool) (specNetworks : List Nat) : List Nat → VipCall → Except (VipErr × VipCall) VipCall
  | [], c => .ok c
  | i :: is, c =>
    if (c.na.isVIPOnIngressNetwork (c.heap (.old i)) && ingressNeeded) ||
        specNetworks.contains (c.heap (.old i)).networkID then
      match c.allocate (.old i) with
      | .ok c => vipLoop ingressNeeded specNetworks is (c.keep (.old i))
      | .error e => .error (e, c)
    else
      -- the VIP's network is not the spec's any more
      vipLoop ingressNeeded specNetworks is { c with na := (c.na.deallocateVIP (c.heap (.old i))).1 }

/-- `networkLoop`: each network of the spec that no VIP of the
endpoint's slice is on gets a new VIP, allocated and kept. -/
def networkLoop (n : Nat) : List Nat → VipCall → Except (VipErr × VipCall) VipCall
  | [], c => .ok c
  | nw :: nws, c =>
    if (aliasView n c.eVIPs).any fun r => (c.heap r).networkID = nw then networkLoop n nws c
    else
      let r := VipRef.new c.created
      let c := { c with heap := Function.update c.heap r ⟨nw, none⟩, created := c.created + 1 }
      match c.allocate r with
      | .ok c => networkLoop n nws (c.keep r)
      | .error e => .error (e, c)

namespace CnmNetworkAllocator

/-- Why `AllocateService` failed. -/
inductive AllocateErr
  | ports (e : IdmErr)
  | vip (e : VipErr)
  deriving DecidableEq, Repr

/-- The VIPs of `AllocateService`, once the ports are allocated and the
endpoint records the spec. -/
def allocateVIPs (na : CnmNetworkAllocator) (s : VipService) : CnmNetworkAllocator × VipService × Option AllocateErr :=
  -- DNS round robin: every VIP freed
  if Network.isDNSRR s.toService then
    let na := na.deallocateVIPs s.virtualIPs
    ({ na with services := na.services.erase s.id }, { s with virtualIPs := [] }, none)
  else
    let n := s.virtualIPs.length
    let c₀ : VipCall := ⟨na, fun | .old i => s.virtualIPs.getD i default | .new _ => default, [], 0⟩
    match vipLoop (Network.isIngressNetworkNeeded s.toService) s.networks (List.range n) c₀ >>=
        networkLoop n s.networks with
    | .ok c =>
      let services := if c.eVIPs.isEmpty then c.na.services.erase s.id else s.id :: c.na.services.erase s.id
      ({ c.na with services }, { s with virtualIPs := c.eVIPs.map c.heap }, none)
    | .error (e, c) =>
      -- the deferred `DeallocateService`, on the slice as the loops left it
      let (na, s) := c.na.deallocateService { s with virtualIPs := (aliasView n c.eVIPs).map c.heap }
      (na, s, some (.vip e))

/-- `AllocateService`. -/
def allocateService (na : CnmNetworkAllocator) (s : VipService) :
    CnmNetworkAllocator × VipService × Option AllocateErr :=
  match na.portAllocator.serviceAllocatePorts s.toService with
  | (pa, s', some e) => ({ na with portAllocator := pa }, { s with toService := s' }, some (.ports e))
  | (pa, s', none) =>
    -- an endpoint made when there was none, recording the spec's
    let s : VipService := match s'.endpoint with
      | none => { s with toService := { s' with endpoint := some ⟨s'.spec.endpoint, []⟩ }, virtualIPs := [] }
      | some endpoint => { s with toService := { s' with endpoint := some { endpoint with spec := s'.spec.endpoint } } }
    { na with portAllocator := pa }.allocateVIPs s

end CnmNetworkAllocator

end SwarmKit.Allocator.Cnm

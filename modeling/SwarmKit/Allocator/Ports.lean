import SwarmKit.Lib.Idm

/-
The network allocator's published ports (manager/allocator/cnmallocator
portallocator.go `portSpace.allocate`, `portSpace.free`,
`allocatedPorts.addState`, `allocatedPorts.delState`,
`reconcilePortConfigs`, `serviceAllocatePorts`,
`serviceDeallocatePorts`; networkallocator.go `AllocateService`,
`DeallocateService`).

# Port spaces

Each protocol has a master space `[1, 65535]` holding every port
allocated, and a dynamic space `[30000, 32767]` from which ports are
handed out when the spec leaves the published port 0. A port with a
published port in the dynamic range is taken from both; one outside it
from the master space only. Host-mode ports are not allocated.

# Allocating a service's ports

`serviceAllocatePorts` reconciles the spec's ports with the ports the
service holds, so that a port once handed out is kept, frees every port
the service holds, then allocates the reconciled list one port at a
time, appending each port's state to the endpoint; on a failure it
frees what it has appended. `AllocateService` then allocates the VIPs,
and on a failure there calls `DeallocateService`, which frees the
service's ports. VIP allocation is not modelled: whether it succeeds is
the environment's choice.

# Reading the source

`allocatedPorts` is a map from a port's key to a map from its published
port to its state; here it is a list of states in the order they were
added, and `delState` of an unpublished port takes the first state of
that key with a published port, where the source takes whichever its
map iteration meets first. An `allocate` that fails after taking the
dynamic ID releases it in a deferred call, which leaves the dynamic
space as it was; here the failure returns no space at all.
-/

namespace SwarmKit.Allocator

-- =========================== ports

/-- `api.PortConfig_Protocol`. -/
inductive Protocol
  | tcp
  | udp
  | sctp
  deriving DecidableEq, Repr

/-- `api.PortConfig_PublishMode`. -/
inductive PublishMode
  | ingress
  | host
  deriving DecidableEq, Repr

/-- `api.PortConfig`. -/
structure PortConfig where
  name : String
  protocol : Protocol
  targetPort : Nat
  publishedPort : Nat
  publishMode : PublishMode
  deriving DecidableEq, Repr

/-- `getPortConfigKey`: name, protocol and target port. -/
def getPortConfigKey (p : PortConfig) : String × Protocol × Nat := (p.name, p.protocol, p.targetPort)

/-- `api.EndpointSpec_ResolutionMode`. -/
inductive ResolutionMode
  | vip
  | dnsrr
  deriving DecidableEq, Repr

/-- `api.EndpointSpec`. -/
structure EndpointSpec where
  mode : ResolutionMode
  ports : List PortConfig
  deriving DecidableEq, Repr

/-- `api.Endpoint`: the spec it was allocated for and the port states;
its VIPs are not modelled. -/
structure Endpoint where
  spec : Option EndpointSpec
  ports : List PortConfig
  deriving DecidableEq, Repr

/-- `api.ServiceSpec`: its endpoint spec. -/
structure ServiceSpec where
  endpoint : Option EndpointSpec
  deriving DecidableEq, Repr

/-- `api.Service`: its ID, spec and allocated endpoint. -/
structure Service where
  id : Nat
  spec : ServiceSpec
  endpoint : Option Endpoint
  deriving DecidableEq, Repr

/-- The port states of the allocated endpoint. -/
def Service.endpointPorts (s : Service) : List PortConfig := (s.endpoint.map (·.ports)).getD []

-- ===================== port spaces

def dynamicPortStart : Nat := 30000

def dynamicPortEnd : Nat := 32767

def masterPortStart : Nat := 1

def masterPortEnd : Nat := 65535

/-- A published port the dynamic space covers. -/
def inDynamicRange (port : Nat) : Prop := dynamicPortStart ≤ port ∧ port ≤ dynamicPortEnd

instance (port : Nat) : Decidable (inDynamicRange port) := inferInstanceAs (Decidable (_ ∧ _))

/-- `portSpace`: the master and dynamic spaces of one protocol. -/
structure PortSpace where
  masterPortSpace : Idm
  dynamicPortSpace : Idm

/-- `newPortSpace`. -/
def newPortSpace : PortSpace :=
  ⟨Idm.new masterPortStart masterPortEnd, Idm.new dynamicPortStart dynamicPortEnd⟩

/-- `portSpace.allocate`: the port space after, and the port's state
with its published port. -/
def PortSpace.allocate (ps : PortSpace) (p : PortConfig) : Except IdmErr (PortSpace × PortConfig) :=
  if p.publishedPort ≠ 0 then
    if inDynamicRange p.publishedPort then
      match ps.dynamicPortSpace.getSpecificID p.publishedPort with
      | .error e => .error e
      | .ok dynamic =>
        match ps.masterPortSpace.getSpecificID p.publishedPort with
        | .error e => .error e
        | .ok master => .ok (⟨master, dynamic⟩, p)
    else
      match ps.masterPortSpace.getSpecificID p.publishedPort with
      | .error e => .error e
      | .ok master => .ok (⟨master, ps.dynamicPortSpace⟩, p)
  else
    -- an arbitrary port of the dynamic space, then the same in the master space
    match ps.dynamicPortSpace.getID with
    | .error e => .error e
    | .ok (swarmPort, dynamic) =>
      match ps.masterPortSpace.getSpecificID swarmPort with
      | .error e => .error e
      | .ok master => .ok (⟨master, dynamic⟩, { p with publishedPort := swarmPort })

/-- `portSpace.free`. -/
def PortSpace.free (ps : PortSpace) (p : PortConfig) : PortSpace :=
  let dynamic :=
    if inDynamicRange p.publishedPort then ps.dynamicPortSpace.release p.publishedPort else ps.dynamicPortSpace
  ⟨ps.masterPortSpace.release p.publishedPort, dynamic⟩

/-- `portAllocator`: a port space per protocol. -/
structure PortAllocator where
  portSpaces : Protocol → PortSpace

/-- `newPortAllocator`. -/
def newPortAllocator : PortAllocator := ⟨fun _ => newPortSpace⟩

/-- The allocator with one protocol's space replaced. -/
def PortAllocator.set (pa : PortAllocator) (protocol : Protocol) (ps : PortSpace) : PortAllocator :=
  ⟨Function.update pa.portSpaces protocol ps⟩

/-- `pa.portSpaces[p.Protocol].free(p)`. -/
def PortAllocator.freePort (pa : PortAllocator) (p : PortConfig) : PortAllocator :=
  pa.set p.protocol ((pa.portSpaces p.protocol).free p)

-- =============== reconciling ports

/-- `allocatedPorts.addState`: the state under its key and published
port, replacing one there. -/
def addState (states : List PortConfig) (p : PortConfig) : List PortConfig :=
  states.filter (fun q => !(getPortConfigKey q == getPortConfigKey p && q.publishedPort == p.publishedPort)) ++ [p]

/-- `allocatedPorts.delState`: the state a port config finds (one with
its published port, or for an unpublished one, one of its key with a
published port), removed. -/
def delState (states : List PortConfig) (p : PortConfig) : Option PortConfig × List PortConfig :=
  let found :=
    if p.publishedPort ≠ 0 then
      states.find? fun q => getPortConfigKey q == getPortConfigKey p && q.publishedPort == p.publishedPort
    else states.find? fun q => getPortConfigKey q == getPortConfigKey p && q.publishedPort != 0
  match found with
  | none => (none, states)
  | some q => (some q, states.erase q)

/-- One port config of the first pass of `reconcilePortConfigs`: one
that is not ingress is picked up, and a published ingress one too, its
state removed. -/
def reconcilePublished (s : List PortConfig × List PortConfig) (pc : PortConfig) :
    List PortConfig × List PortConfig :=
  let (states, acc) := s
  if pc.publishMode ≠ .ingress then (states, acc ++ [pc])
  else if pc.publishedPort ≠ 0 then ((delState states pc).2, acc ++ [pc])
  else (states, acc)

/-- One port config of the second pass: an unpublished ingress one is
picked up as the state it had, if any. -/
def reconcileUnpublished (s : List PortConfig × List PortConfig) (pc : PortConfig) :
    List PortConfig × List PortConfig :=
  let (states, acc) := s
  if pc.publishMode = .ingress ∧ pc.publishedPort = 0 then
    match delState states pc with
    | (some state, states) => (states, acc ++ [state])
    | (none, states) => (states, acc ++ [pc])
  else (states, acc)

/-- `reconcilePortConfigs`: with an endpoint of as many ports as the
spec, the spec's ports with each unpublished ingress port replaced by
the state it had, so that its published port sticks; the non-ingress
and published ingress ports first. -/
def reconcilePortConfigs (s : Service) : List PortConfig :=
  let specPorts := (s.spec.endpoint.map (·.ports)).getD []
  match s.endpoint with
  | none => specPorts
  | some endpoint =>
    if specPorts.length ≠ endpoint.ports.length then specPorts
    else
      let states := (endpoint.ports.filter (·.publishMode == .ingress)).foldl addState []
      let (states, first) := specPorts.foldl reconcilePublished (states, [])
      let (_, second) := specPorts.foldl reconcileUnpublished (states, [])
      first ++ second

-- =================== service ports

/-- `serviceDeallocatePorts`: every ingress port the endpoint holds
freed, and the endpoint's ports emptied. -/
def PortAllocator.serviceDeallocatePorts (pa : PortAllocator) (s : Service) : PortAllocator × Service :=
  match s.endpoint with
  | none => (pa, s)
  | some endpoint =>
    let pa := endpoint.ports.foldl (fun pa p => if p.publishMode = .ingress then pa.freePort p else pa) pa
    (pa, { s with endpoint := some { endpoint with ports := [] } })

/-- The loop of `serviceAllocatePorts`: each port config allocated in
turn (ingress ones in their protocol's space), its state appended; the
first failure stops it. -/
def PortAllocator.allocatePorts (pa : PortAllocator) : List PortConfig → PortAllocator × List PortConfig × Option IdmErr
  | [] => (pa, [], none)
  | pc :: rest =>
    if pc.publishMode = .ingress then
      match (pa.portSpaces pc.protocol).allocate pc with
      | .error e => (pa, [], some e)
      | .ok (ps, state) =>
        let (pa, states, err) := (pa.set pc.protocol ps).allocatePorts rest
        (pa, state :: states, err)
    else
      let (pa, states, err) := pa.allocatePorts rest
      (pa, pc :: states, err)

/-- The endpoint after the loop: the states appended to it, an endpoint
made for the first one when there was none. -/
def withPortStates (s : Service) (states : List PortConfig) : Service :=
  match s.endpoint, states with
  | none, [] => s
  | none, states => { s with endpoint := some ⟨none, states⟩ }
  | some endpoint, states => { s with endpoint := some { endpoint with ports := endpoint.ports ++ states } }

/-- `serviceAllocatePorts`. -/
def PortAllocator.serviceAllocatePorts (pa : PortAllocator) (s : Service) :
    PortAllocator × Service × Option IdmErr :=
  match s.spec.endpoint with
  | none => (pa, s, none)
  | some _ =>
    let portConfigs := reconcilePortConfigs s
    -- the port configuration might have changed: free the old allocations first
    let (pa, s) := pa.serviceDeallocatePorts s
    let (pa, states, err) := pa.allocatePorts portConfigs
    let s := withPortStates s states
    match err with
    | none => (pa, s, none)
    | some e =>
      let (pa, s) := pa.serviceDeallocatePorts s
      (pa, s, some e)

-- =========== the network allocator

/-- `cnmNetworkAllocator`: here its port allocator. -/
structure NetworkAllocator where
  portAllocator : PortAllocator

/-- Why `AllocateService` failed: a port could not be allocated, or a VIP. -/
inductive AllocErr
  | ports (e : IdmErr)
  | vip
  deriving DecidableEq, Repr

/-- `DeallocateService`. -/
def NetworkAllocator.deallocateService (na : NetworkAllocator) (s : Service) : NetworkAllocator × Service :=
  match s.endpoint with
  | none => (na, s)
  | some _ =>
    let (pa, s) := na.portAllocator.serviceDeallocatePorts s
    (⟨pa⟩, s)

/-- `AllocateService`; `vipsOk` says whether allocating the VIPs
succeeds. A failure there deallocates the service. -/
def NetworkAllocator.allocateService (na : NetworkAllocator) (s : Service) (vipsOk : Bool) :
    NetworkAllocator × Service × Option AllocErr :=
  match na.portAllocator.serviceAllocatePorts s with
  | (pa, s, some e) => (⟨pa⟩, s, some (.ports e))
  | (pa, s, none) =>
    let s := { s with endpoint := some { s.endpoint.getD ⟨none, []⟩ with spec := s.spec.endpoint } }
    if vipsOk then (⟨pa⟩, s, none)
    else
      let (na, s) := NetworkAllocator.deallocateService ⟨pa⟩ s
      (na, s, some .vip)

end SwarmKit.Allocator

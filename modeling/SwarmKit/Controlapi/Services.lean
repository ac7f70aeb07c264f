import SwarmKit.Controlapi.Secrets
import SwarmKit.Lib.Lts

/-
The control API's service writes and their published-port check
(manager/controlapi/service.go `checkPortConflicts`, `CreateService`,
`UpdateService`, `isJobSpec`; state/store/services.go `CreateService`,
`UpdateService`; memory.go `tx.create`, `tx.update`).

# Two transactions per call

`CreateService` and `UpdateService` check published ports against every
service in a read transaction (`store.View`), and then write in a second
one (`store.Update`) that does not check them again. Between the two
other calls' writes may commit. A call is therefore two steps here: its
`view`, which either fails the call or leaves it pending, and its
`update`, which runs the write transaction on the store as it is then.

# The port check

`checkPortConflicts` collects the request's published ports (port 0 is
"assign one" and skipped) by mode, and refuses the request when some
other service's spec or allocated endpoint publishes one of them with
the same protocol, unless both are host-mode ports. `UpdateService`
skips the check when the request's endpoint spec equals the stored one,
and a rollback (`Rollback = PREVIOUS`) installs the previous spec, which
it never checks.

# Left out

Spec validation, networks, secrets and configs, and the ingress network
check refuse requests and write nothing; the model admits every request
they would pass. The job status timestamps are not modelled. The service
table is in insertion order, which only decides which conflict is
reported first.
-/

namespace SwarmKit.Controlapi

open SwarmKit.Store

-- =========================== ports

/-- `api.PortConfig_Protocol`. -/
inductive Protocol
  | tcp
  | udp
  | sctp
  deriving DecidableEq, Repr

/-- `api.PortConfig_PublishMode`. -/
inductive PublishMode
  | ingress
  | host
  deriving DecidableEq, Repr

/-- `api.PortConfig`. -/
structure PortConfig where
  protocol : Protocol
  targetPort : Nat
  publishedPort : Nat
  publishMode : PublishMode
  deriving DecidableEq, Repr

/-- `portSpec`: what makes two published ports the same. -/
def PortConfig.key (pc : PortConfig) : Protocol × Nat := (pc.protocol, pc.publishedPort)

/-- `api.EndpointSpec`; its resolution mode is not read. -/
structure EndpointSpec where
  ports : List PortConfig
  deriving DecidableEq, Repr

/-- The type of `ServiceSpec.Mode`'s oneof, as `reflect.TypeOf` sees it. -/
inductive ServiceMode
  | replicated
  | global
  | replicatedJob
  | globalJob
  deriving DecidableEq, Repr

/-- `api.ServiceSpec`: its name, mode and endpoint spec. -/
structure ServiceSpec where
  name : String
  mode : ServiceMode
  endpoint : Option EndpointSpec
  deriving DecidableEq, Repr

/-- `api.Endpoint`: the ports the allocator has published. -/
structure Endpoint where
  ports : List PortConfig
  deriving DecidableEq, Repr

/-- `api.Service`: `Meta.Version`, the specs and their versions, the
allocated endpoint, the update status's message, and the job
iteration when it has a `JobStatus`. -/
structure Service where
  id : Nat
  version : Nat
  spec : ServiceSpec
  specVersion : Option Nat
  previousSpec : Option ServiceSpec
  previousSpecVersion : Option Nat
  endpoint : Option Endpoint
  updateStatus : Option String
  jobIteration : Option Nat
  deriving DecidableEq, Repr

/-- The ports a service's spec publishes. -/
def Service.specPorts (s : Service) : List PortConfig := (s.spec.endpoint.map (·.ports)).getD []

/-- The ports its allocated endpoint holds. -/
def Service.endpointPorts (s : Service) : List PortConfig := (s.endpoint.map (·.ports)).getD []

-- ======================= the check

/-- `ingressPorts` and `hostModePorts`: a spec's published ports of one
mode. -/
def publishedKeys (mode : PublishMode) (ports : List PortConfig) : List (Protocol × Nat) :=
  (ports.filter fun pc => pc.publishedPort ≠ 0 && pc.publishMode == mode).map PortConfig.key

/-- `isPortInUse`: a port of an existing service against the request's. -/
def isPortInUse (ingressPorts hostModePorts : List (Protocol × Nat)) (pc : PortConfig) (service : Service) :
    Except Status Unit :=
  let port := pc.publishedPort
  let name := service.spec.name
  let serviceID := service.id
  if port = 0 then .ok ()
  else match pc.publishMode with
    | .host =>
      -- host-mode ports of several services may coexist
      if pc.key ∈ ingressPorts then
        .error ⟨.invalidArgument,
          s!"port \x27{port}\x27 is already in use by service \x27{name}\x27 ({serviceID}) as a host-published port"⟩
      else .ok ()
    | .ingress =>
      if pc.key ∈ ingressPorts ∨ pc.key ∈ hostModePorts then
        .error ⟨.invalidArgument,
          s!"port \x27{port}\x27 is already in use by service \x27{name}\x27 ({serviceID}) as an ingress port"⟩
      else .ok ()

/-- `checkPortConflicts(spec, serviceID)` on the services a read
transaction finds; `serviceID` is the service being updated, skipped. -/
def checkPortConflicts (services : List Service) (spec : ServiceSpec) (serviceID : Option Nat) :
    Except Status Unit :=
  match spec.endpoint with
  | none => .ok ()
  | some endpoint =>
    let ingressPorts := publishedKeys .ingress endpoint.ports
    let hostModePorts := publishedKeys .host endpoint.ports
    if ingressPorts = [] ∧ hostModePorts = [] then .ok ()
    else
      services.forM fun service =>
        if serviceID = some service.id then .ok ()
        else do
          service.specPorts.forM fun pc => isPortInUse ingressPorts hostModePorts pc service
          service.endpointPorts.forM fun pc => isPortInUse ingressPorts hostModePorts pc service

-- ======================= the store

/-- `store.GetService`. -/
def getService (services : List Service) (id : Nat) : Option Service := services.find? (·.id == id)

/-- A lookup on the service table's name index. -/
def serviceByName (services : List Service) (name : String) : Option Service :=
  services.find? fun s => nameKey s.spec.name == nameKey name

/-- `store.CreateService` in a transaction stamped `curVersion`. -/
def storeCreateService (curVersion : Nat) (services : List Service) (service : Service) :
    Except StoreErr (List Service × Service) :=
  if (serviceByName services service.spec.name).isSome then .error .nameConflict
  else if (getService services service.id).isSome then .error .exist
  else
    let service := { service with version := curVersion }
    .ok (services ++ [service], service)

/-- `tx.update` on the service table in a transaction stamped
`curVersion`: the stored version must be the one the service carries. -/
def txUpdateService (curVersion : Nat) (services : List Service) (service : Service) :
    Except StoreErr (List Service × Service) :=
  match getService services service.id with
  | none => .error .notExist
  | some old =>
    if old.version ≠ service.version then .error .sequenceConflict
    else
      let service := { service with version := curVersion }
      .ok (services.map (fun s => if s.id = service.id then service else s), service)

/-- `store.UpdateService`: the name must be free or the service's own. -/
def storeUpdateService (curVersion : Nat) (services : List Service) (service : Service) :
    Except StoreErr (List Service × Service) :=
  match serviceByName services service.spec.name with
  | some existing =>
    if existing.id ≠ service.id then .error .nameConflict else txUpdateService curVersion services service
  | none => txUpdateService curVersion services service

-- ======================= the calls

/-- `isJobSpec`. -/
def isJobSpec (spec : ServiceSpec) : Bool := spec.mode == .replicatedJob || spec.mode == .globalJob

/-- `api.UpdateServiceRequest`; `rollback` is `Rollback = PREVIOUS`. -/
structure UpdateServiceRequest where
  serviceID : Option Nat
  serviceVersion : Option Nat
  spec : ServiceSpec
  rollback : Bool
  deriving DecidableEq, Repr

/-- A call of the control API that writes a service. -/
inductive Request
  | createService (spec : ServiceSpec)
  | updateService (request : UpdateServiceRequest)
  deriving DecidableEq, Repr

/-- `CreateService`'s read transaction. -/
def createServiceView (services : List Service) (spec : ServiceSpec) : Except Status Unit :=
  checkPortConflicts services spec none

/-- The service `CreateService` builds: the new ID, the spec, an empty
spec version, and a job status for a job. -/
def newService (newID : Nat) (spec : ServiceSpec) : Service :=
  ⟨newID, 0, spec, some 0, none, none, none, none, if isJobSpec spec then some 0 else none⟩

/-- `CreateService`'s write transaction; `newID` is `identity.NewID()`. -/
def createServiceUpdate (curVersion : Nat) (services : List Service) (newID : Nat) (spec : ServiceSpec) :
    Except Status (List Service × Service) :=
  match storeCreateService curVersion services (newService newID spec) with
  | .error .nameConflict =>
    let name := spec.name
    .error ⟨.alreadyExists, s!"name conflicts with an existing object: service {name} already exists"⟩
  | .error e => .error e.status
  | .ok r => .ok r

/-- `UpdateService`'s read transaction: the service must exist, and the
ports are checked only when the endpoint spec changes. -/
def updateServiceView (services : List Service) (request : UpdateServiceRequest) : Except Status Unit :=
  match request.serviceID, request.serviceVersion with
  | some serviceID, some _ =>
    match getService services serviceID with
    | none => .error ⟨.notFound, s!"service {serviceID} not found"⟩
    | some service =>
      if request.spec.endpoint.isSome ∧ request.spec.endpoint ≠ service.spec.endpoint then
        checkPortConflicts services request.spec (some serviceID)
      else .ok ()
  | _, _ => .error errInvalidArgument

/-- What `UpdateService` makes of the stored service: the request's spec,
the current one kept as the previous, or on a rollback the previous spec
back with the current one kept. -/
def updatedService (service : Service) (serviceID serviceVersion : Nat) (request : UpdateServiceRequest) :
    Except Status Service :=
  let service := { service with version := serviceVersion, jobIteration := service.jobIteration.map (· + 1) }
  if request.rollback then
    match service.previousSpec with
    | none => .error ⟨.failedPrecondition, s!"service {serviceID} does not have a previous spec"⟩
    | some previousSpec =>
      .ok { service with
        spec := previousSpec
        specVersion := service.previousSpecVersion
        previousSpec := some service.spec
        previousSpecVersion := service.specVersion
        updateStatus := some "manually requested rollback" }
  else
    .ok { service with
      previousSpec := some service.spec
      previousSpecVersion := service.specVersion
      spec := request.spec
      specVersion := some serviceVersion
      updateStatus := none }

/-- `UpdateService`'s write transaction: the service read again, the
mode and the name kept, then the write. -/
def updateServiceUpdate (curVersion : Nat) (services : List Service) (request : UpdateServiceRequest) :
    Except Status (List Service × Service) :=
  match request.serviceID, request.serviceVersion with
  | some serviceID, some serviceVersion =>
    match getService services serviceID with
    | none => .error ⟨.notFound, s!"service {serviceID} not found"⟩
    | some service =>
      if service.spec.mode ≠ request.spec.mode then .error ⟨.unimplemented, "service mode change is not allowed"⟩
      else if service.spec.name ≠ request.spec.name then
        .error ⟨.unimplemented, "renaming services is not supported"⟩
      else
        match updatedService service serviceID serviceVersion request with
        | .error e => .error e
        | .ok service =>
          match storeUpdateService curVersion services service with
          | .error e => .error e.status
          | .ok r => .ok r
  | _, _ => .error errInvalidArgument

/-- A call's read transaction. -/
def Request.view (services : List Service) : Request → Except Status Unit
  | .createService spec => createServiceView services spec
  | .updateService request => updateServiceView services request

/-- A call's write transaction. -/
def Request.update (curVersion : Nat) (services : List Service) (newID : Nat) :
    Request → Except Status (List Service × Service)
  | .createService spec => createServiceUpdate curVersion services newID spec
  | .updateService request => updateServiceUpdate curVersion services request

-- ====================== the system

/-- A call whose read transaction has passed, and the ID it drew. -/
structure Pending where
  request : Request
  newID : Nat
  deriving DecidableEq, Repr

/-- The service table, the version the next write is stamped with, the
calls between their two transactions, and the replies sent. -/
structure World where
  services : List Service
  version : Nat
  pending : List Pending
  replies : List (Except Status Service)
  deriving DecidableEq, Repr

/-- What happens next. -/
inductive Act
  /-- A call arrives and runs its read transaction. -/
  | view (request : Request) (newID : Nat)
  /-- The `i`-th pending call runs its write transaction. -/
  | update (i : Nat)
  deriving DecidableEq, Repr

/-- One step; `none` when no call is pending at that place. -/
def step : Act → World → Option World
  | .view request newID, w =>
    match request.view w.services with
    | .ok () => some { w with pending := w.pending ++ [⟨request, newID⟩] }
    | .error e => some { w with replies := w.replies ++ [.error e] }
  | .update i, w =>
    match w.pending[i]? with
    | none => none
    | some p =>
      let pending := w.pending.eraseIdx i
      match p.request.update w.version w.services p.newID with
      | .ok (services, service) =>
        some { services, version := w.version + 1, pending, replies := w.replies ++ [.ok service] }
      | .error e => some { w with pending, replies := w.replies ++ [.error e] }

end SwarmKit.Controlapi

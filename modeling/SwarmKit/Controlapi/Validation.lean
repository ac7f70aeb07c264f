import Mathlib.Data.Rat.Defs
import SwarmKit.Controlapi.Services
import SwarmKit.Placement.Constraint
import SwarmKit.Api.GenericResource

/-
The checks a service spec passes before the control API creates or
updates a service (manager/controlapi/service.go `validateServiceSpec`
and the functions it calls; common.go `validateAnnotations`,
`isValidDNSName`; gogo types/duration.go `validateDuration`,
`DurationFromProto`; api/genericresource/validate.go `ValidateTask`).

# The checks

`validateServiceSpec` checks the annotations, the task spec, the mode,
then the update config (for a job: that there is none), then the
endpoint spec, and returns the first refusal. The task spec's checks run
in the source's order: resources, restart policy, placement, secret and
config references, then the runtime. Each list (mounts, published ports,
secret and config targets) is walked once with the keys seen so far, and
the first repeat is refused: that loop is `Text.scan`. Secret and config
references are checked by one loop with the kind's word in its messages;
the config check then also wants the config a credential spec names
among the references with a runtime target.

# Durations

A `google.protobuf.Duration` is seconds and nanoseconds.
`DurationFromProto` refuses one outside the proto's range or whose two
parts disagree in sign, then computes `seconds * 1e9 + nanos` in int64
arithmetic and refuses it when either step wrapped, which it tests after
the fact. A duration's text in its errors is what `%#v` prints, gogo's
`GoString`, for a message with no unknown fields.

# Reading the source

What the checks take from outside the package is `Env`: the expansion of
the container spec's templates (`template.ExpandContainerSpec`, whose
error text is the message), whether `reference.ParseNormalizedNamed`
accepts an image, `%q` of a string, and `%g` of `float64(NanoCPUs)/1e9`.
A plain Go error (from `DurationFromProto` or `constraint.Parse`)
reaches the client with code Unknown. Of the update config's `float32`
failure ratio only its comparisons with 0 and 1 are read: it is NaN, an
infinity or a finite value. `strings.ToLower` is compared only with two
ASCII words, and is modelled on the characters it maps to ASCII letters.
-/

namespace SwarmKit.Controlapi.Validation

-- ======================= durations

/-- `types.Duration`. -/
structure Duration where
  seconds : Int64
  nanos : Int32
  deriving DecidableEq, Repr

/-- `maxSeconds`: ten thousand years. -/
def maxSeconds : Int64 := 315576000000

/-- `minSeconds`. -/
def minSeconds : Int64 := -maxSeconds

/-- `time.Second`. -/
def second : Int64 := 1000000000

/-- `%#v` of a `*types.Duration`: its `GoString`. -/
def Duration.goString (d : Duration) : String :=
  "&types.Duration\x7bSeconds: " ++ toString d.seconds.toInt ++ ",\nNanos: " ++ toString d.nanos.toInt ++
    ",\n\x7d"

/-- `validateDuration` of a non-nil duration. -/
def validateDuration (d : Duration) : Except String Unit :=
  if d.seconds < minSeconds ∨ d.seconds > maxSeconds then
    .error ("duration: " ++ d.goString ++ ": seconds out of range")
  else if d.nanos ≤ -1000000000 ∨ d.nanos ≥ 1000000000 then
    .error ("duration: " ++ d.goString ++ ": nanos out of range")
  else if (d.seconds < 0 ∧ d.nanos > 0) ∨ (d.seconds > 0 ∧ d.nanos < 0) then
    .error ("duration: " ++ d.goString ++ ": seconds and nanos have different signs")
  else .ok ()

/-- `DurationFromProto` of a non-nil duration: its nanoseconds as a
`time.Duration`. -/
def durationFromProto (p : Duration) : Except String Int64 := do
  validateDuration p
  let d := p.seconds * second
  if d / second ≠ p.seconds then
    .error ("duration: " ++ p.goString ++ " is out of range for time.Duration")
  else if p.nanos ≠ 0 then
    -- `time.Duration(p.Nanos) * time.Nanosecond`, and `time.Nanosecond` is 1
    let d := d + p.nanos.toInt64
    if decide (d < 0) ≠ decide (p.nanos < 0) then
      .error ("duration: " ++ p.goString ++ " is out of range for time.Duration")
    else .ok d
  else .ok d

-- =========================== specs

/-- A `float32` as comparisons with numbers see it: NaN, an infinity, or
a finite value. -/
inductive Float32Value
  | nan
  | negInf
  | posInf
  | finite (x : ℚ)
  deriving DecidableEq, Repr

/-- `v < q`, false when `v` is NaN. -/
def Float32Value.lt : Float32Value → ℚ → Bool
  | .nan, _ => false
  | .negInf, _ => true
  | .posInf, _ => false
  | .finite x, q => decide (x < q)

/-- `v > q`, false when `v` is NaN. -/
def Float32Value.gt : Float32Value → ℚ → Bool
  | .nan, _ => false
  | .negInf, _ => false
  | .posInf, _ => true
  | .finite x, q => decide (q < x)

/-- `api.Resources`: CPUs in billionths, memory in bytes, and the generic
resources. -/
structure Resources where
  nanoCPUs : Int64
  memoryBytes : Int64
  generic : List Api.GenericResource
  deriving DecidableEq, Repr

/-- `api.ResourceRequirements`. -/
structure ResourceRequirements where
  limits : Option Resources
  reservations : Option Resources
  deriving DecidableEq, Repr

/-- `api.RestartPolicy`: the two durations the checks read. -/
structure RestartPolicy where
  delay : Option Duration
  window : Option Duration
  deriving DecidableEq, Repr

/-- `api.Placement`: its constraint expressions. -/
structure Placement where
  constraints : List String
  deriving DecidableEq, Repr

/-- `api.UpdateConfig`; `delay` is a `time.Duration`. -/
structure UpdateConfig where
  delay : Int64
  monitor : Option Duration
  maxFailureRatio : Float32Value
  deriving DecidableEq, Repr

/-- `api.HealthConfig`. -/
structure HealthConfig where
  interval : Option Duration
  timeout : Option Duration
  startPeriod : Option Duration
  retries : Int32
  deriving DecidableEq, Repr

/-- `api.Mount`: its target. -/
structure Mount where
  target : String
  deriving DecidableEq, Repr

/-- The target of a secret or config reference: a file, by its name, or
the runtime. -/
inductive RefTarget
  | file (name : String)
  | runtime
  deriving DecidableEq, Repr

/-- `api.SecretReference` and `api.ConfigReference`: the object's ID and
name, and the target. -/
structure Reference where
  id : String
  name : String
  target : Option RefTarget
  deriving DecidableEq, Repr

/-- `api.Privileges`: `CredentialSpec.GetConfig()` when there is a
credential spec, the config's ID or empty. -/
structure Privileges where
  credentialSpecConfig : Option String
  deriving DecidableEq, Repr

/-- `api.ContainerSpec`. -/
structure ContainerSpec where
  image : String
  mounts : List Mount
  healthcheck : Option HealthConfig
  secrets : List Reference
  configs : List Reference
  privileges : Option Privileges
  deriving DecidableEq, Repr

/-- `types.Any`. -/
structure Any where
  typeUrl : String
  value : List UInt8
  deriving DecidableEq, Repr

/-- `api.GenericRuntimeSpec`. -/
structure GenericRuntimeSpec where
  kind : String
  payload : Option Any
  deriving DecidableEq, Repr

/-- The runtime of a task spec, by the type of its oneof. -/
inductive RuntimeSpec
  | attachment
  | container (spec : ContainerSpec)
  | generic (spec : GenericRuntimeSpec)
  deriving DecidableEq, Repr

/-- `api.TaskSpec`. -/
structure TaskSpec where
  resources : Option ResourceRequirements
  restart : Option RestartPolicy
  placement : Option Placement
  runtime : Option RuntimeSpec
  deriving DecidableEq, Repr

/-- `ServiceSpec.Mode`, by the type of its oneof, with its counts. -/
inductive Mode
  | replicated (replicas : UInt64)
  | global
  | replicatedJob (maxConcurrent totalCompletions : UInt64)
  | globalJob
  deriving DecidableEq, Repr

/-- `api.EndpointSpec_ResolutionMode`. -/
inductive ResolutionMode
  | vip
  | dnsrr
  deriving DecidableEq, Repr

/-- `api.EndpointSpec`. -/
structure EndpointSpec where
  mode : ResolutionMode
  ports : List PortConfig
  deriving DecidableEq, Repr

/-- `api.ServiceSpec`. -/
structure ServiceSpec where
  annotations : Annotations
  task : TaskSpec
  mode : Option Mode
  update : Option UpdateConfig
  endpoint : Option EndpointSpec
  deriving DecidableEq, Repr

/-- What the checks call outside the package. -/
structure Env where
  /-- `template.ExpandContainerSpec`, or the text of its error. -/
  expand : ContainerSpec → Except String ContainerSpec
  /-- Whether `reference.ParseNormalizedNamed` accepts an image. -/
  parseNormalizedNamed : String → Bool
  /-- `%q` of a string. -/
  quote : String → String
  /-- `%g` of `float64(nanoCPUs)/1e9`. -/
  formatCPU : Int64 → String

-- ========================= helpers

/-- A plain Go error, which reaches the client with code Unknown. -/
def plain (text : String) : Status := ⟨.unknown, text⟩

/-- The refusal a loop found, if any. -/
def refuse : Option Status → Except Status Unit
  | none => .ok ()
  | some e => .error e

-- =================== the task spec

/-- `validateResources`. -/
def validateResources (env : Env) : Option Resources → Except Status Unit
  | none => .ok ()
  | some r =>
    if r.nanoCPUs ≠ 0 ∧ r.nanoCPUs < 1000000 then
      .error ⟨.invalidArgument, "invalid cpu value " ++ env.formatCPU r.nanoCPUs ++ ": Must be at least 0.001"⟩
    else if r.memoryBytes ≠ 0 ∧ r.memoryBytes < 4 * 1024 * 1024 then
      .error ⟨.invalidArgument, "invalid memory value " ++ toString r.memoryBytes.toInt ++ ": Must be at least 4MiB"⟩
    -- the error of `ValidateTask` is dropped: both branches return nil
    else if !Api.GenericResource.validateTask r.generic then .ok ()
    else .ok ()

/-- `validateResourceRequirements`. -/
def validateResourceRequirements (env : Env) : Option ResourceRequirements → Except Status Unit
  | none => .ok ()
  | some r => do
    validateResources env r.limits
    validateResources env r.reservations

/-- A duration of a restart policy or an update config: converted by
`DurationFromProto`, whose error is returned as it is, and refused with
`msg` when negative. -/
def nonNegative (d : Option Duration) (msg : String) : Except Status Unit :=
  match d with
  | none => .ok ()
  | some d =>
    match durationFromProto d with
    | .error e => .error (plain e)
    | .ok x => if x < 0 then .error ⟨.invalidArgument, msg⟩ else .ok ()

/-- `validateRestartPolicy`. -/
def validateRestartPolicy : Option RestartPolicy → Except Status Unit
  | none => .ok ()
  | some rp => do
    nonNegative rp.delay "TaskSpec: restart-delay cannot be negative"
    nonNegative rp.window "TaskSpec: restart-window cannot be negative"

/-- `validatePlacement`: the constraints must parse. -/
def validatePlacement : Option Placement → Except Status Unit
  | none => .ok ()
  | some placement =>
    match SwarmKit.Placement.parse placement.constraints with
    | .error e => .error (plain e)
    | .ok _ => .ok ()

/-- The check of one secret or config reference; `kind` is the word its
messages use. -/
def refCheck (kind : String) (r : Reference) : Option Status :=
  if r.id = "" ∨ r.name = "" then some ⟨.invalidArgument, "malformed " ++ kind ++ " reference"⟩
  else match r.target with
    | none => some ⟨.invalidArgument, "malformed " ++ kind ++ " reference, no target provided"⟩
    | some (.file "") =>
      some ⟨.invalidArgument, "malformed file " ++ kind ++ " reference, invalid target file name provided"⟩
    | some _ => none

/-- A file target's name, with the name of the object it exposes. -/
def refKey (r : Reference) : Option (String × String) :=
  match r.target with
  | some (.file fileName) => some (fileName, r.name)
  | _ => none

/-- The refusal of a file target already in use by `prev`. -/
def refConflict (kind : String) (prev : String) (r : Reference) : Status :=
  let fileName := match r.target with
    | some (.file fileName) => fileName
    | _ => ""
  ⟨.invalidArgument, kind ++ " references '" ++ prev ++ "' and '" ++ r.name ++
    "' have a conflicting target: '" ++ fileName ++ "'"⟩

/-- The loop over a container's references of one kind. -/
def checkRefs (kind : String) (refs : List Reference) : Option Status :=
  Text.scan (refCheck kind) refKey (refConflict kind) [] refs

/-- `validateSecretRefsSpec`. -/
def validateSecretRefsSpec (spec : TaskSpec) : Except Status Unit :=
  match spec.runtime with
  | some (.container c) => refuse (checkRefs "secret" c.secrets)
  | _ => .ok ()

/-- The config a container's credential spec names, empty when none. -/
def ContainerSpec.credSpecConfig (c : ContainerSpec) : String :=
  (c.privileges.bind (·.credentialSpecConfig)).getD ""

/-- `validateConfigRefsSpec`: the loop of the secret check, and then the
credential spec's config among the references with a runtime target. -/
def validateConfigRefsSpec (spec : TaskSpec) : Except Status Unit :=
  match spec.runtime with
  | some (.container c) =>
    let credSpecConfig := c.credSpecConfig
    match checkRefs "config" c.configs with
    | some e => .error e
    | none =>
      -- the loop ran to its end, setting the flag at any runtime target of that ID
      let credSpecConfigFound := c.configs.any fun r => r.target == some .runtime && r.id == credSpecConfig
      if credSpecConfig ≠ "" ∧ !credSpecConfigFound then
        .error ⟨.invalidArgument, "CredentialSpec references config '" ++ credSpecConfig ++
          "', but that config isn't in config references with RuntimeTarget"⟩
      else .ok ()
  | _ => .ok ()

/-- `validateImage`. -/
def validateImage (env : Env) (image : String) : Except Status Unit :=
  if image = "" then .error ⟨.invalidArgument, "ContainerSpec: image reference must be provided"⟩
  else if !env.parseNormalizedNamed image then
    .error ⟨.invalidArgument, "ContainerSpec: " ++ env.quote image ++ " is not a valid repository/tag"⟩
  else .ok ()

/-- `validateMounts`: no two mounts at one target. -/
def validateMounts (mounts : List Mount) : Except Status Unit :=
  refuse <| Text.scan (fun _ => none) (fun m => some (m.target, ()))
    (fun _ m => ⟨.invalidArgument, "ContainerSpec: duplicate mount point: " ++ m.target⟩) [] mounts

/-- `minimumDuration`: one millisecond. -/
def minimumDuration : Int64 := 1000000

/-- A duration of a health config: zero, or at least `minimumDuration`
(whose `%s` is `1ms`). -/
def zeroOrAtLeastMinimum (d : Option Duration) (field : String) : Except Status Unit :=
  match d with
  | none => .ok ()
  | some d =>
    match durationFromProto d with
    | .error e => .error (plain e)
    | .ok x =>
      if x ≠ 0 ∧ x < minimumDuration then
        .error ⟨.invalidArgument, "ContainerSpec: " ++ field ++ " in HealthConfig cannot be less than 1ms"⟩
      else .ok ()

/-- `validateHealthCheck`. -/
def validateHealthCheck : Option HealthConfig → Except Status Unit
  | none => .ok ()
  | some hc => do
    zeroOrAtLeastMinimum hc.interval "Interval"
    zeroOrAtLeastMinimum hc.timeout "Timeout"
    zeroOrAtLeastMinimum hc.startPeriod "StartPeriod"
    if hc.retries < 0 then
      .error ⟨.invalidArgument, "ContainerSpec: Retries in HealthConfig cannot be negative"⟩
    else .ok ()

/-- `validateContainerSpec`: the checks of the expanded container spec. -/
def validateContainerSpec (env : Env) (container : ContainerSpec) : Except Status Unit :=
  match env.expand container with
  | .error text => .error ⟨.invalidArgument, text⟩
  | .ok container => do
    validateImage env container.image
    validateMounts container.mounts
    validateHealthCheck container.healthcheck

/-- `unicode.ToLower` on the characters it maps to ASCII letters: the
capitals, U+0130 to `i` and the Kelvin sign to `k`. Every other
character it maps to one that is no ASCII letter, and is kept here. -/
def lowerChar (c : Char) : Char :=
  if c = 'İ' then 'i' else if c = 'K' then 'k' else c.toLower

/-- `strings.ToLower`, up to characters that are no ASCII letter. -/
def toLower (s : String) : String := String.ofList (s.toList.map lowerChar)

/-- `reservedNames`. -/
def reservedNames : List String := ["container", "attachment"]

/-- `validateGenericRuntimeSpec`. -/
def validateGenericRuntimeSpec (env : Env) (generic : GenericRuntimeSpec) : Except Status Unit :=
  if generic.kind.utf8ByteSize < 3 then
    .error ⟨.invalidArgument, "Generic runtime: Invalid name " ++ env.quote generic.kind⟩
  else if reservedNames.any (fun n => toLower generic.kind == n) then
    .error ⟨.invalidArgument, "Generic runtime: " ++ env.quote generic.kind ++ " is a reserved name"⟩
  else
    match generic.payload with
    | none => .error ⟨.invalidArgument, "Generic runtime is missing payload"⟩
    | some payload =>
      if payload.typeUrl = "" then .error ⟨.invalidArgument, "Generic runtime is missing payload type"⟩
      else if payload.value = [] then .error ⟨.invalidArgument, "Generic runtime has an empty payload"⟩
      else .ok ()

/-- The runtime switch of `validateTaskSpec`. -/
def validateRuntime (env : Env) : Option RuntimeSpec → Except Status Unit
  | none => .error ⟨.invalidArgument, "TaskSpec: missing runtime"⟩
  | some (.container c) => validateContainerSpec env c
  | some (.generic g) => validateGenericRuntimeSpec env g
  | some .attachment => .error ⟨.unimplemented, "RuntimeSpec: unimplemented runtime in service spec"⟩

/-- `validateTaskSpec`. -/
def validateTaskSpec (env : Env) (taskSpec : TaskSpec) : Except Status Unit := do
  validateResourceRequirements env taskSpec.resources
  validateRestartPolicy taskSpec.restart
  validatePlacement taskSpec.placement
  validateSecretRefsSpec taskSpec
  validateConfigRefsSpec taskSpec
  validateRuntime env taskSpec.runtime

-- ============ the rest of the spec

/-- `isValidDNSName`: `^[a-zA-Z0-9](?:[-_]*[A-Za-z0-9]+)*$`, a letter or
digit at either end and letters, digits, `-` and `_` between. -/
def isValidDNSName (name : String) : Bool :=
  match name.toList with
  | [] => false
  | c :: cs =>
    c.isAlphanum && cs.all (fun c => c.isAlphanum || c == '-' || c == '_') && cs.getLast?.all Char.isAlphanum

/-- `validateAnnotations`. -/
def validateAnnotations (m : Annotations) : Except Status Unit :=
  if m.name = "" then .error ⟨.invalidArgument, "meta: name must be provided"⟩
  else if !isValidDNSName m.name then .error ⟨.invalidArgument, "name must be valid as a DNS name component"⟩
  else if m.name.utf8ByteSize > 63 then .error ⟨.invalidArgument, "name must be 63 characters or fewer"⟩
  else .ok ()

/-- `validateMode`: the counts, cast to int64, may not be negative. -/
def validateMode (s : ServiceSpec) : Except Status Unit :=
  match s.mode with
  | some (.replicated replicas) =>
    if replicas.toInt64 < 0 then .error ⟨.invalidArgument, "Number of replicas must be non-negative"⟩
    else .ok ()
  | some .global => .ok ()
  | some (.replicatedJob maxConcurrent totalCompletions) =>
    if maxConcurrent.toInt64 < 0 then .error ⟨.invalidArgument, "Maximum concurrent jobs must not be negative"⟩
    else if totalCompletions.toInt64 < 0 then
      .error ⟨.invalidArgument, "Total completed jobs must not be negative"⟩
    else .ok ()
  | some .globalJob => .ok ()
  | none => .error ⟨.invalidArgument, "Unrecognized service mode"⟩

/-- `validateUpdate`. -/
def validateUpdate : Option UpdateConfig → Except Status Unit
  | none => .ok ()
  | some uc =>
    if uc.delay < 0 then .error ⟨.invalidArgument, "TaskSpec: update-delay cannot be negative"⟩
    else do
      nonNegative uc.monitor "TaskSpec: update-monitor cannot be negative"
      if uc.maxFailureRatio.lt 0 || uc.maxFailureRatio.gt 1 then
        .error ⟨.invalidArgument, "TaskSpec: update-maxfailureratio cannot be less than 0 or bigger than 1"⟩
      else .ok ()

/-- The check of one published port: ingress ports need VIP resolution. -/
def portCheck (mode : ResolutionMode) (port : PortConfig) : Option Status :=
  if mode = .dnsrr ∧ port.publishMode = .ingress then
    some ⟨.invalidArgument, "EndpointSpec: port published with ingress mode can't be used with dnsrr mode"⟩
  else none

/-- `portSpec`: a published port by its number and protocol; port 0 does
not conflict. -/
def portKey (port : PortConfig) : Option ((Protocol × Nat) × Unit) :=
  if port.publishedPort = 0 then none else some (port.key, ())

/-- `validateEndpointSpec`. -/
def validateEndpointSpec : Option EndpointSpec → Except Status Unit
  | none => .ok ()
  | some epSpec =>
    refuse <| Text.scan (portCheck epSpec.mode) portKey
      (fun _ _ => ⟨.invalidArgument, "EndpointSpec: duplicate published ports provided"⟩) [] epSpec.ports

/-- `isJobSpec`. -/
def isJobSpec (spec : ServiceSpec) : Bool :=
  match spec.mode with
  | some (.replicatedJob ..) | some .globalJob => true
  | _ => false

/-- `validateJob`. -/
def validateJob (spec : ServiceSpec) : Except Status Unit :=
  if spec.update.isSome then .error ⟨.invalidArgument, "Jobs may not have an update config"⟩ else .ok ()

/-- `validateServiceSpec`. -/
def validateServiceSpec (env : Env) : Option ServiceSpec → Except Status Unit
  | none => .error ⟨.invalidArgument, errInvalidArgument.message⟩
  | some spec => do
    validateAnnotations spec.annotations
    validateTaskSpec env spec.task
    validateMode spec
    -- a job has no update config to validate
    if isJobSpec spec then validateJob spec else validateUpdate spec.update
    validateEndpointSpec spec.endpoint

end SwarmKit.Controlapi.Validation

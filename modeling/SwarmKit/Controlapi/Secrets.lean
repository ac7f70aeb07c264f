import SwarmKit.Watchapi.Server

/-
The control API's secret and cluster calls, and the secret material of
the objects they and the watch API return (manager/controlapi/secret.go
`GetSecret`, `UpdateSecret`, `ListSecrets`, `CreateSecret`,
`validateSecretSpec`; cluster.go `GetCluster`, `ListClusters`,
`redactClusters`, `filterClusters`; common.go `filterContains`,
`filterContainsPrefix`, `filterMatchLabels`,
`validateConfigOrSecretAnnotations`; api/validation/secrets.go
`ValidateSecretPayload`; state/store/secrets.go `CreateSecret`,
`UpdateSecret`; memory.go `tx.create`, `tx.update`).

# The objects

A secret is its spec (annotations, data, driver) and its `Internal`
flag. A cluster is what `redactClusters` reads of an `api.Cluster`: the
spec's annotations and CA config, the root CA and its rotation, the
network bootstrap keys, the Lamport clock, the blacklist, the unlock
keys, `FIPS`, and the address pool and VXLAN settings. Byte fields are
lists of bytes, empty for nil (proto3 does not send an empty bytes
field, so the two do not differ on the wire). `Body` is what a store
object holds, as the watch API sees it.

# Secret material

`scrub` clears what is secret: a secret's data; the spec's signing CA
key, the root CA's key and its rotation's key; the key bytes of the
network bootstrap and unlock keys. Two stores differ only in secret
material when they scrub to the same.

# The calls

Reads go through a `StoreView`: the two tables in memdb's `All` order.
`ListClusters` first asks the store for the clusters its first
non-empty filter selects (case-insensitively) and then keeps those that
pass every filter exactly; the first selection holds every cluster the
second keeps, so the model filters the whole table once. The writes of
`CreateSecret` and `UpdateSecret` run in a transaction stamped with
`curVersion` at the clock reading `now`; their replies are modelled, the
tables after them are not. `UpdateCluster` is not modelled: its root CA
validation parses certificates and keys.
-/

namespace SwarmKit.Controlapi

open SwarmKit.Store

-- ========================= objects

/-- `api.Annotations`: a name, and labels (`map[string]string`) as an
association list. -/
structure Annotations where
  name : String
  labels : List (String × String)
  deriving DecidableEq, Repr

/-- `api.SecretSpec` as the calls read it; `driver` is the driver's name
when one is set. `Templating` is not read. -/
structure SecretSpec where
  annotations : Annotations
  data : List Nat
  driver : Option String
  deriving DecidableEq, Repr

/-- `api.Secret` but its ID and meta, which are the store object's. -/
structure SecretBody where
  spec : SecretSpec
  internal : Bool
  deriving DecidableEq, Repr

/-- `api.EncryptionKey`. -/
structure EncryptionKey where
  subsystem : String
  key : List Nat
  lamportTime : Nat
  deriving DecidableEq, Repr

/-- `api.CAConfig`: the signing pair and the forced-rotation counter. -/
structure CAConfig where
  signingCACert : List Nat
  signingCAKey : List Nat
  forceRotate : Nat
  deriving DecidableEq, Repr

/-- `api.ClusterSpec`: its annotations and CA config. -/
structure ClusterSpec where
  annotations : Annotations
  caConfig : CAConfig
  deriving DecidableEq, Repr

/-- `api.RootRotation`. -/
structure RootRotation where
  caCert : List Nat
  caKey : List Nat
  crossSignedCACert : List Nat
  deriving DecidableEq, Repr

/-- `api.RootCA`; `joinTokens` is the worker token and the manager token. -/
structure RootCA where
  caKey : List Nat
  caCert : List Nat
  caCertHash : String
  joinTokens : String × String
  rootRotation : Option RootRotation
  lastForcedRotation : Nat
  deriving DecidableEq, Repr

/-- `api.Cluster` but its ID and meta. `blacklistedCertificates` maps a
certificate's key to its expiry. -/
structure ClusterBody where
  spec : ClusterSpec
  rootCA : RootCA
  networkBootstrapKeys : List EncryptionKey
  encryptionKeyLamportClock : Nat
  blacklistedCertificates : List (String × Option Nat)
  unlockKeys : List EncryptionKey
  fips : Bool
  defaultAddressPool : List String
  subnetSize : Nat
  vxlanUDPPort : Nat
  deriving DecidableEq, Repr

/-- What a store object holds: a secret, a cluster, or an object of
another table, none of whose fields is secret here. -/
inductive Body
  | secret (s : SecretBody)
  | cluster (c : ClusterBody)
  | other (n : Nat)
  deriving DecidableEq, Repr

-- ================= secret material

/-- A key with its bytes cleared. -/
def EncryptionKey.scrub (k : EncryptionKey) : EncryptionKey := { k with key := [] }

def SecretBody.scrub (s : SecretBody) : SecretBody := { s with spec := { s.spec with data := [] } }

def ClusterBody.scrub (c : ClusterBody) : ClusterBody :=
  { c with
    spec := { c.spec with caConfig := { c.spec.caConfig with signingCAKey := [] } }
    rootCA := { c.rootCA with caKey := [], rootRotation := c.rootCA.rootRotation.map fun r => { r with caKey := [] } }
    networkBootstrapKeys := c.networkBootstrapKeys.map EncryptionKey.scrub
    unlockKeys := c.unlockKeys.map EncryptionKey.scrub }

def Body.scrub : Body → Body
  | .secret s => .secret s.scrub
  | .cluster c => .cluster c.scrub
  | .other n => .other n

/-- An object with its body scrubbed. -/
def scrubObject {B : Type} (scrub : B → B) (o : Object B) : Object B := { o with body := scrub o.body }

/-- A store event with every object it carries scrubbed. -/
def scrubEvent : Event Body → Event Body
  | .create t o => .create t (scrubObject Body.scrub o)
  | .update t o old => .update t (scrubObject Body.scrub o) (old.map (scrubObject Body.scrub))
  | .delete t o => .delete t (scrubObject Body.scrub o)
  | .commit v => .commit v

-- ======================= the store

/-- The secret and cluster tables as a read transaction sees them. -/
structure StoreView where
  secrets : List (Object SecretBody)
  clusters : List (Object ClusterBody)
  deriving DecidableEq, Repr

def StoreView.scrub (v : StoreView) : StoreView :=
  ⟨v.secrets.map (scrubObject SecretBody.scrub), v.clusters.map (scrubObject ClusterBody.scrub)⟩

/-- `store.GetSecret`. -/
def StoreView.getSecret (v : StoreView) (id : Nat) : Option (Object SecretBody) :=
  v.secrets.find? (·.id == id)

/-- `store.GetCluster`. -/
def StoreView.getCluster (v : StoreView) (id : Nat) : Option (Object ClusterBody) :=
  v.clusters.find? (·.id == id)

/-- The name index's key: `strings.ToLower` of the name. -/
def nameKey (name : String) : List Char := name.toList.map Char.toLower

/-- A lookup on the secret table's name index. -/
def StoreView.secretByName (v : StoreView) (name : String) : Option (Object SecretBody) :=
  v.secrets.find? fun s => nameKey s.body.spec.annotations.name == nameKey name

-- ========================= replies

/-- The gRPC codes of the control API's replies; a store error returned
as it is reaches the client as `Unknown`. -/
inductive Code
  | invalidArgument
  | notFound
  | alreadyExists
  | failedPrecondition
  | unimplemented
  | unknown
  deriving DecidableEq, Repr

/-- A gRPC status: its code and message. -/
structure Status where
  code : Code
  message : String
  deriving DecidableEq, Repr

/-- The store errors of the writes here: `ErrExist`, `ErrNotExist`,
`ErrNameConflict`, `ErrSequenceConflict`. -/
inductive StoreErr
  | exist
  | notExist
  | nameConflict
  | sequenceConflict
  deriving DecidableEq, Repr

/-- A store error returned as it is. -/
def StoreErr.status : StoreErr → Status
  | .exist => ⟨.unknown, "object already exists"⟩
  | .notExist => ⟨.unknown, "object does not exist"⟩
  | .nameConflict => ⟨.unknown, "name conflicts with an existing object"⟩
  | .sequenceConflict => ⟨.unknown, "update out of sequence"⟩

/-- `errInvalidArgument`. -/
def errInvalidArgument : Status := ⟨.invalidArgument, "invalid argument"⟩

/-- `validation.MaxSecretSize`. -/
def maxSecretSize : Nat := 500 * 1024

/-- What every secret call does before it replies: `Spec.Data = nil`. -/
def redactSecret (s : Object SecretBody) : Object SecretBody :=
  { s with body := { s.body with spec := { s.body.spec with data := [] } } }

-- ========================= secrets

/-- `GetSecret`; `none` is the empty ID. -/
def getSecret (v : StoreView) (secretID : Option Nat) : Except Status (Object SecretBody) :=
  match secretID with
  | none => .error ⟨.invalidArgument, "secret ID must be provided"⟩
  | some secretID =>
    match v.getSecret secretID with
    | none => .error ⟨.notFound, s!"secret {secretID} not found"⟩
    | some secret => .ok (redactSecret secret)

/-- `api.UpdateSecretRequest`. -/
structure UpdateSecretRequest where
  secretID : Option Nat
  secretVersion : Option Version
  spec : SecretSpec
  deriving DecidableEq, Repr

/-- `tx.update` on the secret table: the stored secret under the ID, its
version checked when the transaction has one, the meta stamped. -/
def StoreView.txUpdateSecret (curVersion : Option Version) (now : Nat) (v : StoreView)
    (secret : Object SecretBody) : Except StoreErr (Object SecretBody) :=
  match v.getSecret secret.id with
  | none => .error .notExist
  | some old =>
    if curVersion.isSome ∧ old.objMeta.version ≠ secret.objMeta.version then .error .sequenceConflict
    else .ok { secret with objMeta := touchMeta secret.objMeta curVersion now }

/-- `store.UpdateSecret`: the name must be free or the secret's own. -/
def StoreView.updateSecret (curVersion : Option Version) (now : Nat) (v : StoreView)
    (secret : Object SecretBody) : Except StoreErr (Object SecretBody) :=
  match v.secretByName secret.body.spec.annotations.name with
  | some existing =>
    if existing.id ≠ secret.id then .error .nameConflict
    else v.txUpdateSecret curVersion now secret
  | none => v.txUpdateSecret curVersion now secret

/-- What `UpdateSecret` does to the stored secret before writing it back:
`secret.Meta.Version = *request.SecretVersion` and
`secret.Spec.Annotations.Labels = request.Spec.Annotations.Labels`. -/
def relabel (secret : Object SecretBody) (version : Version) (labels : List (String × String)) :
    Object SecretBody :=
  { secret with
    objMeta := { secret.objMeta with version }
    body := { secret.body with
      spec := { secret.body.spec with annotations := { secret.body.spec.annotations with labels } } } }

/-- `UpdateSecret`: only the labels may change. The reply is the secret
as written, its version the request's as `tx.update` stamped it. -/
def updateSecret (curVersion : Option Version) (now : Nat) (v : StoreView)
    (request : UpdateSecretRequest) : Except Status (Object SecretBody) :=
  match request.secretID, request.secretVersion with
  | some secretID, some secretVersion =>
    match v.getSecret secretID with
    | none => .error ⟨.notFound, s!"secret {secretID} not found"⟩
    | some secret =>
      -- the name must stay, and data, when sent, must be what is stored
      -- (`subtle.ConstantTimeCompare`)
      if secret.body.spec.annotations.name ≠ request.spec.annotations.name ∨
          (request.spec.data ≠ [] ∧ request.spec.data ≠ secret.body.spec.data) then
        .error ⟨.invalidArgument, "only updates to Labels are allowed"⟩
      else
        match v.updateSecret curVersion now (relabel secret secretVersion request.spec.annotations.labels) with
        | .error e => .error e.status
        | .ok secret => .ok (redactSecret secret)
  | _, _ => .error errInvalidArgument

/-- `filterContains`. -/
def filterContains (m : String) (candidates : List String) : Bool :=
  candidates.isEmpty || candidates.contains m

/-- `filterContainsPrefix`: `strings.HasPrefix(match, c)`. -/
def filterContainsPrefix (m : String) (candidates : List String) : Bool :=
  candidates.isEmpty || candidates.any fun c => c.toList.isPrefixOf m.toList

/-- `filterMatchLabels`: every candidate label is present, with the
candidate's value unless that is empty. -/
def filterMatchLabels (m : List (String × String)) (candidates : List (String × String)) : Bool :=
  candidates.all fun (k, val) =>
    match m.lookup k with
    | none => false
    | some c => val == "" || val == c

/-- `api.ListSecretsRequest_Filters` / `api.ListClustersRequest_Filters`;
an absent `Filters` is the empty one. -/
structure ListFilters where
  names : List String
  namePrefixes : List String
  idPrefixes : List String
  labels : List (String × String)
  deriving DecidableEq, Repr

/-- `tx.find`'s results: the objects of each iterator in turn, an ID
seen before skipped. -/
def dedupByID {B : Type} (objects : List (Object B)) : List (Object B) :=
  objects.foldl (fun acc o => if acc.any (·.id == o.id) then acc else acc ++ [o]) []

/-- The `store.By`s `ListSecrets` ORs: `ByName` of each name, `ByNamePrefix`
of each name prefix, `ByIDPrefix` of each ID prefix. Names are compared
as the name index keys them. -/
def ListFilters.secretBys (f : ListFilters) : List (Object SecretBody → Bool) :=
  f.names.map (fun n s => nameKey s.body.spec.annotations.name == nameKey n) ++
    f.namePrefixes.map (fun p s => (nameKey p).isPrefixOf (nameKey s.body.spec.annotations.name)) ++
    f.idPrefixes.map (fun p s => p.toList.isPrefixOf (toString s.id).toList)

/-- `store.FindSecrets`: `All` without a selection, otherwise each
selection's secrets in turn (in the table's order, for the index's),
each secret once. -/
def StoreView.findSecrets (v : StoreView) (bys : List (Object SecretBody → Bool)) :
    List (Object SecretBody) :=
  match bys with
  | [] => v.secrets
  | bys => dedupByID (bys.flatMap fun sel => v.secrets.filter sel)

/-- `ListSecrets`: the store's selection, without internal secrets and
those whose labels do not match, redacted. -/
def listSecrets (v : StoreView) (filters : ListFilters) : List (Object SecretBody) :=
  ((v.findSecrets filters.secretBys).filter fun s =>
    !s.body.internal && filterMatchLabels s.body.spec.annotations.labels filters.labels).map redactSecret

/-- `isValidConfigOrSecretName`:
`^[a-zA-Z0-9]+(?:[a-zA-Z0-9-_.]*[a-zA-Z0-9])?$`. -/
def isValidConfigOrSecretName (name : String) : Bool :=
  match name.toList with
  | [] => false
  | c :: cs =>
    c.isAlphanum && cs.all (fun c => c.isAlphanum || c == '-' || c == '_' || c == '.') &&
      (cs.getLast?.all Char.isAlphanum)

/-- `validateConfigOrSecretAnnotations`. -/
def validateConfigOrSecretAnnotations (m : Annotations) : Except Status Unit :=
  if m.name = "" then .error ⟨.invalidArgument, "name must be provided"⟩
  else if m.name.length > 64 ∨ !isValidConfigOrSecretName m.name then
    .error ⟨.invalidArgument,
      "invalid name, only 64 [a-zA-Z0-9-_.] characters allowed, and the start and end character must be [a-zA-Z0-9]"⟩
  else .ok ()

/-- `validateSecretSpec`: a secret with a driver needs the driver's
name; one without needs data of an allowed size. -/
def validateSecretSpec (spec : SecretSpec) : Except Status Unit := do
  validateConfigOrSecretAnnotations spec.annotations
  match spec.driver with
  | some name => if name = "" then .error ⟨.invalidArgument, "secret driver must have a name"⟩ else .ok ()
  | none =>
    if spec.data.length ≥ maxSecretSize ∨ spec.data.length < 1 then
      .error ⟨.invalidArgument, s!"secret data must be larger than 0 and less than {maxSecretSize} bytes"⟩
    else .ok ()

/-- `store.CreateSecret`: the name must be free, then `tx.create`
refuses a taken ID and stamps the meta. -/
def StoreView.createSecret (curVersion : Option Version) (now : Nat) (v : StoreView)
    (secret : Object SecretBody) : Except StoreErr (Object SecretBody) :=
  if (v.secretByName secret.body.spec.annotations.name).isSome then .error .nameConflict
  else if (v.getSecret secret.id).isSome then .error .exist
  else .ok { secret with objMeta := touchMeta secret.objMeta curVersion now }

/-- `CreateSecret`; `newSecretDriver` loads the driver's plugin, `newID`
is `identity.NewID()`. The store's name conflict is `AlreadyExists`. -/
def createSecret (newSecretDriver : String → Except String Unit) (newID : Nat)
    (curVersion : Option Version) (now : Nat) (v : StoreView) (spec : SecretSpec) :
    Except Status (Object SecretBody) := do
  validateSecretSpec spec
  match spec.driver with
  | some name =>
    match newSecretDriver name with
    | .error e => throw ⟨.unknown, e⟩
    | .ok () => pure ()
  | none => pure ()
  let secret : Object SecretBody := ⟨newID, ⟨⟨0⟩, none, none⟩, ⟨spec, false⟩⟩
  match v.createSecret curVersion now secret with
  | .error .nameConflict => throw ⟨.alreadyExists, s!"secret {spec.annotations.name} already exists"⟩
  | .error e => throw e.status
  | .ok secret => pure (redactSecret secret)

-- ======================== clusters

/-- `inbuiltDefaultAddressPool`. -/
def inbuiltDefaultAddressPool : List String := ["10.0.0.0/8"]

/-- `inbuiltSubnetSize`. -/
def inbuiltSubnetSize : Nat := 24

/-- `defaultVXLANPort`. -/
def defaultVXLANPort : Nat := 4789

/-- One cluster of `redactClusters`: a copy of the public fields, the
spec's signing pair and the CA keys cleared, and the address pool and
VXLAN port shown with their defaults. -/
def redactCluster (cluster : Object ClusterBody) : Object ClusterBody :=
  let c := cluster.body
  let redactedSpec := { c.spec with caConfig := { c.spec.caConfig with signingCAKey := [], signingCACert := [] } }
  let redactedRootCA := { c.rootCA with caKey := [], rootRotation := c.rootCA.rootRotation.map fun r => { r with caKey := [] } }
  let newCluster : ClusterBody :=
    { spec := redactedSpec
      rootCA := redactedRootCA
      networkBootstrapKeys := []
      encryptionKeyLamportClock := 0
      blacklistedCertificates := c.blacklistedCertificates
      unlockKeys := []
      fips := false
      defaultAddressPool := c.defaultAddressPool
      subnetSize := c.subnetSize
      vxlanUDPPort := c.vxlanUDPPort }
  let newCluster := if newCluster.defaultAddressPool = [] then
      { newCluster with defaultAddressPool := inbuiltDefaultAddressPool, subnetSize := inbuiltSubnetSize }
    else newCluster
  let newCluster := if newCluster.vxlanUDPPort = 0 then { newCluster with vxlanUDPPort := defaultVXLANPort }
    else newCluster
  ⟨cluster.id, cluster.objMeta, newCluster⟩

/-- `redactClusters`. -/
def redactClusters (clusters : List (Object ClusterBody)) : List (Object ClusterBody) :=
  clusters.map redactCluster

/-- `GetCluster`; `none` is the empty ID. -/
def getCluster (v : StoreView) (clusterID : Option Nat) : Except Status (Object ClusterBody) :=
  match clusterID with
  | none => .error errInvalidArgument
  | some clusterID =>
    match v.getCluster clusterID with
    | none => .error ⟨.notFound, s!"cluster {clusterID} not found"⟩
    | some cluster => .ok (redactCluster cluster)

/-- `filterClusters` with `ListClusters`' four filters. -/
def ListFilters.keepsCluster (f : ListFilters) (c : Object ClusterBody) : Bool :=
  filterContains c.body.spec.annotations.name f.names &&
    filterContainsPrefix c.body.spec.annotations.name f.namePrefixes &&
    filterContainsPrefix (toString c.id) f.idPrefixes &&
    filterMatchLabels c.body.spec.annotations.labels f.labels

/-- `ListClusters`; `none` is an absent `Filters`. -/
def listClusters (v : StoreView) (filters : Option ListFilters) : List (Object ClusterBody) :=
  match filters with
  | none => redactClusters v.clusters
  | some f => redactClusters (v.clusters.filter f.keepsCluster)

end SwarmKit.Controlapi

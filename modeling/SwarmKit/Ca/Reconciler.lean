import SwarmKit.Orchestrator.Task
import SwarmKit.Lib.Lts

/-
The root-rotation reconciler (ca/reconciler.go `rootRotationReconciler`,
`IssuerFromAPIRootCA`, `hasIssuer`, `UpdateRootCA`, `UpdateNode`,
`DeleteNode`), driven by the CA server's loop (ca/server.go `Run`).

# The data

A certificate is its PEM bytes and, when they parse, the issuer it
names: the raw subject and public key (`IssuerInfo`). Two certificates
can differ in their bytes and name the same issuer: a root certificate
re-issued with the same subject and key. A root CA is its certificate
and an optional `RootRotation` with the certificate rotated to. A node
is its ID and the issuer of its TLS certificate, `none` when its
`Description` or `TLSInfo` is nil.

# The reconciler

Its fields are the root CA last handed to it, the issuer it then
wanted, the nodes that still need a certificate from that issuer (a Go
map that may be nil), and the root CA of the last reconciler loop it
started (the loop's own batches of node updates and its final cluster
update come back to it as store events).

# Events

The CA server creates the reconciler with every field zero, then hands
it the cluster's root CA and, from then on, each node created, updated
or deleted in the store and each update of the cluster. A store change
and its event are one step here. `UpdateNode` writes into
`unconvergedNodes`; a write into a nil map is a run-time panic, the
`none` of `step`.
-/

namespace SwarmKit.Ca.Rotation

open SwarmKit.Orchestrator (Table)

-- ======================== the data

/-- `IssuerInfo`: the raw subject and public key of an issuer. -/
structure IssuerInfo where
  subject : Nat
  publicKey : Nat
  deriving DecidableEq, Repr

/-- A PEM certificate: its bytes, and the issuer it names when it
parses (`none` for a PEM that holds no valid certificate). -/
structure Cert where
  raw : Nat
  issuer : Option IssuerInfo
  deriving DecidableEq, Repr

/-- `api.RootRotation`, as far as the reconciler reads it. -/
structure RootRotation where
  caCert : Cert
  deriving DecidableEq, Repr

/-- `api.RootCA`, as far as the reconciler reads it. -/
structure RootCA where
  caCert : Cert
  rootRotation : Option RootRotation
  deriving DecidableEq, Repr

/-- What the reconciler reads of an `api.Node`: its ID and the issuer of
its TLS certificate (`Description.TLSInfo`). -/
structure Node where
  id : Nat
  tlsInfo : Option IssuerInfo
  deriving DecidableEq, Repr

/-- `IssuerFromAPIRootCA`: the issuer of the rotation's certificate
during a rotation, of the root certificate otherwise; `none` for the
error of a certificate that does not parse. -/
def issuerFromAPIRootCA (rootCA : RootCA) : Option IssuerInfo :=
  match rootCA.rootRotation with
  | some r => r.caCert.issuer
  | none => rootCA.caCert.issuer

/-- `hasIssuer`: the node's TLS certificate was issued by `info`. The
reconciler's zero `IssuerInfo` (`none`) has a nil subject and key, which
no parsed certificate's issuer has. -/
def hasIssuer (n : Node) (info : Option IssuerInfo) : Bool :=
  match n.tlsInfo with
  | none => false
  | some i => some i = info

/-- The nodes of the store by ID, each stored under its own ID. -/
structure NodeStore where
  nodes : Table Node
  keyed : ∀ id n, nodes.lookup id = some n → n.id = id

/-- A created or updated node. -/
def NodeStore.put (n : Node) (st : NodeStore) : NodeStore :=
  ⟨st.nodes.insert n.id n, fun id m h => by
    rcases AList.lookup_insert_eq_some h with ⟨rfl, rfl⟩ | ⟨-, h⟩
    · rfl
    · exact st.keyed id m h⟩

/-- A deleted node. -/
def NodeStore.delete (id : Nat) (st : NodeStore) : NodeStore :=
  ⟨st.nodes.erase id, fun k m h => st.keyed k m (AList.lookup_erase_eq_some h).2⟩

/-- `store.FindNodes(tx, store.All)`. -/
def NodeStore.findNodes (st : NodeStore) : List Node :=
  st.nodes.entries.map Sigma.snd

-- ================== the reconciler

/-- `rootRotationReconciler`: the fields the handlers read and write. -/
structure RootRotationReconciler where
  currentRootCA : Option RootCA
  /-- `none` for the zero `IssuerInfo`. -/
  currentIssuer : Option IssuerInfo
  /-- `none` for a nil map. -/
  unconvergedNodes : Option (Table Node)
  /-- The root CA of the last loop started; `none` while `cancel` is nil. -/
  loop : Option RootCA

/-- The reconciler as `Run` creates it: every field zero. -/
def RootRotationReconciler.zero : RootRotationReconciler := ⟨none, none, none, none⟩

namespace RootRotationReconciler

/-- The loop that builds `unconvergedNodes` in `UpdateRootCA`: every
listed node without the issuer, under its ID. -/
def unconvergedFrom (nodes : List Node) (issuerInfo : IssuerInfo) : Table Node :=
  nodes.foldl (fun m n => if !hasIssuer n (some issuerInfo) then m.insert n.id n else m) ∅

/-- `UpdateRootCA(newRootCA)`, with the nodes the store lists. An issuer
that does not parse changes nothing; an unchanged issuer only records
the root CA; a changed one with a rotation rebuilds `unconvergedNodes`
from the store and starts a loop for the new root CA, and without a
rotation clears the map. -/
def updateRootCA (newRootCA : RootCA) (nodes : List Node) (r : RootRotationReconciler) :
    RootRotationReconciler :=
  match issuerFromAPIRootCA newRootCA with
  | none => r
  | some issuerInfo =>
    if r.currentIssuer = some issuerInfo then { r with currentRootCA := some newRootCA }
    else if newRootCA.rootRotation.isSome then
      { currentRootCA := some newRootCA, currentIssuer := some issuerInfo,
        unconvergedNodes := some (unconvergedFrom nodes issuerInfo), loop := some newRootCA }
    else
      { r with
        currentRootCA := some newRootCA, currentIssuer := some issuerInfo, unconvergedNodes := none }

/-- `UpdateNode(node)`: ignored outside a rotation; a node with the
issuer leaves `unconvergedNodes` (a delete from a nil map does nothing),
any other is written into it, which panics on a nil map (`none`). -/
def updateNode (node : Node) (r : RootRotationReconciler) : Option RootRotationReconciler :=
  match r.currentRootCA with
  | none => some r
  | some rootCA =>
    if rootCA.rootRotation.isNone then some r
    else if hasIssuer node r.currentIssuer then
      some { r with unconvergedNodes := r.unconvergedNodes.map (·.erase node.id) }
    else
      match r.unconvergedNodes with
      | none => none
      | some m => some { r with unconvergedNodes := some (m.insert node.id node) }

/-- `DeleteNode(node)`. -/
def deleteNode (node : Node) (r : RootRotationReconciler) : RootRotationReconciler :=
  { r with unconvergedNodes := r.unconvergedNodes.map (·.erase node.id) }

end RootRotationReconciler

-- ======================= the world

/-- The store's nodes and the CA server's reconciler. -/
structure World where
  store : NodeStore
  r : RootRotationReconciler

/-- A node created or updated, a node deleted, a cluster update with its
root CA. -/
inductive Event
  | updateNode (n : Node)
  | deleteNode (id : Nat)
  | updateCluster (rootCA : RootCA)
  deriving DecidableEq, Repr

open RootRotationReconciler in
/-- One store change and the reconciler's handling of its event; `none`
is the handler's run-time panic. Deleting an absent node changes nothing
and sends no event. -/
def step : Event → World → Option World
  | .updateNode n, w =>
    let store := w.store.put n
    (updateNode n w.r).map fun r => ⟨store, r⟩
  | .deleteNode id, w =>
    match w.store.nodes.lookup id with
    | none => some w
    | some n => some ⟨w.store.delete id, deleteNode n w.r⟩
  | .updateCluster rootCA, w => some { w with r := updateRootCA rootCA w.store.findNodes w.r }

end SwarmKit.Ca.Rotation

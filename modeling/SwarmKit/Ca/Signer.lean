import SwarmKit.Orchestrator.Task
import SwarmKit.Lib.Lts

/-
The CA server's certificate signing (ca/server.go
`IssueNodeCertificate`, `issueRenewCertificate`, the signing part of
`Run`, `evaluateAndSignNodeCert`, `signNodeCert`, `isFinalState`;
ca/certificates.go `GetRemoteSignedCertificate`, its acceptance test).

# The data

A node is what these read and write of an `api.Node`: its ID, its
`Meta.Version`, its role, its membership and its `Certificate` (CSR,
CN, role, issuance state and the certificate itself). A certificate is
represented by what it was signed for: `signNodeCert` signs the CSR
with the CN and the role as OU, so the signature binds those three. The
organisation is the cluster ID, the same for every certificate, and is
left out. CSRs are numbers: the code only compares them.

# Who writes

`issueRenewCertificate` replaces a node's `Certificate` with a new CSR
in state `RENEW`, for a caller presenting a certificate signed for that
node (a node holds one once a certificate was issued to it);
`IssueNodeCertificate` with a join token creates a node with its CSR in
state `PENDING`; other components update nodes too (status,
description), which moves only the version here. The CA server's loop
handles node events one at a time, and ticks re-evaluate the copies it
keeps in `pending`. For a node to sign, `signNodeCert` keeps a copy,
calls the CA (whose answer is the environment's: a certificate, a
recoverable error, or a failure) and then writes the certificate back
in a retry loop: a write refused with `ErrSequenceConflict` re-reads the
node inside the transaction and tries again with that node.

# The store

Nodes by ID with `Meta.Version`; `UpdateNode` refuses a node whose
version is not the stored one, and a committed write stamps the store's
next version.
-/

namespace SwarmKit.Ca

open SwarmKit.Orchestrator (Table)

-- ======================== the data

/-- `api.NodeRole`. -/
inductive NodeRole
  | worker | manager
  deriving DecidableEq, Repr

/-- `api.NodeSpec_Membership`. -/
inductive Membership
  | pending | accepted
  deriving DecidableEq, Repr

/-- `api.IssuanceState`. -/
inductive IssuanceState
  | unknown | renew | pending | issued | failed | rotate
  deriving DecidableEq, Repr

/-- What a certificate was signed for: the CSR, the CN and the role. -/
structure CertRequest where
  csr : Nat
  cn : Nat
  role : NodeRole
  deriving DecidableEq, Repr

/-- `api.Certificate`: the request fields, the issuance state, and the
certificate (`none` for an empty one). -/
structure Certificate where
  csr : Nat
  cn : Nat
  role : NodeRole
  state : IssuanceState
  cert : Option CertRequest
  deriving DecidableEq, Repr

/-- The request a certificate entry asks to have signed. -/
def Certificate.request (c : Certificate) : CertRequest := ⟨c.csr, c.cn, c.role⟩

/-- What the CA server reads and writes of an `api.Node`. -/
structure Node where
  id : Nat
  version : Nat
  role : NodeRole
  membership : Membership
  certificate : Certificate
  deriving DecidableEq, Repr

/-- The node table and the version the next committed write stamps. -/
structure Store where
  nodes : Table Node
  version : Nat

/-- The errors of `store.UpdateNode`: `ErrNotExist`, `ErrSequenceConflict`. -/
inductive UpdateErr
  | notExist | sequenceConflict
  deriving DecidableEq, Repr

/-- `store.UpdateNode`: refused for an unknown node or a stale version;
otherwise the node is stored with the store's next version. -/
def Store.updateNode (n : Node) (st : Store) : Except UpdateErr Store :=
  match st.nodes.lookup n.id with
  | none => .error .notExist
  | some old =>
    if old.version ≠ n.version then .error .sequenceConflict
    else .ok ⟨st.nodes.insert n.id { n with version := st.version + 1 }, st.version + 1⟩

/-- A write of a node read in the same transaction: never stale. -/
def Store.rewrite (id : Nat) (f : Node → Node) (st : Store) : Option Store :=
  (st.nodes.lookup id).map fun n =>
    ⟨st.nodes.insert id { f n with id := id, version := st.version + 1 }, st.version + 1⟩

-- ====================== the signer

/-- `isFinalState`. -/
def isFinalState (s : IssuanceState) : Bool :=
  s = .issued || s = .failed || s = .rotate

/-- Whether `evaluateAndSignNodeCert` calls `signNodeCert` for the node. -/
def shouldSign (n : Node) : Bool :=
  let certState := n.certificate.state
  if n.membership = .accepted ∧ (certState = .issued ∨ certState = .rotate) then false
  else if certState = .renew then true
  else n.membership = .accepted ∧ certState = .pending

/-- The CA's answer to a signing request. -/
inductive SignOutcome
  | ok
  | recoverable
  | failed
  deriving DecidableEq, Repr

/-- Where the server's signing is: not signing, waiting for the CA with
the copy it signs for, or in the write-back loop with its `node`
variable and the certificate. -/
inductive SignerPc
  | idle
  | signing (node : Node)
  | writing (node : Node) (cert : CertRequest)
  deriving DecidableEq, Repr

/-- The store, the server's `pending` copies and its signing; and
(ghost) the nodes holding a certificate the CA signed for them, which
they present to renew it. -/
structure World where
  store : Store
  pending : Table Node
  pc : SignerPc
  certified : List Nat

/-- `evaluateAndSignNodeCert(node)` from an idle server: a node to sign
is copied into `pending` and sent to the CA. -/
def evaluateAndSignNodeCert (n : Node) (w : World) : World :=
  if shouldSign n then { w with pending := w.pending.insert n.id n, pc := .signing n } else w

/-- The end of the CA call. A certificate goes to the write-back loop.
An error on a copy already `FAILED` drops the copy; otherwise a
recoverable error leaves everything for a later tick, and a failure
marks the node as it is stored now `FAILED`. -/
def signed (outcome : SignOutcome) (n : Node) (w : World) : World :=
  if outcome = .ok then { w with pc := .writing n n.certificate.request }
  else if n.certificate.state = .failed then { w with pending := w.pending.erase n.id, pc := .idle }
  else if outcome = .recoverable then { w with pc := .idle }
  else
    -- the transaction reads the node by ID: whatever it holds now is marked
    let store := (w.store.rewrite n.id fun m =>
      { m with certificate := { m.certificate with state := .failed } }).getD w.store
    { w with store, pending := w.pending.erase n.id, pc := .idle }

/-- One pass of the write-back loop: the certificate goes onto the
loop's `node`; on `ErrSequenceConflict` the node is re-read and the loop
goes on with it; a vanished node ends the loop. -/
def writeBack (n : Node) (cert : CertRequest) (w : World) : World :=
  let n' := { n with certificate := { n.certificate with cert := some cert, state := .issued } }
  match w.store.updateNode n' with
  | .ok store => { store, pending := w.pending.erase n.id, pc := .idle, certified := n.id :: w.certified }
  | .error .sequenceConflict =>
    match w.store.nodes.lookup n.id with
    | some current => { w with pc := .writing current cert }
    | none => { w with pc := .idle }
  | .error .notExist => { w with pc := .idle }

/-- `issueRenewCertificate(nodeID, csr)`: the node's certificate entry
becomes the new CSR, its ID as CN and its role, in state `RENEW`. -/
def issueRenewCertificate (id csr : Nat) (w : World) : Option World :=
  (w.store.rewrite id fun n =>
    { n with certificate := ⟨csr, n.id, n.role, .renew, none⟩ }).map fun store => { w with store }

/-- `IssueNodeCertificate` with a join token: a new node, accepted, with
its CSR pending. The ID is fresh (`identity.NewID`, retried on a
collision). -/
def issueNodeCertificate (id csr : Nat) (role : NodeRole) (w : World) : Option World :=
  if id ∈ w.store.nodes then none
  else
    let n : Node := ⟨id, w.store.version + 1, role, .accepted, ⟨csr, id, role, .pending, none⟩⟩
    some { w with store := ⟨w.store.nodes.insert id n, w.store.version + 1⟩ }

/-- `GetRemoteSignedCertificate`'s acceptance: a final answer in state
`ISSUED` or `ROTATE` whose CSR is the one the node submitted. -/
def acceptedCertificate (c : Certificate) (csr : Nat) : Option CertRequest :=
  if (c.state = .issued ∨ c.state = .rotate) ∧ c.csr = csr then c.cert else none

/-- What happens next: a renewal by a node holding a certificate (the
caller `IssueNodeCertificate` authorizes by it, or the local manager), a
join, another component's update of
a node, a node event for the server's loop (`created` for a create
event), a tick re-evaluating a `pending` copy, the CA's answer, and a
pass of the write-back loop. -/
inductive Act
  | renew (id csr : Nat)
  | join (id csr : Nat) (role : NodeRole)
  | touch (id : Nat)
  | nodeEvent (id : Nat) (created : Bool)
  | tick (id : Nat)
  | sign (outcome : SignOutcome)
  | write

def step : Act → World → Option World
  | .renew id csr, w => if id ∈ w.certified then issueRenewCertificate id csr w else none
  | .join id csr role, w => issueNodeCertificate id csr role w
  | .touch id, w => (w.store.rewrite id fun n => n).map fun store => { w with store }
  | .nodeEvent id created, w =>
    match w.pc, w.store.nodes.lookup id with
    | .idle, some n =>
      -- an update event in a final state is not evaluated
      if created ∨ ¬isFinalState n.certificate.state then some (evaluateAndSignNodeCert n w)
      else some w
    | _, _ => none
  | .tick id, w =>
    match w.pc, w.pending.lookup id with
    | .idle, some n => some (evaluateAndSignNodeCert n w)
    | _, _ => none
  | .sign outcome, w =>
    match w.pc with
    | .signing n => some (signed outcome n w)
    | _ => none
  | .write, w =>
    match w.pc with
    | .writing n cert => some (writeBack n cert w)
    | _ => none

end SwarmKit.Ca

import SwarmKit.Ca.Signer

/-
Which certificate a node stored `ISSUED` holds (`Signer.lean`).

# What holds

`IssuedMatches`: every node stored in state `ISSUED` holds the
certificate signed for its own CSR, CN and role. The writers that do
not issue (renewal, join, other updates, marking `FAILED`) leave every
issued node as it was or make it not issued; the write-back loop issues
its certificate onto its `node` variable, so it keeps the property as
long as that certificate was signed for that node's request (`Agrees`).

# What breaks it

The loop's first `node` is the copy it signed for. A write refused for a
stale version re-reads the node and keeps the certificate; if a renewal
changed the node's CSR in between, the loop now holds a certificate
signed for another request (`Rerequested`). That is the only step the
invariant does not survive (`inv_step`): in runs without it every
issued node holds its own certificate (`issued_matches_steady`), and in
a run with it a renewed node is marked `ISSUED` with the certificate of
its previous CSR, which the node then accepts, since the CSR the server
stores with it is the new one (`renewal_issued_with_stale_certificate`).
The failure path has the same shape: it marks whatever node is stored
under the ID `FAILED`, so a renewal filed while the old CSR was being
signed fails with it.
-/

namespace SwarmKit.Ca

variable {w w' : World} {st st' : Store}

-- ======================= the store

/-- Every node stored `ISSUED` holds the certificate signed for its own
request. -/
def IssuedMatches (st : Store) : Prop :=
  ∀ id n, st.nodes.lookup id = some n → n.certificate.state = .issued →
    n.certificate.cert = some n.certificate.request

/-- A certificate entry that is not issued, or holds its own certificate. -/
def Certificate.Sound (c : Certificate) : Prop := c.state = .issued → c.cert = some c.request

/-- A write of a node read in the transaction keeps the property when it
leaves the certificate entry sound. -/
theorem IssuedMatches.rewrite (h : IssuedMatches st) {id : Nat} {f : Node → Node}
    (hf : ∀ n, st.nodes.lookup id = some n → (f n).certificate.Sound)
    (hr : st.rewrite id f = some st') : IssuedMatches st' := by
  unfold Store.rewrite at hr
  obtain ⟨n, hn, rfl⟩ := Option.map_eq_some_iff.mp hr
  intro k m hk
  rcases AList.lookup_insert_eq_some hk with ⟨-, rfl⟩ | ⟨-, hk⟩
  · exact hf n hn
  · exact h k m hk

/-- A committed `UpdateNode` of a sound entry keeps the property. -/
theorem IssuedMatches.updateNode (h : IssuedMatches st) {n : Node} (hn : n.certificate.Sound)
    (hu : st.updateNode n = .ok st') : IssuedMatches st' := by
  unfold Store.updateNode at hu
  split at hu
  · cases hu
  · split at hu
    · cases hu
    · cases hu
      intro k m hk
      rcases AList.lookup_insert_eq_some hk with ⟨-, rfl⟩ | ⟨-, hk⟩
      · exact hn
      · exact h k m hk

-- ====================== the signer

/-- The write-back loop's certificate was signed for its `node`'s
request. -/
def Agrees : SignerPc → Prop
  | .writing n cert => cert = n.certificate.request
  | _ => True

/-- The signing invariant. -/
structure Inv (w : World) : Prop where
  issued : IssuedMatches w.store
  agrees : Agrees w.pc

/-- The write-back loop meets a stale version and re-reads a node whose
request has changed since its certificate was signed. -/
def rerequests : Act → World → Bool
  | .write, w =>
    match w.pc with
    | .writing n cert =>
      match w.store.nodes.lookup n.id with
      | some current => current.version ≠ n.version && current.certificate.request ≠ cert
      | none => false
    | _ => false
  | _, _ => false

theorem evaluateAndSignNodeCert_inv (h : Inv w) (n : Node) : Inv (evaluateAndSignNodeCert n w) := by
  unfold evaluateAndSignNodeCert
  split
  · exact ⟨h.issued, trivial⟩
  · exact h

theorem signed_inv (h : Inv w) (outcome : SignOutcome) (n : Node) : Inv (signed outcome n w) := by
  unfold signed
  split
  · exact ⟨h.issued, rfl⟩
  · split
    · exact ⟨h.issued, trivial⟩
    · split
      · exact ⟨h.issued, trivial⟩
      · refine ⟨?_, trivial⟩
        dsimp only
        -- marking the stored node `FAILED` leaves nothing issued behind
        cases hr : w.store.rewrite n.id fun m =>
            { m with certificate := { m.certificate with state := .failed } } with
        | none => exact h.issued
        | some st' => exact h.issued.rewrite (fun _ _ hs => by cases hs) hr

/-- A write refused for a stale version found the node stored with
another version. -/
theorem Store.updateNode_conflict {n : Node} (h : st.updateNode n = .error .sequenceConflict) :
    ∃ old, st.nodes.lookup n.id = some old ∧ old.version ≠ n.version := by
  unfold Store.updateNode at h
  split at h
  · cases h
  · next old hold =>
      split at h
      · next hv => exact ⟨old, hold, hv⟩
      · cases h

/-- The write-back keeps the invariant unless it re-reads a node whose
request changed. -/
theorem writeBack_inv (h : Inv w) {n : Node} {cert : CertRequest} (hpc : w.pc = .writing n cert)
    (hr : rerequests .write w = false) : Inv (writeBack n cert w) := by
  have hag : cert = n.certificate.request := by
    have := h.agrees
    rw [hpc] at this
    exact this
  unfold writeBack
  dsimp only
  cases hu : w.store.updateNode
      { n with certificate := { n.certificate with cert := some cert, state := .issued } } with
  | ok store =>
      -- the certificate goes onto the copy it was signed for
      refine ⟨h.issued.updateNode (fun _ => ?_) hu, trivial⟩
      rw [hag]
      rfl
  | error e =>
      cases e with
      | notExist => exact ⟨h.issued, trivial⟩
      | sequenceConflict =>
          obtain ⟨old, hold, hv⟩ := Store.updateNode_conflict hu
          -- the loop goes on with the node as stored now
          rw [hold]
          refine ⟨h.issued, ?_⟩
          simp only [rerequests, hpc, hold, Bool.and_eq_false_iff, decide_eq_false_iff_not,
            not_not] at hr
          rcases hr with hv' | hreq
          · exact absurd hv' hv
          · exact hreq.symm

/-- Every step but a re-read of a renewed node keeps the invariant. -/
theorem inv_step {a : Act} (h : Inv w) (hs : step a w = some w') (hr : rerequests a w = false) :
    Inv w' := by
  cases a with
  | renew id csr =>
      simp only [step] at hs
      split at hs
      · obtain ⟨st', hst, rfl⟩ := Option.map_eq_some_iff.mp hs
        exact ⟨h.issued.rewrite (fun _ _ hs => by cases hs) hst, h.agrees⟩
      · cases hs
  | join id csr role =>
      simp only [step, issueNodeCertificate] at hs
      split at hs
      · cases hs
      · cases hs
        refine ⟨fun k m hk => ?_, h.agrees⟩
        rcases AList.lookup_insert_eq_some hk with ⟨-, rfl⟩ | ⟨-, hk⟩
        · intro hs
          cases hs
        · exact h.issued k m hk
  | touch id =>
      obtain ⟨st', hst, rfl⟩ := Option.map_eq_some_iff.mp hs
      exact ⟨h.issued.rewrite (fun n hn => h.issued id n hn) hst, h.agrees⟩
  | nodeEvent id created =>
      simp only [step] at hs
      split at hs
      · split at hs
        · cases hs
          exact evaluateAndSignNodeCert_inv h _
        · cases hs
          exact h
      · cases hs
  | tick id =>
      simp only [step] at hs
      split at hs
      · cases hs
        exact evaluateAndSignNodeCert_inv h _
      · cases hs
  | sign outcome =>
      simp only [step] at hs
      split at hs
      · cases hs
        exact signed_inv h outcome _
      · cases hs
  | write =>
      simp only [step] at hs
      split at hs
      · next n cert hpc =>
          cases hs
          exact writeBack_inv h hpc hr
      · cases hs

/-- The runs in which no renewal lands between the signing of a
request and its write-back. -/
def steadyStep (a : Act) (w : World) : Option World :=
  if rerequests a w then none else step a w

/-- In those runs, from a store whose issued nodes hold their own
certificates and an idle server, every node stored `ISSUED` holds the
certificate signed for its CSR, CN and role. -/
theorem issued_matches_steady {w₀ : World} (h₀ : IssuedMatches w₀.store) (hidle : w₀.pc = .idle)
    {w : World} (hw : Lts.Reachable steadyStep w₀ w) : IssuedMatches w.store := by
  have hinv : Lts.Inductive steadyStep w₀ Inv := by
    refine ⟨⟨h₀, by rw [hidle]; trivial⟩, fun {a s s'} hi hs => ?_⟩
    unfold steadyStep at hs
    split at hs
    · cases hs
    · next hr => exact inv_step hi hs (Bool.not_eq_true _ ▸ hr)
  exact (hinv.reachable hw).issued

-- ========================= the run

/-- An empty store and an idle server. -/
def caStart : World := ⟨⟨∅, 0⟩, ∅, .idle, []⟩

/-- Node 1 joins with CSR 1 and is issued its certificate, with which it
renews with CSR 2; the server starts signing CSR 2, and the node renews
again with CSR 3 meanwhile. In one run the CA signs CSR 2 and the
write-back re-reads the node and marks it `ISSUED` with the certificate
of CSR 2, which the node accepts as the answer to CSR 3. In the other
the CA fails on CSR 2 and the renewal with CSR 3 is marked `FAILED`. -/
theorem renewal_issued_with_stale_certificate :
    (∃ w, Lts.run step caStart
        [.join 1 1 .worker, .nodeEvent 1 true, .sign .ok, .write, .renew 1 2, .nodeEvent 1 false,
          .sign .ok, .renew 1 3, .write, .write] = some w ∧
      ∃ n, w.store.nodes.lookup 1 = some n ∧ n.certificate.state = .issued ∧
        n.certificate.csr = 3 ∧ n.certificate.cert = some ⟨2, 1, .worker⟩ ∧
        acceptedCertificate n.certificate 3 = some ⟨2, 1, .worker⟩) ∧
    (∃ w, Lts.run step caStart
        [.join 1 1 .worker, .nodeEvent 1 true, .sign .ok, .write, .renew 1 2, .nodeEvent 1 false,
          .renew 1 3, .sign .failed] = some w ∧
      ∃ n, w.store.nodes.lookup 1 = some n ∧ n.certificate.csr = 3 ∧
        n.certificate.state = .failed) := by
  refine ⟨⟨_, rfl, _, rfl, rfl, rfl, rfl, rfl⟩, ⟨_, rfl, _, rfl, rfl, rfl⟩⟩

end SwarmKit.Ca

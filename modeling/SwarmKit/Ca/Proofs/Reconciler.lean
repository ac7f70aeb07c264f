import SwarmKit.Ca.Reconciler
import SwarmKit.Lib.AListTotal

/-
What the reconciler knows during a root rotation (`Reconciler.lean`).

# What holds

`Rotating`: while the current root CA has a rotation, `unconvergedNodes`
is a map (not nil), it holds exactly the stored nodes without the
rotation's issuer (`Tracks`), and a loop was started for that root CA.
`UpdateRootCA` builds the map from the store when the issuer changes
(`tracks_unconvergedFrom`); each node write or delete then moves the
map with the store (`Tracks.put_erase`, `Tracks.put_insert`,
`Tracks.delete`). While it holds, `UpdateNode` always has a map to
write into, so no handler panics (`step_isSome`).

# What breaks it

`UpdateRootCA` decides between its branches by the issuer, a subject
and a public key, not by the certificate. A rotation to a certificate
re-issued with the same subject and key takes the branch for an
unchanged issuer, which only records the root CA: no map is built and no
loop starts (`sameIssuerRotation`). That is the only step `Rotating` does
not survive (`inv_step`); without it, from the reconciler the CA server
creates, it holds in every run (`rotating_steady`). With it, the map
stays nil during the rotation and the next event for a node without the
issuer writes into it (`reissued_rotation_panics`).
-/

namespace SwarmKit.Ca.Rotation

open SwarmKit.Orchestrator (Table)
open RootRotationReconciler

variable {st : NodeStore} {m : Table Node} {iss : Option IssuerInfo} {w w' : World}

-- ======================= the store

/-- The nodes `FindNodes` lists are the stored ones, each under its ID. -/
theorem NodeStore.mem_findNodes {n : Node} : n ∈ st.findNodes ↔ st.nodes.lookup n.id = some n :=
  AList.mem_map_snd_iff st.keyed

/-- `FindNodes` lists every ID once. -/
theorem NodeStore.findNodes_nodup : (st.findNodes.map Node.id).Nodup :=
  AList.map_snd_map_nodup st.keyed

-- =============== the tracked nodes

/-- A map holds exactly the stored nodes without the issuer `iss`. -/
def Tracks (m : Table Node) (st : NodeStore) (iss : Option IssuerInfo) : Prop :=
  ∀ id, m.lookup id = (st.nodes.lookup id).filter fun n => !hasIssuer n iss

/-- The map `UpdateRootCA` builds from the store tracks it. -/
theorem tracks_unconvergedFrom (st : NodeStore) (iss : IssuerInfo) :
    Tracks (unconvergedFrom st.findNodes iss) st (some iss) := by
  intro id
  unfold unconvergedFrom
  cases hid : st.nodes.lookup id with
  | none =>
      -- no listed node has the ID
      refine AList.lookup_foldl_insert_of_forall Node.id _ fun n hn hnid => ?_
      rw [NodeStore.mem_findNodes, hnid, hid] at hn
      cases hn
  | some n =>
      have hnid : n.id = id := st.keyed id n hid
      cases hp : !hasIssuer n (some iss) with
      | true =>
          rw [Option.filter_some, hp, if_pos rfl, ← hnid]
          exact AList.lookup_foldl_insert_of_mem Node.id _ NodeStore.findNodes_nodup
            (NodeStore.mem_findNodes.mpr (hnid ▸ hid)) hp ∅
      | false =>
          -- the one listed node with the ID is `n`, which is left out
          rw [Option.filter_some, hp]
          refine AList.lookup_foldl_insert_of_forall Node.id _ fun n' hn' hn'id => ?_
          rw [NodeStore.mem_findNodes, hn'id, hid, Option.some.injEq] at hn'
          rw [← hn']
          exact hp

/-- A stored node with the issuer leaves the map. -/
theorem Tracks.put_erase (h : Tracks m st iss) {n : Node} (hn : hasIssuer n iss = true) :
    Tracks (m.erase n.id) (st.put n) iss := by
  intro id
  by_cases hk : id = n.id
  · subst hk
    rw [AList.lookup_erase]
    simp [NodeStore.put, Option.filter_some, hn]
  · rw [AList.lookup_erase_ne hk, h id]
    simp only [NodeStore.put, AList.lookup_insert_ne hk]

/-- A stored node without the issuer is written into the map. -/
theorem Tracks.put_insert (h : Tracks m st iss) {n : Node} (hn : hasIssuer n iss = false) :
    Tracks (m.insert n.id n) (st.put n) iss := by
  intro id
  by_cases hk : id = n.id
  · subst hk
    rw [AList.lookup_insert]
    simp [NodeStore.put, Option.filter_some, hn]
  · rw [AList.lookup_insert_ne hk, h id]
    simp only [NodeStore.put, AList.lookup_insert_ne hk]

/-- A deleted node leaves the map. -/
theorem Tracks.delete (h : Tracks m st iss) (id : Nat) : Tracks (m.erase id) (st.delete id) iss := by
  intro k
  by_cases hk : k = id
  · subst hk
    simp [NodeStore.delete]
  · rw [AList.lookup_erase_ne hk, h k]
    simp only [NodeStore.delete, AList.lookup_erase_ne hk]

-- =================== the invariant

/-- What a rotation keeps: during a rotation the map is not nil, tracks
the store against the rotation's issuer, and a loop for the root CA was
started. -/
def Rotating (w : World) : Prop :=
  ∀ rootCA, w.r.currentRootCA = some rootCA → rootCA.rootRotation.isSome →
    ∃ m, w.r.unconvergedNodes = some m ∧ Tracks m w.store (issuerFromAPIRootCA rootCA) ∧
      w.r.loop = some rootCA

/-- The reconciler invariant: the issuer it wants is its root CA's, and
`Rotating`. -/
structure Inv (w : World) : Prop where
  issuer : ∀ rootCA, w.r.currentRootCA = some rootCA → w.r.currentIssuer = issuerFromAPIRootCA rootCA
  rotating : Rotating w

/-- A cluster update to a rotation whose certificate names the issuer the
reconciler already wants, while it holds another root CA. -/
def sameIssuerRotation : Event → World → Bool
  | .updateCluster rootCA, w =>
    (issuerFromAPIRootCA rootCA).isSome && w.r.currentIssuer == issuerFromAPIRootCA rootCA &&
      rootCA.rootRotation.isSome && w.r.currentRootCA != some rootCA
  | _, _ => false

/-- `Rotating` is about the current root CA only. -/
theorem rotating_of_current {st : NodeStore} {r : RootRotationReconciler} {rootCA : RootCA}
    (hcur : r.currentRootCA = some rootCA)
    (h : rootCA.rootRotation.isSome → ∃ m, r.unconvergedNodes = some m ∧
      Tracks m st (issuerFromAPIRootCA rootCA) ∧ r.loop = some rootCA) :
    Rotating ⟨st, r⟩ := by
  intro rootCA' hc
  rw [hcur, Option.some.injEq] at hc
  subst hc
  exact h

/-- A reconciler with no root CA yet knows nothing to keep. -/
theorem inv_of_none {st : NodeStore} {r : RootRotationReconciler} (hcur : r.currentRootCA = none) :
    Inv ⟨st, r⟩ :=
  ⟨fun _ hc => absurd (hcur ▸ hc) nofun, fun _ hc => absurd (hcur ▸ hc) nofun⟩

theorem inv_zero (st : NodeStore) : Inv ⟨st, .zero⟩ := inv_of_none rfl

theorem inv_updateNode (h : Inv w) (n : Node) {r : RootRotationReconciler}
    (hr : updateNode n w.r = some r) : Inv ⟨w.store.put n, r⟩ := by
  unfold updateNode at hr
  split at hr
  · next hcur =>
      cases hr
      exact inv_of_none hcur
  · next rootCA hcur =>
      have hiss := h.issuer rootCA hcur
      split at hr
      · next hrot =>
          -- outside a rotation the map is not read
          cases hr
          refine ⟨h.issuer, rotating_of_current hcur fun hrot' => ?_⟩
          rw [Option.isNone_iff_eq_none.mp hrot] at hrot'
          cases hrot'
      · next hrot =>
          obtain ⟨m, hm, htr, hloop⟩ :=
            h.rotating rootCA hcur (Option.not_isSome_iff_eq_none.not_right.mpr fun h' =>
              hrot (Option.isNone_iff_eq_none.mpr h'))
          split at hr
          · next hn =>
              cases hr
              refine ⟨h.issuer, rotating_of_current hcur fun _ => ?_⟩
              rw [hiss] at hn
              exact ⟨m.erase n.id, by rw [hm]; rfl, htr.put_erase hn, hloop⟩
          · next hn =>
              rw [hm] at hr
              cases hr
              refine ⟨h.issuer, rotating_of_current hcur fun _ => ?_⟩
              rw [hiss, Bool.not_eq_true] at hn
              exact ⟨m.insert n.id n, rfl, htr.put_insert hn, hloop⟩

theorem inv_deleteNode (h : Inv w) {id : Nat} {n : Node} (hn : w.store.nodes.lookup id = some n) :
    Inv ⟨w.store.delete id, deleteNode n w.r⟩ := by
  refine ⟨h.issuer, fun rootCA hcur hrot => ?_⟩
  obtain ⟨m, hm, htr, hloop⟩ := h.rotating rootCA hcur hrot
  -- the stored node carries the ID it is deleted by
  have hid : n.id = id := w.store.keyed id n hn
  refine ⟨m.erase n.id, by simp only [deleteNode, hm, Option.map_some], ?_, hloop⟩
  rw [hid]
  exact htr.delete id

theorem inv_updateCluster (h : Inv w) (rootCA : RootCA)
    (hsame : sameIssuerRotation (.updateCluster rootCA) w = false) :
    Inv { w with r := updateRootCA rootCA w.store.findNodes w.r } := by
  unfold updateRootCA
  split
  · exact h
  · next iss hiss =>
      split
      · next hcur =>
          refine ⟨fun _ hc => ?_, rotating_of_current rfl fun hrot => ?_⟩
          · cases hc
            rw [hcur, hiss]
          · -- the same issuer: only a root CA the reconciler already holds is safe
            have hheld : w.r.currentRootCA = some rootCA := by
              simpa [sameIssuerRotation, hiss, hcur, hrot] using hsame
            exact h.rotating rootCA hheld hrot
      · split
        · next hrot =>
            refine ⟨fun _ hc => ?_, rotating_of_current rfl fun _ => ?_⟩
            · cases hc
              exact hiss.symm
            · rw [hiss]
              exact ⟨_, rfl, tracks_unconvergedFrom w.store iss, rfl⟩
        · next hrot =>
            refine ⟨fun _ hc => ?_, rotating_of_current rfl fun hrot' => absurd hrot' hrot⟩
            cases hc
            exact hiss.symm

/-- Every step but a rotation with an unchanged issuer keeps the
invariant. -/
theorem inv_step {a : Event} (h : Inv w) (hs : step a w = some w')
    (hsame : sameIssuerRotation a w = false) : Inv w' := by
  cases a with
  | updateNode n =>
      obtain ⟨r, hr, rfl⟩ := Option.map_eq_some_iff.mp hs
      exact inv_updateNode h n hr
  | deleteNode id =>
      simp only [step] at hs
      split at hs
      · cases hs
        exact h
      · next n hn =>
          cases hs
          exact inv_deleteNode h hn
  | updateCluster rootCA =>
      cases hs
      exact inv_updateCluster h rootCA hsame

/-- While the invariant holds no handler panics: during a rotation there
is always a map to write into. -/
theorem step_isSome (h : Inv w) (a : Event) : (step a w).isSome := by
  cases a with
  | updateNode n =>
      simp only [step, Option.isSome_map]
      unfold updateNode
      split
      · rfl
      · next rootCA hcur =>
          split
          · rfl
          · next hrot =>
              split
              · rfl
              · obtain ⟨m, hm, -⟩ := h.rotating rootCA hcur
                  (Option.not_isSome_iff_eq_none.not_right.mpr fun h' =>
                    hrot (Option.isNone_iff_eq_none.mpr h'))
                rw [hm]
                rfl
  | deleteNode id =>
      simp only [step]
      split <;> rfl
  | updateCluster rootCA => rfl

/-- The runs without a rotation to a certificate with an unchanged issuer. -/
def steadyStep (a : Event) (w : World) : Option World :=
  if sameIssuerRotation a w then none else step a w

/-- In those runs, from the reconciler the CA server creates over any
store, every rotation is tracked by a map of the nodes still to
converge, with a loop started for it, and no event makes a handler
panic. -/
theorem rotating_steady (st : NodeStore) {w : World} (hw : Lts.Reachable steadyStep ⟨st, .zero⟩ w) :
    Rotating w ∧ ∀ a, (step a w).isSome := by
  have hinv : Lts.Inductive steadyStep ⟨st, .zero⟩ Inv := by
    refine ⟨inv_zero st, fun {a s s'} hi hs => ?_⟩
    unfold steadyStep at hs
    split at hs
    · cases hs
    · next hsame => exact inv_step hi hs (Bool.not_eq_true _ ▸ hsame)
  have hi := hinv.reachable hw
  exact ⟨hi.rotating, step_isSome hi⟩

-- ========================= the run

/-- A store with no nodes. -/
def emptyStore : NodeStore := ⟨∅, fun _ _ h => nomatch h⟩

/-- The cluster's root certificate, and the same root re-issued: other
bytes, the same subject and key. -/
def rootCert : Cert := ⟨1, some ⟨1, 1⟩⟩

def reissuedCert : Cert := ⟨2, some ⟨1, 1⟩⟩

/-- The CA server starts with the cluster's root CA, then the cluster
starts a rotation to the re-issued root. The reconciler holds the
rotation with a nil map and no loop started, and the next event for a
node without TLS information panics. -/
theorem reissued_rotation_panics :
    (∃ w, Lts.run step ⟨emptyStore, .zero⟩
        [.updateCluster ⟨rootCert, none⟩, .updateCluster ⟨rootCert, some ⟨reissuedCert⟩⟩] = some w ∧
      w.r.currentRootCA = some ⟨rootCert, some ⟨reissuedCert⟩⟩ ∧ w.r.unconvergedNodes = none ∧
      w.r.loop = none) ∧
    Lts.run step ⟨emptyStore, .zero⟩
      [.updateCluster ⟨rootCert, none⟩, .updateCluster ⟨rootCert, some ⟨reissuedCert⟩⟩,
        .updateNode ⟨1, none⟩] = none :=
  ⟨⟨_, rfl, rfl, rfl, rfl⟩, rfl⟩

end SwarmKit.Ca.Rotation

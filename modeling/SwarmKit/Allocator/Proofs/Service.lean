import SwarmKit.Allocator.Service
import SwarmKit.Allocator.Proofs.Ports

/-
The service loop against the store (`Service.lean`).

# The allocator follows its own objects

The port spaces keep the invariant of `Ports.lean` for the objects the
allocator last produced: `allocateService` moves a service's held ports
to the object it returns, before anything is committed
(`NetCtx.allocateService_inv`), and the rollback of
`commitAllocatedService` empties them
(`NetCtx.commitAllocatedService_rollback`). A port a service held and
no longer holds is free (`PortsInv.free_of_dropped`).

# The store does not

A batch whose last commit is refused leaves the store as it was
(`BatchState.finish_store`), and so does the update case whose batch it
is (`NetCtx.commitUpdated_store`). A re-allocation that is not committed
has already freed the ports of the stored endpoint it dropped
(`NetCtx.allocateService_frees`), and a rolled-back one every port of
its endpoint (`NetCtx.rollback_frees`), while the store still records
them; the run at the end hands such a port to a second service.
-/

namespace SwarmKit.Allocator

variable {pa pa₀ : PortAllocator} {held : Nat → List PortConfig}

/-- A port a service held that its new states do not publish is free:
no other service holds it. -/
theorem PortsInv.free_of_dropped (h₀ : PortsInv pa₀ held) {id : Nat} {l : List PortConfig}
    (h : PortsInv pa (Function.update held id l)) {p : PortConfig} (hp : p ∈ held id)
    (hl : ∀ q ∈ l, q.published ≠ p.published) :
    p.publishedPort ∉ (pa.portSpaces p.protocol).masterPortSpace.taken := by
  rw [h.master]
  rintro ⟨id', q, hq, hqp⟩
  by_cases hid : id' = id
  · subst hid
    rw [Function.update_self] at hq
    exact hl q hq hqp
  · rw [Function.update_of_ne hid] at hq
    exact h₀.disjoint id id' (Ne.symm hid) p hp q hq hqp.symm

theorem NetworkAllocator.deallocateService_ingressPorts (na : NetworkAllocator) (s : Service) :
    (na.deallocateService s).2.ingressPorts = [] := by
  unfold NetworkAllocator.deallocateService
  cases he : s.endpoint with
  | none => rw [Service.ingressPorts, Service.endpointPorts, he]; rfl
  | some endpoint =>
      unfold PortAllocator.serviceDeallocatePorts
      rw [he]
      rfl

-- =================== cnm allocator

theorem PortsInv.cnmDeallocate {na : Network.CnmNetworkAllocator} (h : PortsInv na.ports.portAllocator held)
    {id : Nat} {o : Network.ServiceObject} (hs : held id = o.ingressPorts) :
    PortsInv (na.deallocateService o).1.ports.portAllocator (Function.update held id []) ∧
      (na.deallocateService o).2.ingressPorts = [] := by
  unfold Network.CnmNetworkAllocator.deallocateService
  cases he : o.endpoint with
  | none =>
      have hnil : o.ingressPorts = [] := by rw [Service.ingressPorts, Service.endpointPorts, he]; rfl
      refine ⟨?_, hnil⟩
      rw [← hnil, ← hs]
      exact h.update_self id
  | some _ =>
      have h₁ := h.deallocateService hs
      rw [NetworkAllocator.deallocateService_ingressPorts] at h₁
      exact ⟨h₁, NetworkAllocator.deallocateService_ingressPorts _ _⟩

theorem PortsInv.cnmAllocate {na : Network.CnmNetworkAllocator} (h : PortsInv na.ports.portAllocator held)
    {id : Nat} {o : Network.ServiceObject} (hs : held id = o.ingressPorts) (vipOk : Bool) :
    PortsInv (na.allocateService o vipOk).1.ports.portAllocator
      (Function.update held id (na.allocateService o vipOk).2.1.ingressPorts) := by
  unfold Network.CnmNetworkAllocator.allocateService
  dsimp only
  -- whatever the VIPs do, the ports are those of `Ports.lean`
  have h₁ := h.allocateService hs
    (!(!Network.isDNSRR o.toService && o.ingressVIP && Network.isIngressNetworkNeeded o.toService) || vipOk)
  split <;>
  · rename_i hp
    rw [hp] at h₁
    exact h₁

namespace Network

-- ======================= allocator

/-- The endpoint made for the spec has no ports. -/
theorem ServiceObject.ensureEndpoint_ingressPorts (o : ServiceObject) (spec : EndpointSpec) :
    (o.ensureEndpoint spec).ingressPorts = o.ingressPorts := by
  unfold ServiceObject.ensureEndpoint
  cases he : o.endpoint with
  | none => simp [Service.ingressPorts, Service.endpointPorts, he]
  | some _ => rfl

theorem NetCtx.prepareService_ok {nc nc' : NetCtx} {o o' : ServiceObject} {existingAddressesOnly : Bool}
    (h : PortsInv nc.nwkAllocator.ports.portAllocator held) {id : Nat} (hs : held id = o.ingressPorts)
    (hp : nc.prepareService o existingAddressesOnly = .ok (nc', o')) :
    PortsInv nc'.nwkAllocator.ports.portAllocator (Function.update held id o'.ingressPorts) := by
  unfold NetCtx.prepareService at hp
  split at hp
  · next spec hspec =>
      -- the ports stay: the endpoint made has none, and the VIP is not a port
      have hports : ∀ vip : Bool, Service.ingressPorts { o.ensureEndpoint spec with ingressVIP := vip }.toService =
          o.ingressPorts := fun _ => ServiceObject.ensureEndpoint_ingressPorts o spec
      dsimp only at hp
      split at hp
      · split at hp
        · cases hp
          rw [hports, ← hs]
          exact h.update_self id
        · cases hp
      · cases hp
        rw [ServiceObject.ensureEndpoint_ingressPorts, ← hs]
        exact h.update_self id
  · next hspec =>
      split at hp
      · rcases hd : nc.nwkAllocator.deallocateService o with ⟨na, o₁⟩
        obtain ⟨h₁, hnil⟩ := h.cnmDeallocate hs
        rw [hd] at h₁ hnil hp
        cases hp
        rw [hnil]
        exact h₁
      · cases hp
        rw [← hs]
        exact h.update_self id

theorem NetCtx.prepareService_error {nc : NetCtx} {o o' : ServiceObject} {existingAddressesOnly : Bool}
    {e : ServiceAllocErr} (hp : nc.prepareService o existingAddressesOnly = .error (e, o')) :
    o'.ingressPorts = o.ingressPorts := by
  unfold NetCtx.prepareService at hp
  split at hp
  · next spec hspec =>
      dsimp only at hp
      split at hp
      · split at hp
        · cases hp
        · cases hp
          exact ServiceObject.ensureEndpoint_ingressPorts o spec
      · cases hp
  · split at hp <;> cases hp

/-- `allocateService` moves the service's held ports to the object it
returns, failed or not, before anything is committed. -/
theorem NetCtx.allocateService_inv {nc : NetCtx} (h : PortsInv nc.nwkAllocator.ports.portAllocator held)
    {id : Nat} {o : ServiceObject} (hs : held id = o.ingressPorts) (existingAddressesOnly vipOk : Bool) :
    PortsInv (nc.allocateService o existingAddressesOnly vipOk).1.nwkAllocator.ports.portAllocator
      (Function.update held id (nc.allocateService o existingAddressesOnly vipOk).2.1.ingressPorts) := by
  unfold NetCtx.allocateService
  split
  · next e o' hp =>
      rw [NetCtx.prepareService_error hp, ← hs]
      exact h.update_self id
  · next nc₁ o₁ hp =>
      have h₁ := NetCtx.prepareService_ok h hs hp
      -- the cnm allocator starts from the prepared object
      have h₂ := h₁.cnmAllocate (Function.update_self ..) vipOk
      rw [Function.update_idem] at h₂
      split
      · next na o₂ e ha =>
          rw [ha] at h₂
          exact h₂
      · next na o₂ ha =>
          rw [ha] at h₂
          dsimp only
          -- dropping the lingering VIP leaves the ports
          split <;> exact h₂

/-- A re-allocation has freed every port the stored object held that
the object it returns does not publish. -/
theorem NetCtx.allocateService_frees {nc : NetCtx} (h : PortsInv nc.nwkAllocator.ports.portAllocator held)
    {id : Nat} {o : ServiceObject} (hs : held id = o.ingressPorts) (existingAddressesOnly vipOk : Bool)
    {p : PortConfig} (hp : p ∈ o.ingressPorts)
    (hl : ∀ q ∈ (nc.allocateService o existingAddressesOnly vipOk).2.1.ingressPorts, q.published ≠ p.published) :
    p.publishedPort ∉ ((nc.allocateService o existingAddressesOnly vipOk).1.nwkAllocator.ports.portAllocator.portSpaces
      p.protocol).masterPortSpace.taken :=
  PortsInv.free_of_dropped h (NetCtx.allocateService_inv h hs existingAddressesOnly vipOk) (hs ▸ hp) hl

/-- The rollback of a failed commit frees the whole endpoint. -/
theorem NetCtx.commitAllocatedService_rollback {nc nc' : NetCtx} {out : BatchOutcome ServiceObject} {b b' : BatchState Store ServiceObject}
    {o o' : ServiceObject} (h : PortsInv nc.nwkAllocator.ports.portAllocator held) {id : Nat}
    (hs : held id = o.ingressPorts) (hc : nc.commitAllocatedService out b o = (nc', b', o', true)) :
    PortsInv nc'.nwkAllocator.ports.portAllocator (Function.update held id []) ∧ o'.ingressPorts = [] := by
  unfold NetCtx.commitAllocatedService at hc
  split at hc
  · cases hc
  · cases hc
    exact h.cnmDeallocate hs

/-- After a failed commit the allocator holds no port of the service's
endpoint, whatever the store records. -/
theorem NetCtx.rollback_frees {nc nc' : NetCtx} {out : BatchOutcome ServiceObject} {b b' : BatchState Store ServiceObject}
    {o o' : ServiceObject} (h : PortsInv nc.nwkAllocator.ports.portAllocator held) {id : Nat}
    (hs : held id = o.ingressPorts) (hc : nc.commitAllocatedService out b o = (nc', b', o', true))
    {p : PortConfig} (hp : p ∈ o.ingressPorts) :
    p.publishedPort ∉ (nc'.nwkAllocator.ports.portAllocator.portSpaces p.protocol).masterPortSpace.taken :=
  PortsInv.free_of_dropped h (NetCtx.commitAllocatedService_rollback h hs hc).1 (hs ▸ hp) (by simp)

-- ========================= batches

/-- Without a split commit that goes through at this call, the batch's
store stays. -/
theorem BatchState.update_store {σ α : Type} (b : BatchState σ α) (out : BatchOutcome α)
    (cb : σ → Except StoreErr (σ × α)) (hk : out.splitOk b.calls = false) :
    (b.update out cb).1.store = b.store := by
  unfold BatchState.update
  dsimp only
  split
  · rfl
  · split
    · rfl
    · rw [hk]
      split <;> rfl

/-- One change below the size bound does not split a batch. -/
theorem splitsAt_one_eq_false {n : Nat} (h : n < Store.MaxTransactionBytes * 3 / 4) : splitsAt 1 n = false := by
  unfold splitsAt
  simp only [decide_eq_false_iff_not, not_or, not_le]
  exact ⟨by decide, h⟩

/-- The first `batch.Update` of a batch, its callback done: below the
split no commit; at it the transaction commits, or is refused. -/
theorem BatchState.update_init {σ α : Type} (st : σ) (out : BatchOutcome α) {cb : σ → Except StoreErr (σ × α)}
    {tx : σ} {o : α} (hcb : cb st = .ok (tx, o)) :
    (BatchState.init st).update out cb =
      if !splitsAt 1 (out.size o) then (⟨st, tx, [o], out.size o, 1, false, []⟩, none)
      else if out.splitOk 0 then (⟨tx, tx, [], 0, 1, false, [[o]]⟩, none)
      else (⟨st, tx, [o], out.size o, 1, true, []⟩, some .commitRefused) := by
  simp only [BatchState.update, BatchState.init, hcb, Bool.false_eq_true, ↓reduceIte, List.nil_append,
    List.length_singleton, Nat.zero_add]

/-- A batch whose last commit is refused leaves the store as its
earlier commits left it. -/
theorem BatchState.finish_store {σ α : Type} (b : BatchState σ α) {out : BatchOutcome α}
    (hout : out.committed = false) (cbErr : Bool) : (b.finish out cbErr).1 = b.store := by
  unfold BatchState.finish
  rw [hout]
  by_cases hcb : cbErr = true
  · rw [if_pos hcb]
  · rw [if_neg hcb]
    by_cases hf : b.failed = true
    · rw [if_pos hf]
      rfl
    · rw [if_neg hf]
      split <;> rfl

theorem NetCtx.commitAllocatedService_batch (nc : NetCtx) (out : BatchOutcome ServiceObject)
    (b : BatchState Store ServiceObject) (o : ServiceObject) :
    (nc.commitAllocatedService out b o).2.1 = (b.update out (commitUpdate o)).1 := by
  unfold NetCtx.commitAllocatedService
  split
  · next b' hu => rw [hu]
  · next b' e hu => rw [hu]

/-- The update case's batch, with neither its split commit, if any, nor
its last one going through, leaves the store as it was. -/
theorem NetCtx.commitUpdated_store (nc : NetCtx) (st : Store) {out : BatchOutcome ServiceObject}
    (hsplit : out.splitOk 0 = false) (hout : out.committed = false) (o : ServiceObject) :
    (nc.commitUpdated st out o).2.1 = st := by
  have hb := BatchState.update_store (BatchState.init st) out (commitUpdate o) hsplit
  rw [← NetCtx.commitAllocatedService_batch nc] at hb
  unfold NetCtx.commitUpdated
  split
  · next nc' b o' err hc =>
      rw [hc] at hb
      have hfin := BatchState.finish_store b hout err
      -- whether the object is queued again or not
      split <;>
      · rename_i hf
        rw [hf] at hfin
        exact hfin.trans hb

-- ========================= the run

/-- A service asking for one port of the dynamic range. -/
def frontSpec : ServiceSpec := ⟨some ⟨.vip, [⟨"web", .tcp, 80, 0, .ingress⟩]⟩⟩

/-- The same with a second such port. -/
def frontAdminSpec : ServiceSpec :=
  ⟨some ⟨.vip, [⟨"web", .tcp, 80, 0, .ingress⟩, ⟨"admin", .tcp, 81, 0, .ingress⟩]⟩⟩

/-- A service asking for port 30000. -/
def pinnedSpec : ServiceSpec := ⟨some ⟨.vip, [⟨"api", .tcp, 90, 30000, .ingress⟩]⟩⟩

/-- Every VIP can be allocated. -/
def allVIPs : Nat → Bool := fun _ => true

/-- The batch of small services goes through. -/
def goesThrough : BatchOutcome ServiceObject := ⟨fun _ => 1, fun _ => true, true⟩

/-- The batch's last commit is refused. -/
def refusedAtEnd : BatchOutcome ServiceObject := ⟨fun _ => 1, fun _ => true, false⟩

/-- Service 1 created with `frontSpec`, service 2 with `pinnedSpec` while
service 1 has no endpoint; the allocator gives service 1 port 30000 and
commits it, and queues service 2, whose port is taken; then service 1
is updated to `frontAdminSpec`. -/
def frontCalls : List Act :=
  [.createService 1 frontSpec, .createService 2 pinnedSpec,
    .deliver allVIPs false goesThrough, .deliver allVIPs false goesThrough,
    .deliver allVIPs false goesThrough, .deliver allVIPs false goesThrough,
    .deliver allVIPs false goesThrough, .deliver allVIPs false goesThrough,
    .updateService 1 frontAdminSpec]

/-- The ports the allocator holds for TCP. -/
def tcpTaken (w : World) : Finset Nat := (w.nc.nwkAllocator.ports.portAllocator.portSpaces .tcp).masterPortSpace.taken

theorem committed_port_handed_out :
    ∃ w, Lts.run step World.init frontCalls = some w ∧
      (w.store.getService 1).map (·.endpointPorts) = some [⟨"web", .tcp, 80, 30000, .ingress⟩] ∧
      tcpTaken w = {30000} ∧
      (∃ w₁, step (.deliver allVIPs false refusedAtEnd) w = some w₁ ∧
        (w₁.store.getService 1).map (·.endpointPorts) = some [⟨"web", .tcp, 80, 30000, .ingress⟩] ∧
        tcpTaken w₁ = {30001, 30002} ∧
        ∃ w₂, step (.deliver allVIPs true goesThrough) w₁ = some w₂ ∧
          (w₂.store.getService 1).map (·.endpointPorts) = some [⟨"web", .tcp, 80, 30000, .ingress⟩] ∧
          (w₂.store.getService 2).map (·.endpointPorts) = some [⟨"api", .tcp, 90, 30000, .ingress⟩] ∧
          tcpTaken w₂ = {30000, 30001, 30002} ∧ w₂.nc.unallocatedServices.map (·.id) = [1]) := by
  refine ⟨_, rfl, by decide, by decide, ⟨_, rfl, by decide, by decide, _, rfl, by decide, by decide, by decide, by decide⟩⟩

end Network

end SwarmKit.Allocator

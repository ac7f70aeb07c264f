import SwarmKit.Allocator.Vip

/-
The error path of `AllocateService` (`Vip.lean`).

# Nothing is released that was held

An address request only takes addresses, in its pool and in the
network's `endpoints` (`requestFromPools_keeps`), and so do
`allocateVIP` and both loops of the call (`networkLoop_keeps`). When the
endpoint held no VIP, the slice the deferred `DeallocateService` walks
stays empty whatever `eVIPs` becomes, so a failed call releases no
address at all (`failed_allocate_releases_nothing`): the VIPs it created
for the spec's networks before the failure stay allocated, on their
networks and in the IPAM, while the service records none of them
(`failed_vip_leaks`).
-/

namespace SwarmKit.Allocator.Cnm

-- ========================= keeping

/-- Every address `na` holds on a network, and every address its IPAM
pools have taken, `na'` holds too. -/
structure Keeps (na na' : CnmNetworkAllocator) : Prop where
  endpoints : ∀ nw ln a, na.networks.lookup nw = some ln → a ∈ ln.endpoints →
    ∃ ln', na'.networks.lookup nw = some ln' ∧ a ∈ ln'.endpoints
  taken : ∀ pool bm a, na.ipam pool = some bm → a ∈ bm.taken →
    ∃ bm', na'.ipam pool = some bm' ∧ a ∈ bm'.taken

namespace Keeps

theorem refl (na : CnmNetworkAllocator) : Keeps na na :=
  ⟨fun _ ln _ h ha => ⟨ln, h, ha⟩, fun _ bm _ h ha => ⟨bm, h, ha⟩⟩

theorem trans {na na' na'' : CnmNetworkAllocator} (h : Keeps na na') (h' : Keeps na' na'') : Keeps na na'' := by
  refine ⟨fun nw ln a hl ha => ?_, fun pool bm a hb ha => ?_⟩
  · obtain ⟨ln', hl', ha'⟩ := h.endpoints nw ln a hl ha
    exact h'.endpoints nw ln' a hl' ha'
  · obtain ⟨bm', hb', ha'⟩ := h.taken pool bm a hb ha
    exact h'.taken pool bm' a hb' ha'

/-- An allocator with the same networks and pools. -/
theorem of_eq {na na' : CnmNetworkAllocator} (hn : na'.networks = na.networks) (hi : na'.ipam = na.ipam) :
    Keeps na na' :=
  ⟨fun _ ln _ h ha => ⟨ln, hn ▸ h, ha⟩, fun _ bm _ h ha => ⟨bm, hi ▸ h, ha⟩⟩

end Keeps

-- ======================== requests

/-- An address request takes one more address in the pool it names and
changes no other pool. -/
theorem requestAddress_eq_ok {ipam ipam' : Nat → Option Idm} {poolID a : Nat} {pref : Option Nat}
    {serial : Bool} (h : requestAddress ipam poolID pref serial = .ok (a, ipam')) :
    ∃ bm bm', ipam poolID = some bm ∧ bm'.taken = insert a bm.taken ∧
      ipam' = Function.update ipam poolID (some bm') := by
  unfold requestAddress at h
  split at h
  · cases h
  · next bm hbm =>
      split at h
      · cases h
      · split at h
        · cases h
        · split at h
          · -- the preferred address
            split at h
            · next bm' hs =>
                cases h
                exact ⟨bm, bm', hbm, (Idm.getSpecificID_ok hs).2.2.2.1, rfl⟩
            all_goals cases h
          · -- any free address
            split at h
            · next a' bm' hs =>
                cases h
                refine ⟨bm, bm', hbm, ?_, rfl⟩
                split at hs
                · exact (Idm.getID_ok hs).2.2.2.1
                · exact (Idm.getFirstID_ok hs).2.2.2.1
            · cases h

theorem keeps_update_ipam {na : CnmNetworkAllocator} {ipam' : Nat → Option Idm} {poolID a : Nat}
    {pref : Option Nat} {serial : Bool} (h : requestAddress na.ipam poolID pref serial = .ok (a, ipam')) :
    ∀ pool bm x, na.ipam pool = some bm → x ∈ bm.taken → ∃ bm', ipam' pool = some bm' ∧ x ∈ bm'.taken := by
  obtain ⟨bm₀, bm', hbm₀, htaken, rfl⟩ := requestAddress_eq_ok h
  intro pool bm x hbm hx
  by_cases hp : pool = poolID
  · subst hp
    rw [hbm₀, Option.some.injEq] at hbm
    subst hbm
    exact ⟨bm', Function.update_self .., htaken ▸ Finset.mem_insert_of_mem hx⟩
  · exact ⟨bm, by rw [Function.update_of_ne hp]; exact hbm, hx⟩

namespace CnmNetworkAllocator

/-- A request over a network's pools takes an address and keeps every
other. -/
theorem requestFromPools_keeps {na na' : CnmNetworkAllocator} {nw a : Nat} {ln : LocalNetwork}
    {pref : Option Nat} (hln : na.networks.lookup nw = some ln) :
    ∀ {pools : List Nat}, na.requestFromPools nw ln pref pools = .ok (na', a) → Keeps na na'
  | [], h => by cases h
  | poolID :: pools, h => by
      unfold requestFromPools at h
      split at h
      · next a' ipam hreq =>
          cases h
          refine ⟨fun nw' ln' x hl hx => ?_, keeps_update_ipam hreq⟩
          by_cases hnw : nw' = nw
          · -- the network's endpoints gain the address
            subst hnw
            rw [hln, Option.some.injEq] at hl
            subst hl
            exact ⟨_, AList.lookup_insert _, AList.mem_insert _ |>.mpr (.inr hx)⟩
          · exact ⟨ln', by rw [AList.lookup_insert_ne hnw]; exact hl, hx⟩
      · exact requestFromPools_keeps hln h
      · exact requestFromPools_keeps hln h
      · cases h

theorem allocateVIP_keeps {na na' : CnmNetworkAllocator} {vip vip' : VirtualIP}
    (h : na.allocateVIP vip = .ok (na', vip')) : Keeps na na' := by
  unfold allocateVIP at h
  split at h
  · cases h
  · next ln hln =>
      split at h
      · cases h
        exact Keeps.refl na
      · split at h
        · cases h
          exact Keeps.refl na
        · split at h
          · next na₁ a hreq =>
              cases h
              exact requestFromPools_keeps hln hreq
          · cases h

end CnmNetworkAllocator

theorem VipCall.allocate_keeps {c c' : VipCall} {r : VipRef} (h : c.allocate r = .ok c') : Keeps c.na c'.na := by
  unfold VipCall.allocate at h
  split at h
  · next na vip hvip =>
      cases h
      exact CnmNetworkAllocator.allocateVIP_keeps hvip
  · cases h

/-- `networkLoop` only takes addresses, whether it succeeds or stops.
Induction on the spec's networks. -/
theorem networkLoop_keeps (n : Nat) :
    ∀ (nws : List Nat) (c : VipCall),
      (∀ c', networkLoop n nws c = .ok c' → Keeps c.na c'.na) ∧
        ∀ e c', networkLoop n nws c = .error (e, c') → Keeps c.na c'.na
  | [], c => ⟨fun c' h => by cases h; exact Keeps.refl _, fun _ _ h => by cases h⟩
  | nw :: nws, c => by
      unfold networkLoop
      split
      · exact networkLoop_keeps n nws c
      · dsimp only
        split
        · next c₁ halloc =>
            -- the new VIP is allocated, then the rest of the networks
            have hk := VipCall.allocate_keeps halloc
            obtain ⟨hok, herr⟩ := networkLoop_keeps n nws (c₁.keep (.new c.created))
            exact ⟨fun c' h => hk.trans (hok c' h), fun e c' h => hk.trans (herr e c' h)⟩
        · -- the call stops in the state before the failed allocation
          refine ⟨fun c' h => ?_, fun e c' h => ?_⟩
          · cases h
          · cases h
            exact Keeps.refl _

-- ======================== the call

theorem aliasView_zero (eVIPs : List VipRef) : aliasView 0 eVIPs = [] := by
  simp [aliasView]

/-- The VIP part of the call, on an endpoint without VIPs: a failure
releases nothing. -/
theorem allocateVIPs_releases_nothing (na : CnmNetworkAllocator) (s : VipService) (hnone : s.virtualIPs = [])
    {e : VipErr} (h : (na.allocateVIPs s).2.2 = some (.vip e)) :
    (na.allocateVIPs s).2.1.virtualIPs = [] ∧ Keeps na (na.allocateVIPs s).1 := by
  unfold CnmNetworkAllocator.allocateVIPs at h ⊢
  split at h
  · cases h
  · next hdns =>
      rw [if_neg hdns]
      -- no VIP to walk: the network loop runs from the call's first state
      simp only [hnone, List.length_nil, List.range_zero, vipLoop, aliasView_zero, List.map_nil] at h ⊢
      split at h
      · cases h
      · next e' c hloop =>
          rw [show (Except.ok _ >>= networkLoop 0 s.networks : Except (VipErr × VipCall) VipCall) =
            networkLoop 0 s.networks _ from rfl] at hloop
          have hk := (networkLoop_keeps 0 _ _).2 _ _ hloop
          unfold CnmNetworkAllocator.deallocateService
          split
          · exact ⟨rfl, hk⟩
          · exact ⟨rfl, hk.trans (Keeps.of_eq rfl rfl)⟩

/-- When the endpoint held no VIP, a failed VIP allocation releases no
address: the deferred `DeallocateService` walks an empty slice, and
the VIPs created before the failure stay allocated. -/
theorem failed_allocate_releases_nothing (na : CnmNetworkAllocator) (s : VipService) (hnone : s.virtualIPs = [])
    {e : VipErr} (h : (na.allocateService s).2.2 = some (.vip e)) :
    (na.allocateService s).2.1.virtualIPs = [] ∧ Keeps na (na.allocateService s).1 := by
  unfold CnmNetworkAllocator.allocateService at h ⊢
  rcases hp : na.portAllocator.serviceAllocatePorts s.toService with ⟨pa, s', _ | err⟩
  · rw [hp] at h
    dsimp only at h ⊢
    -- the endpoint, made or kept, holds no VIP
    obtain ⟨hv, hk⟩ := allocateVIPs_releases_nothing _ _ (by split <;> simp [hnone]) h
    -- allocating the ports touches no network
    have hports : Keeps na { na with portAllocator := pa } := Keeps.of_eq rfl rfl
    exact ⟨hv, hports.trans hk⟩
  · rw [hp] at h
    cases h

-- =================== a failed call

/-- A pool of one address, taken. -/
def fullPool : Idm := ⟨1, 1, {1}, 0, by decide⟩

/-- Network 10 with a pool of free addresses, network 20 with the full
pool. -/
def frontNet : LocalNetwork := ⟨false, false, true, [100], ∅⟩

def backNet : LocalNetwork := ⟨false, false, true, [200], ∅⟩

def vipAllocator : CnmNetworkAllocator :=
  ⟨newPortAllocator, ((∅ : AList fun _ : Nat => LocalNetwork).insert 10 frontNet).insert 20 backNet,
    fun p => if p = 100 then some (Idm.new 1 254) else if p = 200 then some fullPool else none, []⟩

/-- A new service attached to networks 10 and 20. -/
def twoNetService : VipService := ⟨⟨1, ⟨none⟩, none⟩, [10, 20], []⟩

/-- The VIP of network 10 takes address 1; network 20 has none left, so
the call fails. The service records no VIP, while address 1 stays in
network 10's endpoints and taken in pool 100. -/
theorem failed_vip_leaks :
    (let r := vipAllocator.allocateService twoNetService
     r.2.2 = some (.vip .noAvailableIP) ∧ r.2.1.virtualIPs = [] ∧
      (r.1.networks.lookup 10).map (·.endpoints.keys) = some [1] ∧
      ((r.1.ipam 100).any fun bm => 1 ∈ bm.taken) = true ∧ r.1.services = []) := by
  decide

end SwarmKit.Allocator.Cnm

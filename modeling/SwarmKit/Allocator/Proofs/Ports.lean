import SwarmKit.Allocator.Ports
import SwarmKit.Lib.Lts

/-
The port spaces against the services' endpoints (`Ports.lean`).

# The invariant

`PortsInv pa held`: for a family `held` of ingress port states per
service ID, each protocol's master space holds exactly the published
ports of the states of that protocol, its dynamic space exactly those
of them in the dynamic range, and no protocol and published port is
held twice, within one service or across two.

# One port at a time

An allocation takes a port the master space does not hold, so no state
holds it (`PortsInv.alloc`); a free drops the port of the one state that
holds it (`PortsInv.free`). The loops of `serviceAllocatePorts` and
`serviceDeallocatePorts` are inductions over the port lists on those two
steps, and `AllocateService` and `DeallocateService` keep the invariant
for the service's own states, whatever the VIPs do
(`PortsInv.allocateService`, `PortsInv.deallocateService`).

# Every run

Calls of `AllocateService` (with any new spec) and `DeallocateService`
on services kept by ID, each endpoint changed by these calls only: from
a new allocator, every state reached satisfies the invariant for the
services' ingress port states (`ports_held_exactly`).
-/

namespace SwarmKit.Allocator

section Invariant

variable {pa : PortAllocator} {held : Nat → List PortConfig}

-- ================ ports and spaces

/-- What a port space holds of a port: its protocol and published port. -/
def PortConfig.published (p : PortConfig) : Protocol × Nat := (p.protocol, p.publishedPort)

/-- A service's ingress port states. -/
def Service.ingressPorts (s : Service) : List PortConfig := s.endpointPorts.filter (·.publishMode == .ingress)

theorem PortAllocator.set_apply (pa : PortAllocator) (pr pr' : Protocol) (ps : PortSpace) :
    (pa.set pr ps).portSpaces pr' = if pr' = pr then ps else pa.portSpaces pr' := by
  simp only [PortAllocator.set, Function.update_apply]

/-- What an allocation does: the state is the config with a published
port the master space did not hold, now held by it, and by the dynamic
space when it is in the dynamic range. -/
theorem PortSpace.allocate_ok {ps ps' : PortSpace} {p st : PortConfig}
    (hr : ps.dynamicPortSpace.start = dynamicPortStart ∧ ps.dynamicPortSpace.stop = dynamicPortEnd)
    (h : ps.allocate p = .ok (ps', st)) :
    st = { p with publishedPort := st.publishedPort } ∧ st.publishedPort ∉ ps.masterPortSpace.taken ∧
      ps'.masterPortSpace.taken = insert st.publishedPort ps.masterPortSpace.taken ∧
      ps'.dynamicPortSpace.taken = (if inDynamicRange st.publishedPort then
        insert st.publishedPort ps.dynamicPortSpace.taken else ps.dynamicPortSpace.taken) ∧
      ps'.dynamicPortSpace.start = ps.dynamicPortSpace.start ∧
      ps'.dynamicPortSpace.stop = ps.dynamicPortSpace.stop := by
  unfold PortSpace.allocate at h
  split at h
  · split at h
    · -- a published port in the dynamic range: both spaces
      next hin =>
        cases hd : ps.dynamicPortSpace.getSpecificID p.publishedPort with
        | error e => rw [hd] at h; cases h
        | ok dynamic =>
            rw [hd] at h
            cases hm : ps.masterPortSpace.getSpecificID p.publishedPort with
            | error e => rw [hm] at h; cases h
            | ok master =>
                rw [hm] at h
                cases h
                obtain ⟨-, -, -, hdt, hds, hde⟩ := Idm.getSpecificID_ok hd
                obtain ⟨hfree, -, -, hmt, -, -⟩ := Idm.getSpecificID_ok hm
                exact ⟨rfl, hfree, hmt, by rw [if_pos hin, hdt], hds, hde⟩
    · -- a published port outside it: the master space only
      next hin =>
        cases hm : ps.masterPortSpace.getSpecificID p.publishedPort with
        | error e => rw [hm] at h; cases h
        | ok master =>
            rw [hm] at h
            cases h
            obtain ⟨hfree, -, -, hmt, -, -⟩ := Idm.getSpecificID_ok hm
            exact ⟨rfl, hfree, hmt, by rw [if_neg hin], rfl, rfl⟩
  · -- no published port: one of the dynamic space, then the same in the master space
    cases hd : ps.dynamicPortSpace.getID with
    | error e => rw [hd] at h; cases h
    | ok r =>
        obtain ⟨swarmPort, dynamic⟩ := r
        rw [hd] at h
        dsimp only at h
        cases hm : ps.masterPortSpace.getSpecificID swarmPort with
        | error e => rw [hm] at h; cases h
        | ok master =>
            rw [hm] at h
            cases h
            obtain ⟨-, hlo, hhi, hdt, hds, hde⟩ := Idm.getID_ok hd
            obtain ⟨hfree, -, -, hmt, -, -⟩ := Idm.getSpecificID_ok hm
            have hin : inDynamicRange swarmPort := ⟨hr.1 ▸ hlo, hr.2 ▸ hhi⟩
            exact ⟨rfl, hfree, hmt, by rw [if_pos hin, hdt], hds, hde⟩

theorem PortSpace.free_master (ps : PortSpace) (p : PortConfig) :
    (ps.free p).masterPortSpace.taken = ps.masterPortSpace.taken.erase p.publishedPort := rfl

theorem PortSpace.free_dynamic (ps : PortSpace) (p : PortConfig) :
    (ps.free p).dynamicPortSpace.taken = if inDynamicRange p.publishedPort then
      ps.dynamicPortSpace.taken.erase p.publishedPort else ps.dynamicPortSpace.taken := by
  unfold PortSpace.free
  split <;> rfl

theorem PortSpace.free_range (ps : PortSpace) (p : PortConfig) :
    (ps.free p).dynamicPortSpace.start = ps.dynamicPortSpace.start ∧
      (ps.free p).dynamicPortSpace.stop = ps.dynamicPortSpace.stop := by
  unfold PortSpace.free
  split <;> exact ⟨rfl, rfl⟩

-- =================== the invariant

/-- Some state of `held` has this protocol and published port. -/
def Holds (held : Nat → List PortConfig) (pr : Protocol) (n : Nat) : Prop :=
  ∃ id, ∃ p ∈ held id, p.published = (pr, n)

/-- The spaces hold exactly the published ports of `held`, each held by
one state. -/
structure PortsInv (pa : PortAllocator) (held : Nat → List PortConfig) : Prop where
  nodup : ∀ id, ((held id).map PortConfig.published).Nodup
  disjoint : ∀ id id', id ≠ id' → ∀ p ∈ held id, ∀ q ∈ held id', p.published ≠ q.published
  master : ∀ pr n, n ∈ (pa.portSpaces pr).masterPortSpace.taken ↔ Holds held pr n
  dynamic : ∀ pr n, n ∈ (pa.portSpaces pr).dynamicPortSpace.taken ↔
    n ∈ (pa.portSpaces pr).masterPortSpace.taken ∧ inDynamicRange n
  ranges : ∀ pr, (pa.portSpaces pr).dynamicPortSpace.start = dynamicPortStart ∧
    (pa.portSpaces pr).dynamicPortSpace.stop = dynamicPortEnd

theorem PortsInv.init : PortsInv newPortAllocator fun _ => [] where
  nodup _ := List.nodup_nil
  disjoint _ _ _ _ hp := nomatch hp
  master _ _ := ⟨fun h => absurd h (Finset.notMem_empty _), fun ⟨_, _, hp, _⟩ => nomatch hp⟩
  dynamic _ _ := ⟨fun h => absurd h (Finset.notMem_empty _), fun ⟨h, _⟩ => absurd h (Finset.notMem_empty _)⟩
  ranges _ := ⟨rfl, rfl⟩

/-- An unchanged family: an update of one service to what it held. -/
theorem PortsInv.update_self (h : PortsInv pa held) (id : Nat) : PortsInv pa (Function.update held id (held id)) := by
  rw [Function.update_eq_self]
  exact h

/-- An update of one service to states without duplicates keeps every
service's states without duplicates. -/
theorem PortsInv.nodup_update (h : PortsInv pa held) {id : Nat} {l : List PortConfig}
    (hl : (l.map PortConfig.published).Nodup) (id' : Nat) :
    ((Function.update held id l id').map PortConfig.published).Nodup := by
  by_cases hid : id' = id
  · subst hid
    rw [Function.update_self]
    exact hl
  · rw [Function.update_of_ne hid]
    exact h.nodup id'

/-- A space set for one protocol with the dynamic range kept keeps every
protocol's dynamic range. -/
theorem PortsInv.ranges_set (h : PortsInv pa held) {pr : Protocol} {ps : PortSpace}
    (hs : ps.dynamicPortSpace.start = (pa.portSpaces pr).dynamicPortSpace.start ∧
      ps.dynamicPortSpace.stop = (pa.portSpaces pr).dynamicPortSpace.stop) (pr' : Protocol) :
    ((pa.set pr ps).portSpaces pr').dynamicPortSpace.start = dynamicPortStart ∧
      ((pa.set pr ps).portSpaces pr').dynamicPortSpace.stop = dynamicPortEnd := by
  rw [PortAllocator.set_apply]
  split
  · next hpr =>
      subst hpr
      rw [hs.1, hs.2]
      exact h.ranges _
  · exact h.ranges pr'

-- ======================== one port

theorem mem_update_append {id id' : Nat} {st p : PortConfig} :
    p ∈ Function.update held id (held id ++ [st]) id' ↔ p ∈ held id' ∨ (id' = id ∧ p = st) := by
  by_cases hid : id' = id
  · subst hid
    rw [Function.update_self, List.mem_append, List.mem_singleton]
    exact ⟨fun h => h.imp_right fun h => ⟨rfl, h⟩, fun h => h.imp_right And.right⟩
  · rw [Function.update_of_ne hid]
    exact ⟨.inl, fun h => h.resolve_right fun h => hid h.1⟩

/-- An allocated state takes a port no state held. -/
theorem PortsInv.alloc (h : PortsInv pa held) (id : Nat) {pc st : PortConfig} {ps : PortSpace}
    (ha : (pa.portSpaces pc.protocol).allocate pc = .ok (ps, st)) :
    PortsInv (pa.set pc.protocol ps) (Function.update held id (held id ++ [st])) := by
  obtain ⟨hst, hfree, hmt, hdt, hds, hde⟩ := PortSpace.allocate_ok (h.ranges pc.protocol) ha
  -- the state's port is held by nobody
  have hpub : st.published = (pc.protocol, st.publishedPort) := by rw [hst]; rfl
  have hnone : ∀ id' q, q ∈ held id' → q.published ≠ st.published := by
    intro id' q hq he
    exact hfree ((h.master _ _).mpr ⟨id', q, hq, he.trans hpub⟩)
  refine ⟨h.nodup_update ?_, fun id₁ id₂ hne p hp q hq => ?_, fun pr n => ?_, fun pr n => ?_,
    h.ranges_set ⟨hds, hde⟩⟩
  · -- no port twice in one service
    rw [List.map_append, List.nodup_append]
    refine ⟨h.nodup id, List.nodup_singleton _, ?_⟩
    intro a ha b hb hab
    obtain ⟨q, hq, rfl⟩ := List.mem_map.mp ha
    rw [List.map_singleton, List.mem_singleton] at hb
    exact hnone id q hq (hab.trans hb)
  · -- nor across two
    rcases mem_update_append.mp hp with hp' | ⟨hid₁, hpe⟩ <;>
      rcases mem_update_append.mp hq with hq' | ⟨hid₂, hqe⟩
    · exact h.disjoint id₁ id₂ hne p hp' q hq'
    · rw [hqe]
      exact hnone id₁ p hp'
    · rw [hpe]
      exact fun he => hnone id₂ q hq' he.symm
    · exact absurd (hid₁.trans hid₂.symm) hne
  · -- the master space holds the new port besides the others
    rw [PortAllocator.set_apply]
    unfold Holds
    simp only [mem_update_append]
    split
    · next hpr =>
        subst hpr
        rw [hmt, Finset.mem_insert, h.master]
        constructor
        · rintro (rfl | ⟨id', q, hq, he⟩)
          · exact ⟨id, st, .inr ⟨rfl, rfl⟩, hpub⟩
          · exact ⟨id', q, .inl hq, he⟩
        · rintro ⟨id', q, hq | ⟨-, rfl⟩, he⟩
          · exact .inr ⟨id', q, hq, he⟩
          · exact .inl (congrArg Prod.snd (he.symm.trans hpub) : n = _)
    · next hpr =>
        rw [h.master]
        constructor
        · rintro ⟨id', q, hq, he⟩
          exact ⟨id', q, .inl hq, he⟩
        · rintro ⟨id', q, hq | ⟨-, rfl⟩, he⟩
          · exact ⟨id', q, hq, he⟩
          · exact absurd (congrArg Prod.fst (he.symm.trans hpub)) hpr
  · -- the dynamic space holds it too when it is in the dynamic range
    rw [PortAllocator.set_apply]
    split
    · next hpr =>
        subst hpr
        rw [hdt, hmt, Finset.mem_insert]
        split
        · rw [Finset.mem_insert, h.dynamic]
          constructor
          · rintro (rfl | ⟨hm, hin⟩)
            · exact ⟨.inl rfl, ‹_›⟩
            · exact ⟨.inr hm, hin⟩
          · rintro ⟨rfl | hm, hin⟩
            · exact .inl rfl
            · exact .inr ⟨hm, hin⟩
        · next hout =>
            rw [h.dynamic]
            constructor
            · rintro ⟨hm, hin⟩
              exact ⟨.inr hm, hin⟩
            · rintro ⟨rfl | hm, hin⟩
              · exact absurd hin hout
              · exact ⟨hm, hin⟩
    · exact h.dynamic pr n

/-- A freed state's port was held by it alone. -/
theorem PortsInv.free (h : PortsInv pa held) {id : Nat} {p : PortConfig} (hp : p ∈ held id) :
    PortsInv (pa.freePort p) (Function.update held id ((held id).erase p)) := by
  have hnd : (held id).Nodup := (h.nodup id).of_map _
  -- after the erase, a state of the family holds the port of `p` no more
  have hmem : ∀ id' q, q ∈ Function.update held id ((held id).erase p) id' ↔
      q ∈ held id' ∧ q.published ≠ p.published := by
    intro id' q
    by_cases hid : id' = id
    · subst hid
      rw [Function.update_self, hnd.mem_erase_iff]
      constructor
      · rintro ⟨hne, hq⟩
        exact ⟨hq, fun he => hne (List.inj_on_of_nodup_map (h.nodup id') hq hp he)⟩
      · rintro ⟨hq, hne⟩
        exact ⟨fun he => hne (he ▸ rfl), hq⟩
    · rw [Function.update_of_ne hid]
      exact ⟨fun hq => ⟨hq, h.disjoint id' id hid q hq p hp⟩, And.left⟩
  refine ⟨h.nodup_update ((h.nodup id).sublist (List.erase_sublist.map _)), fun id₁ id₂ hne q hq r hr => ?_,
    fun pr n => ?_, fun pr n => ?_, h.ranges_set (PortSpace.free_range _ p)⟩
  · exact h.disjoint id₁ id₂ hne q ((hmem id₁ q).mp hq).1 r ((hmem id₂ r).mp hr).1
  · unfold PortAllocator.freePort Holds
    simp only [hmem]
    rw [PortAllocator.set_apply]
    split
    · next hpr =>
        subst hpr
        rw [PortSpace.free_master, Finset.mem_erase, h.master]
        constructor
        · rintro ⟨hne, id', q, hq, he⟩
          refine ⟨id', q, ⟨hq, fun hqp => hne ?_⟩, he⟩
          exact (congrArg Prod.snd (he.symm.trans hqp) : n = p.publishedPort)
        · rintro ⟨id', q, ⟨hq, hqp⟩, he⟩
          refine ⟨fun hn => hqp (he.trans ?_), id', q, hq, he⟩
          rw [hn]
          rfl
    · next hpr =>
        rw [h.master]
        constructor
        · rintro ⟨id', q, hq, he⟩
          refine ⟨id', q, ⟨hq, fun hqp => hpr ?_⟩, he⟩
          exact (congrArg Prod.fst (he.symm.trans hqp) : pr = p.protocol)
        · rintro ⟨id', q, ⟨hq, -⟩, he⟩
          exact ⟨id', q, hq, he⟩
  · unfold PortAllocator.freePort
    rw [PortAllocator.set_apply]
    split
    · next hpr =>
        subst hpr
        rw [PortSpace.free_dynamic, PortSpace.free_master, Finset.mem_erase]
        split
        · rw [Finset.mem_erase, h.dynamic]
          exact ⟨fun ⟨hne, hm, hin⟩ => ⟨⟨hne, hm⟩, hin⟩, fun ⟨⟨hne, hm⟩, hin⟩ => ⟨hne, hm, hin⟩⟩
        · next hout =>
            rw [h.dynamic]
            constructor
            · rintro ⟨hm, hin⟩
              exact ⟨⟨fun hn => hout (hn ▸ hin), hm⟩, hin⟩
            · rintro ⟨⟨-, hm⟩, hin⟩
              exact ⟨hm, hin⟩
    · exact h.dynamic pr n

-- =========================== loops

/-- The loop of `serviceDeallocatePorts` frees the ingress ports of the
list the service held, one at a time. Induction on the list. -/
theorem PortsInv.freeAll (id : Nat) :
    ∀ (l : List PortConfig) {pa : PortAllocator} {held : Nat → List PortConfig}, PortsInv pa held →
      held id = l.filter (·.publishMode == .ingress) →
      PortsInv (l.foldl (fun pa p => if p.publishMode = .ingress then pa.freePort p else pa) pa)
        (Function.update held id [])
  | [], pa, held, h, hl => by
      rw [List.filter_nil] at hl
      rw [List.foldl_nil, ← hl]
      exact h.update_self id
  | p :: l, pa, held, h, hl => by
      rw [List.foldl_cons]
      by_cases hp : p.publishMode = .ingress
      · rw [if_pos hp]
        rw [List.filter_cons_of_pos (by simp [hp])] at hl
        have h₁ := h.free (hl ▸ List.mem_cons_self)
        rw [hl, List.erase_cons_head] at h₁
        have h₂ := PortsInv.freeAll id l h₁ (Function.update_self ..)
        rwa [Function.update_idem] at h₂
      · rw [if_neg hp]
        rw [List.filter_cons_of_neg (by simp [hp])] at hl
        exact PortsInv.freeAll id l h hl

theorem PortsInv.serviceDeallocatePorts (h : PortsInv pa held) {id : Nat} {s : Service}
    (hs : held id = s.ingressPorts) :
    PortsInv (pa.serviceDeallocatePorts s).1 (Function.update held id []) ∧
      (pa.serviceDeallocatePorts s).2.ingressPorts = [] := by
  unfold PortAllocator.serviceDeallocatePorts
  cases he : s.endpoint with
  | none =>
      have hnil : held id = [] := by rw [hs, Service.ingressPorts, Service.endpointPorts, he]; rfl
      refine ⟨?_, ?_⟩
      · rw [← hnil]
        exact h.update_self id
      · show s.ingressPorts = []
        rw [← hs, hnil]
  | some endpoint =>
      refine ⟨PortsInv.freeAll id endpoint.ports h ?_, rfl⟩
      rw [hs, Service.ingressPorts, Service.endpointPorts, he]
      rfl

/-- The loop of `serviceAllocatePorts`: the service's states grow by the
ingress states it appends. Induction on the port configs. -/
theorem PortsInv.allocatePorts (id : Nat) :
    ∀ (pcs : List PortConfig) {pa : PortAllocator} {held : Nat → List PortConfig}, PortsInv pa held →
      PortsInv (pa.allocatePorts pcs).1
        (Function.update held id (held id ++ (pa.allocatePorts pcs).2.1.filter (·.publishMode == .ingress)))
  | [], pa, held, h => by
      rw [PortAllocator.allocatePorts, List.filter_nil, List.append_nil]
      exact h.update_self id
  | pc :: rest, pa, held, h => by
      rw [PortAllocator.allocatePorts]
      by_cases hi : pc.publishMode = .ingress
      · rw [if_pos hi]
        cases ha : (pa.portSpaces pc.protocol).allocate pc with
        | error e =>
            rw [List.filter_nil, List.append_nil]
            exact h.update_self id
        | ok r =>
            obtain ⟨ps, st⟩ := r
            dsimp only
            -- the state allocated is an ingress state, kept by the filter
            have hst : st.publishMode = .ingress := by
              rw [(PortSpace.allocate_ok (h.ranges _) ha).1]
              exact hi
            have h₂ := PortsInv.allocatePorts id rest (h.alloc id ha)
            rw [Function.update_self, Function.update_idem, List.append_assoc, List.singleton_append] at h₂
            rw [List.filter_cons_of_pos (by simp [hst])]
            exact h₂
      · rw [if_neg hi]
        dsimp only
        rw [List.filter_cons_of_neg (by simp [hi])]
        exact PortsInv.allocatePorts id rest h

theorem withPortStates_ingressPorts (s : Service) (states : List PortConfig) :
    (withPortStates s states).ingressPorts = s.ingressPorts ++ states.filter (·.publishMode == .ingress) := by
  unfold withPortStates
  split
  · next he => simp [Service.ingressPorts, Service.endpointPorts, he]
  · next he _ => simp [Service.ingressPorts, Service.endpointPorts, he]
  · next endpoint he => simp [Service.ingressPorts, Service.endpointPorts, he, List.filter_append]

-- ======================== services

theorem PortsInv.serviceAllocatePorts (h : PortsInv pa held) {id : Nat} {s : Service}
    (hs : held id = s.ingressPorts) :
    PortsInv (pa.serviceAllocatePorts s).1 (Function.update held id (pa.serviceAllocatePorts s).2.1.ingressPorts) := by
  unfold PortAllocator.serviceAllocatePorts
  cases s.spec.endpoint with
  | none =>
      rw [← hs]
      exact h.update_self id
  | some _ =>
      dsimp only
      -- the old ports freed
      obtain ⟨h₁, hs₁⟩ := h.serviceDeallocatePorts hs
      rcases hd : pa.serviceDeallocatePorts s with ⟨pa₁, s₁⟩
      rw [hd] at h₁ hs₁
      -- the reconciled ones allocated
      have h₂ := PortsInv.allocatePorts id (reconcilePortConfigs s) h₁
      rcases ha : pa₁.allocatePorts (reconcilePortConfigs s) with ⟨pa₂, states, err⟩
      rw [ha, Function.update_self, Function.update_idem, List.nil_append] at h₂
      dsimp only at h₂ ⊢
      have hw : (withPortStates s₁ states).ingressPorts = states.filter (·.publishMode == .ingress) := by
        rw [withPortStates_ingressPorts, hs₁, List.nil_append]
      cases err with
      | none =>
          rw [hw]
          exact h₂
      | some e =>
          -- a failure frees what was appended
          dsimp only
          obtain ⟨h₃, hs₃⟩ := h₂.serviceDeallocatePorts (Function.update_self .. |>.trans hw.symm)
          rw [Function.update_idem] at h₃
          rw [hs₃]
          exact h₃

theorem PortsInv.deallocateService {na : NetworkAllocator} (h : PortsInv na.portAllocator held) {id : Nat}
    {s : Service} (hs : held id = s.ingressPorts) :
    PortsInv (na.deallocateService s).1.portAllocator (Function.update held id (na.deallocateService s).2.ingressPorts) := by
  unfold NetworkAllocator.deallocateService
  cases he : s.endpoint with
  | none =>
      rw [← hs]
      exact h.update_self id
  | some _ =>
      obtain ⟨h₁, hs₁⟩ := h.serviceDeallocatePorts hs
      rw [hs₁]
      exact h₁

/-- Setting the endpoint's spec leaves its ports. -/
theorem ingressPorts_withSpec (s : Service) (spec : Option EndpointSpec) :
    Service.ingressPorts ⟨s.id, s.spec, some ⟨spec, (s.endpoint.getD ⟨none, []⟩).ports⟩⟩ = s.ingressPorts := by
  cases he : s.endpoint <;> simp [Service.ingressPorts, Service.endpointPorts, he]

theorem PortsInv.allocateService {na : NetworkAllocator} (h : PortsInv na.portAllocator held) {id : Nat}
    {s : Service} (hs : held id = s.ingressPorts) (vipsOk : Bool) :
    PortsInv (na.allocateService s vipsOk).1.portAllocator
      (Function.update held id (na.allocateService s vipsOk).2.1.ingressPorts) := by
  have h₁ := h.serviceAllocatePorts hs
  unfold NetworkAllocator.allocateService
  rcases hp : na.portAllocator.serviceAllocatePorts s with ⟨pa₁, s₁, err⟩
  rw [hp] at h₁
  cases err with
  | some e => exact h₁
  | none =>
      dsimp only at h₁ ⊢
      cases vipsOk with
      | true =>
          rw [if_pos rfl, ingressPorts_withSpec]
          exact h₁
      | false =>
          -- a VIP failure deallocates the service
          rw [if_neg Bool.false_ne_true]
          have h₁' : PortsInv (⟨pa₁⟩ : NetworkAllocator).portAllocator _ := h₁
          have h₂ := h₁'.deallocateService
            ((Function.update_self ..).trans (ingressPorts_withSpec s₁ s₁.spec.endpoint).symm)
          rwa [Function.update_idem] at h₂

end Invariant

-- ======================== the runs

/-- The allocator and the services it has seen, by ID. -/
structure World where
  na : NetworkAllocator
  services : Nat → Option Service

/-- A new allocator that has seen no service. -/
def World.init : World := ⟨⟨newPortAllocator⟩, fun _ => none⟩

/-- The service under an ID; a new one without an endpoint when there is
none. -/
def World.service (w : World) (id : Nat) : Service := (w.services id).getD ⟨id, ⟨none⟩, none⟩

/-- A call on the allocator. -/
inductive Act
  /-- `AllocateService` on the service under `id` with the spec `spec`
  (created, or updated); `vipsOk` says whether its VIPs are allocated. -/
  | allocateService (id : Nat) (spec : ServiceSpec) (vipsOk : Bool)
  /-- `DeallocateService` on the service under `id`. -/
  | deallocateService (id : Nat)

/-- A call, its service written back under its ID. -/
def step : Act → World → Option World
  | .allocateService id spec vipsOk, w =>
    match w.na.allocateService { w.service id with spec } vipsOk with
    | (na, s, _) => some ⟨na, Function.update w.services id (some s)⟩
  | .deallocateService id, w =>
    match w.services id with
    | none => none
    | some s =>
      match w.na.deallocateService s with
      | (na, s) => some ⟨na, Function.update w.services id (some s)⟩

/-- The ingress port states of the service under each ID. -/
def World.held (w : World) (id : Nat) : List PortConfig := ((w.services id).map Service.ingressPorts).getD []

theorem World.held_service (w : World) (id : Nat) : w.held id = (w.service id).ingressPorts := by
  unfold World.held World.service
  cases w.services id <;> rfl

theorem World.held_update (na : NetworkAllocator) (w : World) (id : Nat) (s : Service) :
    World.held ⟨na, Function.update w.services id (some s)⟩ = Function.update w.held id s.ingressPorts := by
  funext id'
  by_cases hid : id' = id
  · subst hid
    simp [World.held]
  · simp [World.held, Function.update_of_ne hid]

theorem inv_step {a : Act} {w w' : World} (h : PortsInv w.na.portAllocator w.held) (hs : step a w = some w') :
    PortsInv w'.na.portAllocator w'.held := by
  cases a with
  | allocateService id spec vipsOk =>
      cases hs
      rw [World.held_update]
      -- the new spec leaves the endpoint
      have hs : w.held id = ({ w.service id with spec } : Service).ingressPorts := w.held_service id
      exact h.allocateService hs vipsOk
  | deallocateService id =>
      simp only [step] at hs
      cases hsid : w.services id with
      | none => rw [hsid] at hs; cases hs
      | some s =>
          rw [hsid] at hs
          cases hs
          rw [World.held_update]
          exact h.deallocateService (by rw [World.held, hsid]; rfl)

/-- Through any calls of `AllocateService` and `DeallocateService` from a
new allocator, for every protocol: the master space holds exactly the
published ports of the services' ingress port states, the dynamic space
exactly those of them in `[30000, 32767]`, and no published port is in
two ingress states, of one service or of two. -/
theorem ports_held_exactly {w : World} (hw : Lts.Reachable step World.init w) (pr : Protocol) :
    (∀ n, n ∈ (w.na.portAllocator.portSpaces pr).masterPortSpace.taken ↔
      ∃ id s, w.services id = some s ∧ ∃ p ∈ s.ingressPorts, p.protocol = pr ∧ p.publishedPort = n) ∧
    (∀ n, n ∈ (w.na.portAllocator.portSpaces pr).dynamicPortSpace.taken ↔
      n ∈ (w.na.portAllocator.portSpaces pr).masterPortSpace.taken ∧ dynamicPortStart ≤ n ∧ n ≤ dynamicPortEnd) ∧
    (∀ id s, w.services id = some s → (s.ingressPorts.map PortConfig.published).Nodup) ∧
    (∀ id id' s s', id ≠ id' → w.services id = some s → w.services id' = some s' →
      ∀ p ∈ s.ingressPorts, ∀ q ∈ s'.ingressPorts, p.published ≠ q.published) := by
  have hind : Lts.Inductive step World.init fun w => PortsInv w.na.portAllocator w.held :=
    ⟨PortsInv.init, inv_step⟩
  have h := hind.reachable hw
  -- the held states of a stored service are its ingress states
  have hheld : ∀ id s, w.services id = some s → w.held id = s.ingressPorts := by
    intro id s hs
    rw [World.held, hs]
    rfl
  refine ⟨fun n => ?_, h.dynamic pr, fun id s hs => hheld id s hs ▸ h.nodup id,
    fun id id' s s' hne hs hs' => hheld id s hs ▸ hheld id' s' hs' ▸ h.disjoint id id' hne⟩
  rw [h.master]
  constructor
  · rintro ⟨id, p, hp, he⟩
    cases hs : w.services id with
    | none => rw [World.held, hs] at hp; cases hp
    | some s =>
        rw [hheld id s hs] at hp
        exact ⟨id, s, hs, p, hp, congrArg Prod.fst he, congrArg Prod.snd he⟩
  · rintro ⟨id, s, hs, p, hp, hpr, hn⟩
    refine ⟨id, p, hheld id s hs ▸ hp, ?_⟩
    rw [PortConfig.published, hpr, hn]

/-- A service publishing port 80 and asking for a dynamic port. -/
def webSpec : ServiceSpec :=
  ⟨some ⟨.vip, [⟨"http", .tcp, 80, 80, .ingress⟩, ⟨"admin", .tcp, 8080, 0, .ingress⟩]⟩⟩

/-- Two services of that spec, the second asking for port 80 again and
failing its VIPs. -/
def webCalls : List Act := [.allocateService 1 webSpec true, .allocateService 2 webSpec false]

theorem ports_held_exactly_web :
    ∃ w, Lts.run step World.init webCalls = some w ∧
      ∀ n, n ∈ (w.na.portAllocator.portSpaces .tcp).masterPortSpace.taken ↔
        ∃ id s, w.services id = some s ∧ ∃ p ∈ s.ingressPorts, p.protocol = .tcp ∧ p.publishedPort = n := by
  obtain ⟨w, hrun⟩ : ∃ w, Lts.run step World.init webCalls = some w := ⟨_, rfl⟩
  exact ⟨w, hrun, (ports_held_exactly (Lts.reachable_of_run hrun) .tcp).1⟩

end SwarmKit.Allocator

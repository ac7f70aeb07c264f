import SwarmKit.Allocator.Proofs.Service

/-
Allocating a service's ports again (`Ports.lean`), and what
`IsServiceAllocated` then says (`Service.lean`).

# What the endpoint holds

A spec port is open when it is ingress with no published port: the
allocator picks its port. After `serviceAllocatePorts` succeeds, the
endpoint holds a state for each spec port (`Matches`): the port itself,
or for an open one the port with a published port, the open ones in the
spec's order and the others in theirs (`serviceAllocatePorts_matches`).
Both orders arise: `reconcilePortConfigs` returns the spec's ports as
they are, or those not open first.

# Allocating again

Against such states the two passes of `reconcilePortConfigs` give every
port back: the first removes the published ones, which are among the
states as they are, and leaves the open ones' states in the spec's
order; the second hands each open port the state at the head
(`reconcilePortConfigs_matches`). Freeing the states and taking the same
ports back one by one leaves every space as it was, frame included
(`PortsInv.allocatePorts_published`). So a second call succeeds with the
same spaces and the same states up to order
(`serviceAllocatePorts_again`).

# Reported as allocated

`isPortsAllocatedOnInit` runs the same two passes, and the VIP part of
`IsServiceAllocated` follows the kept VIP (`allocateService_reported`).
A spec without an endpoint is the exception: `serviceAllocatePorts`
then leaves the endpoint's ports alone, and a service whose endpoint
still holds some is reported as not allocated
(`removed_endpoint_unallocated`); `Allocator.allocateService`
deallocates such a service before.
-/

namespace SwarmKit.Allocator

-- ======================= frames

/-- What the port spaces are besides the ports they hold. -/
def PortAllocator.frame (pa : PortAllocator) (pr : Protocol) : (Nat × Nat × Nat) × Nat × Nat × Nat :=
  ((pa.portSpaces pr).masterPortSpace.frame, (pa.portSpaces pr).dynamicPortSpace.frame)

/-- Port spaces of one frame holding the same ports are one. -/
theorem PortAllocator.ext_frame {pa pa' : PortAllocator} (hf : pa.frame = pa'.frame)
    (hm : ∀ pr, (pa.portSpaces pr).masterPortSpace.taken = (pa'.portSpaces pr).masterPortSpace.taken)
    (hd : ∀ pr, (pa.portSpaces pr).dynamicPortSpace.taken = (pa'.portSpaces pr).dynamicPortSpace.taken) :
    pa = pa' := by
  obtain ⟨spaces⟩ := pa
  obtain ⟨spaces'⟩ := pa'
  congr 1
  funext pr
  have hpr := congrFun hf pr
  simp only [PortAllocator.frame, Prod.mk.injEq] at hpr
  have hmaster := Idm.ext_frame hpr.1 (hm pr)
  have hdynamic := Idm.ext_frame hpr.2 (hd pr)
  -- a port space is its two managers
  revert hmaster hdynamic
  cases spaces pr
  cases spaces' pr
  intro hmaster hdynamic
  dsimp only at hmaster hdynamic
  rw [hmaster, hdynamic]

theorem PortAllocator.frame_master {pa pa' : PortAllocator} (h : pa'.frame = pa.frame) (pr : Protocol) :
    (pa'.portSpaces pr).masterPortSpace.start = (pa.portSpaces pr).masterPortSpace.start ∧
      (pa'.portSpaces pr).masterPortSpace.stop = (pa.portSpaces pr).masterPortSpace.stop := by
  have hpr := congrArg Prod.fst (congrFun h pr)
  simp only [PortAllocator.frame, Idm.frame, Prod.mk.injEq] at hpr
  exact ⟨hpr.1, hpr.2.1⟩

/-- A space set for one protocol with the frames it had keeps the
allocator's frame. -/
theorem PortAllocator.set_frame (pa : PortAllocator) {pr : Protocol} {ps : PortSpace}
    (hm : ps.masterPortSpace.frame = (pa.portSpaces pr).masterPortSpace.frame)
    (hd : ps.dynamicPortSpace.frame = (pa.portSpaces pr).dynamicPortSpace.frame) :
    (pa.set pr ps).frame = pa.frame := by
  funext pr'
  unfold PortAllocator.frame
  rw [PortAllocator.set_apply]
  split
  · next hpr =>
      subst hpr
      rw [hm, hd]
  · rfl

theorem PortAllocator.freeAll_frame :
    ∀ (l : List PortConfig) (pa : PortAllocator),
      (l.foldl (fun pa p => if p.publishMode = .ingress then pa.freePort p else pa) pa).frame = pa.frame
  | [], _ => rfl
  | p :: l, pa => by
    rw [List.foldl_cons, PortAllocator.freeAll_frame l]
    split
    · unfold PortAllocator.freePort PortSpace.free
      apply PortAllocator.set_frame
      · exact Idm.release_frame _ _
      · split <;> simp
    · rfl

theorem PortAllocator.serviceDeallocatePorts_frame (pa : PortAllocator) (s : Service) :
    (pa.serviceDeallocatePorts s).1.frame = pa.frame := by
  unfold PortAllocator.serviceDeallocatePorts
  split
  · rfl
  · exact PortAllocator.freeAll_frame _ pa

-- ==================== taking back

/-- Allocating a published port takes it as it is and keeps the frames. -/
theorem PortSpace.allocate_published {ps ps' : PortSpace} {p st : PortConfig} (hp : p.publishedPort ≠ 0)
    (h : ps.allocate p = .ok (ps', st)) :
    st = p ∧ ps'.masterPortSpace.frame = ps.masterPortSpace.frame ∧
      ps'.dynamicPortSpace.frame = ps.dynamicPortSpace.frame := by
  unfold PortSpace.allocate at h
  rw [if_pos hp] at h
  split at h
  · cases hd : ps.dynamicPortSpace.getSpecificID p.publishedPort with
    | error e => rw [hd] at h; cases h
    | ok dynamic =>
        rw [hd] at h
        cases hm : ps.masterPortSpace.getSpecificID p.publishedPort with
        | error e => rw [hm] at h; cases h
        | ok master =>
            rw [hm] at h
            cases h
            exact ⟨rfl, Idm.getSpecificID_frame hm, Idm.getSpecificID_frame hd⟩
  · cases hm : ps.masterPortSpace.getSpecificID p.publishedPort with
    | error e => rw [hm] at h; cases h
    | ok master =>
        rw [hm] at h
        cases h
        exact ⟨rfl, Idm.getSpecificID_frame hm, rfl⟩

/-- A published port free in its spaces and in their ranges is taken. -/
theorem PortSpace.allocate_of_free {ps : PortSpace} {p : PortConfig} (hp : p.publishedPort ≠ 0)
    (hm : ps.masterPortSpace.start ≤ p.publishedPort ∧ p.publishedPort ≤ ps.masterPortSpace.stop)
    (hmf : p.publishedPort ∉ ps.masterPortSpace.taken)
    (hd : inDynamicRange p.publishedPort → (ps.dynamicPortSpace.start ≤ p.publishedPort ∧
      p.publishedPort ≤ ps.dynamicPortSpace.stop) ∧ p.publishedPort ∉ ps.dynamicPortSpace.taken) :
    ∃ ps' st, ps.allocate p = .ok (ps', st) := by
  obtain ⟨master, hmaster⟩ := Idm.getSpecificID_of_free hm hmf
  unfold PortSpace.allocate
  rw [if_pos hp]
  split
  · next hin =>
      obtain ⟨dynamic, hdynamic⟩ := Idm.getSpecificID_of_free (hd hin).1 (hd hin).2
      rw [hdynamic, hmaster]
      exact ⟨_, _, rfl⟩
  · rw [hmaster]
    exact ⟨_, _, rfl⟩

/-- Published ingress ports that no state holds, each in its master
space's range, are taken back one by one as they are, and the frames
stay. Induction on the list, each port then held by the service. -/
theorem PortsInv.allocatePorts_published (id : Nat) :
    ∀ (L : List PortConfig) {pa : PortAllocator} {held : Nat → List PortConfig}, PortsInv pa held →
      (∀ p ∈ L, p.publishMode = .ingress → p.publishedPort ≠ 0 ∧
        ((pa.portSpaces p.protocol).masterPortSpace.start ≤ p.publishedPort ∧
          p.publishedPort ≤ (pa.portSpaces p.protocol).masterPortSpace.stop) ∧
        ∀ id', ∀ q ∈ held id', q.published ≠ p.published) →
      ((L.filter (·.publishMode == .ingress)).map PortConfig.published).Nodup →
      ∃ pa', pa.allocatePorts L = (pa', L, none) ∧ pa'.frame = pa.frame
  | [], pa, _, _, _, _ => ⟨pa, rfl, rfl⟩
  | p :: L, pa, held, h, hfree, hnd => by
    rw [PortAllocator.allocatePorts]
    by_cases hi : p.publishMode = .ingress
    · rw [if_pos hi]
      obtain ⟨hp, hrange, hnone⟩ := hfree p List.mem_cons_self hi
      -- nobody holds the port, in either space
      have hmf : p.publishedPort ∉ (pa.portSpaces p.protocol).masterPortSpace.taken := by
        rw [h.master]
        rintro ⟨id', q, hq, he⟩
        exact hnone id' q hq he
      have hdf : inDynamicRange p.publishedPort →
          ((pa.portSpaces p.protocol).dynamicPortSpace.start ≤ p.publishedPort ∧
            p.publishedPort ≤ (pa.portSpaces p.protocol).dynamicPortSpace.stop) ∧
          p.publishedPort ∉ (pa.portSpaces p.protocol).dynamicPortSpace.taken := fun hin =>
        ⟨by rw [(h.ranges _).1, (h.ranges _).2]; exact hin, fun hd => hmf ((h.dynamic _ _).mp hd).1⟩
      obtain ⟨ps, st, ha⟩ := PortSpace.allocate_of_free hp hrange hmf hdf
      obtain ⟨hst, hmfr, hdfr⟩ := PortSpace.allocate_published hp ha
      subst st
      have hfr := PortAllocator.set_frame pa hmfr hdfr
      rw [List.filter_cons_of_pos (by simp [hi]), List.map_cons, List.nodup_cons] at hnd
      have hrest : ∀ q ∈ L, q.publishMode = .ingress → q.publishedPort ≠ 0 ∧
          (((pa.set p.protocol ps).portSpaces q.protocol).masterPortSpace.start ≤ q.publishedPort ∧
            q.publishedPort ≤ ((pa.set p.protocol ps).portSpaces q.protocol).masterPortSpace.stop) ∧
          ∀ id', ∀ r ∈ Function.update held id (held id ++ [p]) id', r.published ≠ q.published := by
        intro q hq hqi
        obtain ⟨hq0, hqrange, hqnone⟩ := hfree q (List.mem_cons_of_mem _ hq) hqi
        obtain ⟨hstart, hstop⟩ := PortAllocator.frame_master hfr q.protocol
        refine ⟨hq0, by rw [hstart, hstop]; exact hqrange, fun id' r hr => ?_⟩
        rcases mem_update_append.mp hr with hr | ⟨-, rfl⟩
        · exact hqnone id' r hr
        · -- the port just taken is another one of the list
          intro he
          exact hnd.1 (he ▸ List.mem_map_of_mem (List.mem_filter.mpr ⟨hq, by simp [hqi]⟩))
      obtain ⟨pa', hrun, hfr'⟩ := PortsInv.allocatePorts_published id L (h.alloc id ha) hrest hnd.2
      rw [ha]
      dsimp only
      rw [hrun]
      exact ⟨pa', rfl, hfr'.trans hfr⟩
    · rw [if_neg hi]
      rw [List.filter_cons_of_neg (by simp [hi])] at hnd
      obtain ⟨pa', hrun, hfr⟩ :=
        PortsInv.allocatePorts_published id L h (fun q hq => hfree q (List.mem_cons_of_mem _ hq)) hnd
      dsimp only
      rw [hrun]
      exact ⟨pa', rfl, hfr⟩

-- ===================== spec ports

/-- A port config the spec leaves to the allocator: ingress, with no
published port. -/
def PortConfig.isOpen (pc : PortConfig) : Bool := decide (pc.publishMode = .ingress ∧ pc.publishedPort = 0)

/-- A published ingress port config. -/
def PortConfig.isPublished (pc : PortConfig) : Bool := decide (pc.publishMode = .ingress ∧ pc.publishedPort ≠ 0)

/-- The state a port config gets: itself, or for an open one itself with
a published port. -/
def Fills (pc t : PortConfig) : Prop :=
  if pc.isOpen then t = { pc with publishedPort := t.publishedPort } ∧ t.publishedPort ≠ 0 else t = pc

/-- The states of the open configs, in order. -/
def openStates : List PortConfig → List PortConfig → List PortConfig
  | pc :: O, t :: T => if pc.isOpen then t :: openStates O T else openStates O T
  | _, _ => []

/-- `T` holds a state for each of the spec's port configs `sp`, the open
ones in their order and the others in theirs. -/
def Matches (sp T : List PortConfig) : Prop :=
  ∃ O, List.Forall₂ Fills O T ∧ O.filter (·.isOpen) = sp.filter (·.isOpen) ∧
    O.filter (!·.isOpen) = sp.filter (!·.isOpen)

theorem PortConfig.isOpen_iff {pc : PortConfig} :
    pc.isOpen = true ↔ pc.publishMode = .ingress ∧ pc.publishedPort = 0 := by
  simp [PortConfig.isOpen]

theorem PortConfig.isOpen_eq_false {pc : PortConfig} :
    pc.isOpen = false ↔ pc.publishMode = .ingress → pc.publishedPort ≠ 0 := by
  simp [PortConfig.isOpen]

theorem PortConfig.isPublished_eq (pc : PortConfig) :
    pc.isPublished = (!pc.isOpen && pc.publishMode == .ingress) := by
  unfold PortConfig.isPublished PortConfig.isOpen
  by_cases hi : pc.publishMode = .ingress <;> by_cases hp : pc.publishedPort = 0 <;> simp [hi, hp]

namespace Fills

variable {pc t : PortConfig}

theorem publishMode (h : Fills pc t) : t.publishMode = pc.publishMode := by
  unfold Fills at h
  split at h
  · rw [h.1]
  · rw [h]

theorem eq_of_not_open (h : Fills pc t) (ho : pc.isOpen = false) : t = pc := by
  unfold Fills at h
  rw [if_neg (by simp [ho])] at h
  exact h

/-- The key of a state is its config's. -/
theorem key (h : Fills pc t) : getPortConfigKey t = getPortConfigKey pc := by
  unfold Fills at h
  split at h
  · rw [h.1]
    rfl
  · rw [h]

/-- Every ingress state has a published port. -/
theorem publishedPort_ne_zero (h : Fills pc t) (hi : t.publishMode = .ingress) : t.publishedPort ≠ 0 := by
  by_cases ho : pc.isOpen = true
  · unfold Fills at h
    rw [if_pos ho] at h
    exact h.2
  · rw [h.eq_of_not_open (by simpa using ho)] at hi ⊢
    exact PortConfig.isOpen_eq_false.mp (by simpa using ho) hi

end Fills

section Matching

variable {O T : List PortConfig}

theorem forall₂_openStates (h : List.Forall₂ Fills O T) :
    List.Forall₂ Fills (O.filter (·.isOpen)) (openStates O T) := by
  induction h with
  | nil => exact .nil
  | @cons pc t O T hf _ ih =>
      by_cases ho : pc.isOpen = true
      · rw [List.filter_cons_of_pos ho, openStates, if_pos ho]
        exact .cons hf ih
      · rw [List.filter_cons_of_neg ho, openStates, if_neg ho]
        exact ih

/-- The states are those of the configs that are not open, then those of
the open ones. -/
theorem perm_openStates (h : List.Forall₂ Fills O T) :
    T.Perm (O.filter (!·.isOpen) ++ openStates O T) := by
  induction h with
  | nil => exact .nil
  | @cons pc t O T hf _ ih =>
      by_cases ho : pc.isOpen = true
      · rw [List.filter_cons_of_neg (by simp [ho]), openStates, if_pos ho]
        exact ih.cons t |>.trans List.perm_middle.symm
      · rw [List.filter_cons_of_pos (by simpa using ho), openStates, if_neg ho,
          hf.eq_of_not_open (by simpa using ho)]
        exact ih.cons pc

/-- The ingress states are the published configs, then the states of the
open ones. -/
theorem ingress_perm_openStates (h : List.Forall₂ Fills O T) :
    (T.filter (·.publishMode == .ingress)).Perm (O.filter (·.isPublished) ++ openStates O T) := by
  induction h with
  | nil => exact .nil
  | @cons pc t O T hf _ ih =>
      by_cases ho : pc.isOpen = true
      · have hi : t.publishMode = .ingress := by
          rw [hf.publishMode]
          exact (PortConfig.isOpen_iff.mp ho).1
        rw [List.filter_cons_of_pos (by simp [hi]), List.filter_cons_of_neg (by simp [pc.isPublished_eq, ho]),
          openStates, if_pos ho]
        exact ih.cons t |>.trans List.perm_middle.symm
      · rw [openStates, if_neg ho, hf.eq_of_not_open (by simpa using ho)]
        by_cases hi : pc.publishMode = .ingress
        · rw [List.filter_cons_of_pos (by simp [hi]), List.filter_cons_of_pos (by simp [pc.isPublished_eq, ho, hi])]
          exact ih.cons pc
        · rw [List.filter_cons_of_neg (by simp [hi]), List.filter_cons_of_neg (by simp [pc.isPublished_eq, hi])]
          exact ih

theorem mem_of_not_open (h : List.Forall₂ Fills O T) {pc : PortConfig} (hpc : pc ∈ O) (ho : pc.isOpen = false) :
    pc ∈ T := by
  induction h with
  | nil => cases hpc
  | @cons pc' t O T hf _ ih =>
      rcases List.mem_cons.mp hpc with rfl | hpc
      · rw [hf.eq_of_not_open ho]
        exact List.mem_cons_self
      · exact List.mem_cons_of_mem _ (ih hpc)

/-- Without the published configs, the ingress states are those of the
open configs, in order. -/
theorem filter_not_mem_eq_openStates (h : List.Forall₂ Fills O T) {P : List PortConfig}
    (hP : ∀ pc ∈ O, pc.isPublished = true → pc ∈ P) (hdisj : ∀ t ∈ openStates O T, t ∉ P) :
    (T.filter (·.publishMode == .ingress)).filter (· ∉ P) = openStates O T := by
  induction h with
  | nil => rfl
  | @cons pc t O T hf _ ih =>
      have ih := ih (fun q hq => hP q (List.mem_cons_of_mem _ hq))
      by_cases ho : pc.isOpen = true
      · have hi : t.publishMode = .ingress := by
          rw [hf.publishMode]
          exact (PortConfig.isOpen_iff.mp ho).1
        rw [openStates, if_pos ho] at hdisj ⊢
        rw [List.filter_cons_of_pos (by simp [hi]), List.filter_cons_of_pos (by simpa using hdisj t List.mem_cons_self),
          ih fun q hq => hdisj q (List.mem_cons_of_mem _ hq)]
      · rw [openStates, if_neg ho] at hdisj ⊢
        rw [hf.eq_of_not_open (by simpa using ho)]
        by_cases hi : pc.publishMode = .ingress
        · -- a published config, which `P` holds
          have hp : pc ∈ P := hP pc List.mem_cons_self (by simp [pc.isPublished_eq, ho, hi])
          rw [List.filter_cons_of_pos (by simp [hi]), List.filter_cons_of_neg (by simpa using hp), ih hdisj]
        · rw [List.filter_cons_of_neg (by simp [hi]), ih hdisj]

end Matching

-- ======================== the passes

/-- What `addState` tells ports apart by: key and published port. -/
def PortConfig.stateKey (p : PortConfig) : (String × Protocol × Nat) × Nat := (getPortConfigKey p, p.publishedPort)

/-- States told apart by key and published port are all kept. -/
theorem foldl_addState (L : List PortConfig) :
    ∀ acc : List PortConfig, ((acc ++ L).map PortConfig.stateKey).Nodup → L.foldl addState acc = acc ++ L := by
  induction L with
  | nil => intro acc _; rw [List.foldl_nil, List.append_nil]
  | cons p L ih =>
      intro acc hnd
      -- no earlier state has the key and port of `p`
      have hnone : acc.filter (fun q => !(getPortConfigKey q == getPortConfigKey p &&
          q.publishedPort == p.publishedPort)) = acc := by
        rw [List.filter_eq_self]
        intro q hq
        have hne : q.stateKey ≠ p.stateKey := by
          rw [List.map_append, List.nodup_append] at hnd
          exact hnd.2.2 _ (List.mem_map_of_mem hq) _ (List.mem_map_of_mem List.mem_cons_self)
        have hne' : ¬(getPortConfigKey q = getPortConfigKey p ∧ q.publishedPort = p.publishedPort) :=
          fun ⟨hk, hp⟩ => hne (by rw [PortConfig.stateKey, PortConfig.stateKey, hk, hp])
        simp only [Bool.not_eq_true', Bool.and_eq_false_iff, beq_eq_false_iff_ne, ne_eq]
        by_cases hk : getPortConfigKey q = getPortConfigKey p
        · exact .inr fun hp => hne' ⟨hk, hp⟩
        · exact .inl hk
      rw [List.foldl_cons, addState, hnone, ih (acc ++ [p]) (by simpa using hnd), List.append_assoc,
        List.singleton_append]

/-- A state `addState` keeps is one it was given. -/
theorem mem_foldl_addState {q : PortConfig} :
    ∀ (L acc : List PortConfig), q ∈ L.foldl addState acc → q ∈ acc ∨ q ∈ L
  | [], _, hq => .inl hq
  | p :: L, acc, hq => by
    rcases mem_foldl_addState L _ hq with hq | hq
    · rw [addState, List.mem_append, List.mem_filter, List.mem_singleton] at hq
      rcases hq with ⟨hq, -⟩ | rfl
      · exact .inl hq
      · exact .inr List.mem_cons_self
    · exact .inr (List.mem_cons_of_mem _ hq)

theorem delState_subset (S : List PortConfig) (pc : PortConfig) : (delState S pc).2 ⊆ S := by
  unfold delState
  dsimp only
  split
  · exact List.Subset.refl S
  · exact List.erase_subset

/-- A published ingress config among ingress states is found as it is. -/
theorem delState_published {S : List PortConfig} (hS : ∀ q ∈ S, q.publishMode = .ingress) {pc : PortConfig}
    (hpc : pc.isPublished = true) (hmem : pc ∈ S) : delState S pc = (some pc, S.erase pc) := by
  have hpc' : pc.publishMode = .ingress ∧ pc.publishedPort ≠ 0 := by simpa [PortConfig.isPublished] using hpc
  unfold delState
  rw [if_pos hpc'.2]
  obtain ⟨q, hq⟩ : ∃ q, S.find? (fun q => getPortConfigKey q == getPortConfigKey pc &&
      q.publishedPort == pc.publishedPort) = some q :=
    Option.isSome_iff_exists.mp (List.find?_isSome.mpr ⟨pc, hmem, by simp⟩)
  -- what is found agrees with `pc` on every field
  have hqpc : q = pc := by
    have hfound := List.find?_some hq
    have hmode := hS q (List.mem_of_find?_eq_some hq)
    obtain ⟨name, protocol, target, port, mode⟩ := q
    simp only [getPortConfigKey, Bool.and_eq_true, beq_iff_eq, Prod.mk.injEq] at hfound hmode
    obtain ⟨⟨rfl, rfl, rfl⟩, rfl⟩ := hfound
    rw [hmode, ← hpc'.1]
  rw [hq, hqpc]

/-- An open config finds the state of its own at the head. -/
theorem delState_open {pc u : PortConfig} (ho : pc.isOpen = true) (hf : Fills pc u) (U : List PortConfig) :
    delState (u :: U) pc = (some u, U) := by
  have hpc := PortConfig.isOpen_iff.mp ho
  have hu : Fills pc u := hf
  unfold Fills at hf
  rw [if_pos ho] at hf
  unfold delState
  rw [if_neg (not_not.mpr hpc.2), List.find?_cons_of_pos (by simp [hu.key, hf.2])]
  dsimp only
  rw [List.erase_cons_head]

section Passes

variable {S : List PortConfig}

/-- The first pass picks up every config that is not open. -/
theorem foldl_reconcilePublished_snd (sp : List PortConfig) :
    ∀ S acc, (sp.foldl reconcilePublished (S, acc)).2 = acc ++ sp.filter (!·.isOpen) := by
  induction sp with
  | nil => intro S acc; simp
  | cons pc sp ih =>
      intro S acc
      rw [List.foldl_cons]
      by_cases ho : pc.isOpen = true
      · obtain ⟨hi, hp⟩ := PortConfig.isOpen_iff.mp ho
        rw [reconcilePublished]
        rw [if_neg (not_not.mpr hi), if_neg (not_not.mpr hp), ih, List.filter_cons_of_neg (by simp [ho])]
      · have hpc := PortConfig.isOpen_eq_false.mp (by simpa using ho)
        rw [List.filter_cons_of_pos (by simpa using ho), ← List.singleton_append, ← List.append_assoc]
        rw [reconcilePublished]
        split
        · rw [ih]
        · next hi => rw [if_pos (hpc (not_not.mp hi)), ih]

/-- The first pass only removes states. -/
theorem foldl_reconcilePublished_fst_subset (sp : List PortConfig) :
    ∀ S acc, (sp.foldl reconcilePublished (S, acc)).1 ⊆ S := by
  induction sp with
  | nil => intro S acc; exact List.Subset.refl S
  | cons pc sp ih =>
      intro S acc
      rw [List.foldl_cons, reconcilePublished]
      split
      · exact ih _ _
      · split
        · exact List.Subset.trans (ih _ _) (delState_subset S pc)
        · exact ih _ _

/-- Over ingress states holding each published config once, the first
pass removes exactly the published configs. -/
theorem foldl_reconcilePublished_fst (sp : List PortConfig) :
    ∀ S acc, (∀ q ∈ S, q.publishMode = .ingress) → S.Nodup → (sp.filter (·.isPublished)).Nodup →
      (∀ pc ∈ sp, pc.isPublished = true → pc ∈ S) →
      (sp.foldl reconcilePublished (S, acc)).1 = S.filter (· ∉ sp.filter (·.isPublished)) := by
  induction sp with
  | nil => intro S acc _ _ _ _; simp
  | cons pc sp ih =>
      intro S acc hS hnd hP hmem
      rw [List.foldl_cons, reconcilePublished]
      by_cases hpub : pc.isPublished = true
      · have hpc : pc.publishMode = .ingress ∧ pc.publishedPort ≠ 0 := by
          simpa [PortConfig.isPublished] using hpub
        rw [if_neg (not_not.mpr hpc.1), if_pos hpc.2, delState_published hS hpub (hmem pc List.mem_cons_self hpub)]
        dsimp only
        rw [List.filter_cons_of_pos hpub, List.nodup_cons] at hP
        -- the rest of the pass runs on the states without `pc`
        rw [ih _ _ (fun q hq => hS q (List.erase_subset hq)) (hnd.erase pc) hP.2
          (fun q hq hqp => (hnd.mem_erase_iff).mpr ⟨fun he => hP.1 (he ▸ List.mem_filter.mpr ⟨hq, hqp⟩),
            hmem q (List.mem_cons_of_mem _ hq) hqp⟩),
          hnd.erase_eq_filter, List.filter_filter, List.filter_cons_of_pos hpub]
        congr 1
        funext q
        by_cases hq : q = pc <;> simp [hq]
      · rw [List.filter_cons_of_neg hpub] at hP ⊢
        have hih := fun acc => ih S acc hS hnd hP fun q hq hqp => hmem q (List.mem_cons_of_mem _ hq) hqp
        split
        · exact hih _
        · next hi =>
            rw [if_neg (fun hp => hpub (by simp [PortConfig.isPublished, not_not.mp hi, hp]))]
            exact hih _

/-- `isPortsAllocatedOnInit`'s first loop, over the same states. -/
theorem delPublished_eq (sp : List PortConfig) :
    ∀ S, (∀ q ∈ S, q.publishMode = .ingress) → S.Nodup → (sp.filter (·.isPublished)).Nodup →
      (∀ pc ∈ sp, pc.isPublished = true → pc ∈ S) →
      Network.delPublished S sp = some (S.filter (· ∉ sp.filter (·.isPublished))) := by
  induction sp with
  | nil => intro S _ _ _ _; simp [Network.delPublished]
  | cons pc sp ih =>
      intro S hS hnd hP hmem
      rw [Network.delPublished]
      by_cases hpub : pc.isPublished = true
      · have hpc : pc.publishMode = .ingress ∧ pc.publishedPort ≠ 0 := by
          simpa [PortConfig.isPublished] using hpub
        rw [if_pos hpc, delState_published hS hpub (hmem pc List.mem_cons_self hpub)]
        dsimp only
        rw [List.filter_cons_of_pos hpub, List.nodup_cons] at hP
        rw [ih _ (fun q hq => hS q (List.erase_subset hq)) (hnd.erase pc) hP.2
          (fun q hq hqp => (hnd.mem_erase_iff).mpr ⟨fun he => hP.1 (he ▸ List.mem_filter.mpr ⟨hq, hqp⟩),
            hmem q (List.mem_cons_of_mem _ hq) hqp⟩),
          hnd.erase_eq_filter, List.filter_filter, List.filter_cons_of_pos hpub]
        congr 2
        funext q
        by_cases hq : q = pc <;> simp [hq]
      · rw [if_neg (by simpa [PortConfig.isPublished] using hpub)]
        rw [List.filter_cons_of_neg hpub] at hP ⊢
        exact ih S hS hnd hP fun q hq hqp => hmem q (List.mem_cons_of_mem _ hq) hqp

/-- With the states of the open configs in their order, the second pass
gives each its own. -/
theorem foldl_reconcileUnpublished (sp : List PortConfig) :
    ∀ U acc, List.Forall₂ Fills (sp.filter (·.isOpen)) U → sp.foldl reconcileUnpublished (U, acc) = ([], acc ++ U) := by
  induction sp with
  | nil =>
      intro U acc h
      cases h
      simp
  | cons pc sp ih =>
      intro U acc h
      rw [List.foldl_cons, reconcileUnpublished]
      by_cases ho : pc.isOpen = true
      · rw [List.filter_cons_of_pos ho] at h
        obtain ⟨u, U, rfl, hu, h⟩ : ∃ u U', U = u :: U' ∧ Fills pc u ∧ List.Forall₂ Fills _ U' := by
          cases h with
          | cons hu h => exact ⟨_, _, rfl, hu, h⟩
        rw [if_pos (PortConfig.isOpen_iff.mp ho), delState_open ho hu]
        dsimp only
        rw [ih U (acc ++ [u]) h, List.append_assoc, List.singleton_append]
      · rw [List.filter_cons_of_neg ho] at h
        rw [if_neg (fun h' => ho (PortConfig.isOpen_iff.mpr h')), ih U acc h]

/-- `isPortsAllocatedOnInit`'s second loop, over the same states, with
every host port's target among the endpoint's. -/
theorem checkUnpublished_eq (hosts : List Nat) (sp : List PortConfig) :
    ∀ U, List.Forall₂ Fills (sp.filter (·.isOpen)) U →
      (∀ pc ∈ sp, pc.publishMode = .host → pc.targetPort ∈ hosts) → Network.checkUnpublished false hosts U sp = true := by
  induction sp with
  | nil => intro U _ _; rfl
  | cons pc sp ih =>
      intro U h hhost
      have hrest := fun q hq => hhost q (List.mem_cons_of_mem _ hq)
      rw [Network.checkUnpublished]
      cases hm : pc.publishMode with
      | ingress =>
          dsimp only
          by_cases hp : pc.publishedPort = 0
          · have ho : pc.isOpen = true := PortConfig.isOpen_iff.mpr ⟨hm, hp⟩
            rw [List.filter_cons_of_pos ho] at h
            obtain ⟨u, U, rfl, hu, h⟩ : ∃ u U', U = u :: U' ∧ Fills pc u ∧ List.Forall₂ Fills _ U' := by
              cases h with
              | cons hu h => exact ⟨_, _, rfl, hu, h⟩
            rw [if_pos hp, delState_open ho hu]
            exact ih U h hrest
          · rw [if_neg hp]
            rw [List.filter_cons_of_neg (by simp [PortConfig.isOpen, hp])] at h
            exact ih U h hrest
      | host =>
          dsimp only
          rw [List.filter_cons_of_neg (by simp [PortConfig.isOpen, hm])] at h
          rw [ih U h hrest, Bool.and_true, List.contains_iff_mem]
          exact hhost pc List.mem_cons_self hm

end Passes

-- ===================== the first call

/-- An allocated port has a published port. -/
theorem PortSpace.allocate_ne_zero {ps ps' : PortSpace} {p st : PortConfig}
    (hr : ps.dynamicPortSpace.start = dynamicPortStart ∧ ps.dynamicPortSpace.stop = dynamicPortEnd)
    (h : ps.allocate p = .ok (ps', st)) : st.publishedPort ≠ 0 := by
  by_cases hp : p.publishedPort = 0
  · unfold PortSpace.allocate at h
    rw [if_neg (not_not.mpr hp)] at h
    cases hd : ps.dynamicPortSpace.getID with
    | error e => rw [hd] at h; cases h
    | ok r =>
        obtain ⟨swarmPort, dynamic⟩ := r
        rw [hd] at h
        dsimp only at h
        cases hm : ps.masterPortSpace.getSpecificID swarmPort with
        | error e => rw [hm] at h; cases h
        | ok master =>
            rw [hm] at h
            cases h
            -- a port of the dynamic range
            have hlo := (Idm.getID_ok hd).2.1
            rw [hr.1] at hlo
            unfold dynamicPortStart at hlo
            dsimp only
            omega
  · rw [(PortSpace.allocate_published hp h).1]
    exact hp

/-- The states `allocatePorts` appends, when it succeeds: each port
config itself, an unpublished ingress one with a published port. -/
theorem PortsInv.allocatePorts_fills :
    ∀ (R : List PortConfig) {pa pa' : PortAllocator} {held : Nat → List PortConfig} {T : List PortConfig},
      PortsInv pa held → pa.allocatePorts R = (pa', T, none) → List.Forall₂ Fills R T
  | [], pa, pa', held, T, _, hok => by
    rw [PortAllocator.allocatePorts, Prod.mk.injEq, Prod.mk.injEq] at hok
    rw [← hok.2.1]
    exact .nil
  | r :: R, pa, pa', held, T, h, hok => by
    rw [PortAllocator.allocatePorts] at hok
    by_cases hi : r.publishMode = .ingress
    · rw [if_pos hi] at hok
      cases ha : (pa.portSpaces r.protocol).allocate r with
      | error e => rw [ha] at hok; cases hok
      | ok res =>
          obtain ⟨ps, st⟩ := res
          rw [ha] at hok
          dsimp only at hok
          rcases hrest : (pa.set r.protocol ps).allocatePorts R with ⟨pa₂, states, err⟩
          rw [hrest] at hok
          rw [Prod.mk.injEq, Prod.mk.injEq] at hok
          obtain ⟨-, rfl, rfl⟩ := hok
          refine .cons ?_ (PortsInv.allocatePorts_fills R (h.alloc 0 ha) hrest)
          have hne := PortSpace.allocate_ne_zero (h.ranges _) ha
          unfold Fills
          split
          · exact ⟨(PortSpace.allocate_ok (h.ranges _) ha).1, hne⟩
          · next ho =>
              exact (PortSpace.allocate_published
                (PortConfig.isOpen_eq_false.mp (by simpa using ho) hi) ha).1
    · rw [if_neg hi] at hok
      dsimp only at hok
      rcases hrest : pa.allocatePorts R with ⟨pa₂, states, err⟩
      rw [hrest] at hok
      rw [Prod.mk.injEq, Prod.mk.injEq] at hok
      obtain ⟨-, rfl, rfl⟩ := hok
      refine .cons ?_ (PortsInv.allocatePorts_fills R h hrest)
      unfold Fills
      rw [if_neg (by simp [PortConfig.isOpen, hi])]

/-- What the second pass picks for an open config: the config, or a
state of its key with a published port. -/
def Stick (d q : PortConfig) : Prop :=
  q = d ∨ (q = { d with publishedPort := q.publishedPort } ∧ q.publishedPort ≠ 0)

theorem delState_open_cases {S : List PortConfig} (hS : ∀ q ∈ S, q.publishMode = .ingress) {pc : PortConfig}
    (ho : pc.isOpen = true) :
    delState S pc = (none, S) ∨ ∃ q ∈ S, Stick pc q ∧ delState S pc = (some q, S.erase q) := by
  have hpc := PortConfig.isOpen_iff.mp ho
  unfold delState
  rw [if_neg (not_not.mpr hpc.2)]
  dsimp only
  cases hf : S.find? (fun q => getPortConfigKey q == getPortConfigKey pc && q.publishedPort != 0) with
  | none => exact .inl rfl
  | some q =>
      refine .inr ⟨q, List.mem_of_find?_eq_some hf, .inr ?_, rfl⟩
      have hfound := List.find?_some hf
      have hmode := hS q (List.mem_of_find?_eq_some hf)
      -- the found state agrees with `pc` but for its port
      obtain ⟨name, protocol, target, port, mode⟩ := q
      simp only [getPortConfigKey, Bool.and_eq_true, beq_iff_eq, bne_iff_ne, ne_eq, Prod.mk.injEq] at hfound hmode
      obtain ⟨⟨rfl, rfl, rfl⟩, hport⟩ := hfound
      refine ⟨?_, hport⟩
      rw [hmode, ← hpc.1]

/-- Over ingress states, the second pass picks for each open config the
config or a state it sticks to. -/
theorem foldl_reconcileUnpublished_stick (sp : List PortConfig) :
    ∀ S acc, (∀ q ∈ S, q.publishMode = .ingress) →
      ∃ second, (sp.foldl reconcileUnpublished (S, acc)).2 = acc ++ second ∧
        List.Forall₂ Stick (sp.filter (·.isOpen)) second := by
  induction sp with
  | nil => intro S acc _; exact ⟨[], by simp, .nil⟩
  | cons pc sp ih =>
      intro S acc hS
      rw [List.foldl_cons, reconcileUnpublished]
      by_cases ho : pc.isOpen = true
      · rw [if_pos (PortConfig.isOpen_iff.mp ho), List.filter_cons_of_pos ho]
        rcases delState_open_cases hS ho with hd | ⟨q, hq, hstick, hd⟩
        · rw [hd]
          obtain ⟨second, heq, hsec⟩ := ih S (acc ++ [pc]) hS
          exact ⟨pc :: second, by rw [heq, List.append_assoc, List.singleton_append], .cons (.inl rfl) hsec⟩
        · rw [hd]
          obtain ⟨second, heq, hsec⟩ := ih (S.erase q) (acc ++ [q]) fun r hr => hS r (List.erase_subset hr)
          exact ⟨q :: second, by rw [heq, List.append_assoc, List.singleton_append], .cons hstick hsec⟩
      · rw [if_neg (fun h' => ho (PortConfig.isOpen_iff.mpr h')), List.filter_cons_of_neg ho]
        exact ih S acc hS

/-- What `reconcilePortConfigs` gives: the spec's ports, or those not
open followed by what the open ones stick to. -/
theorem reconcilePortConfigs_cases (s : Service) :
    reconcilePortConfigs s = s.specPorts ∨ ∃ second,
      reconcilePortConfigs s = s.specPorts.filter (!·.isOpen) ++ second ∧
        List.Forall₂ Stick (s.specPorts.filter (·.isOpen)) second := by
  unfold reconcilePortConfigs
  cases he : s.endpoint with
  | none => exact .inl rfl
  | some endpoint =>
      dsimp only
      split
      · exact .inl rfl
      · right
        -- the states are the endpoint's ingress states, less what the first pass removed
        have hS₀ : ∀ q ∈ (endpoint.ports.filter (·.publishMode == .ingress)).foldl addState [],
            q.publishMode = .ingress := by
          intro q hq
          rcases mem_foldl_addState _ [] hq with hq | hq
          · cases hq
          · simpa using (List.mem_filter.mp hq).2
        rcases h₁ : s.specPorts.foldl reconcilePublished
          ((endpoint.ports.filter (·.publishMode == .ingress)).foldl addState [], []) with ⟨states, first⟩
        have hfirst := foldl_reconcilePublished_snd s.specPorts
          ((endpoint.ports.filter (·.publishMode == .ingress)).foldl addState []) []
        have hstates := foldl_reconcilePublished_fst_subset s.specPorts
          ((endpoint.ports.filter (·.publishMode == .ingress)).foldl addState []) []
        rw [h₁] at hfirst hstates
        obtain ⟨second, hsec, hstick⟩ := foldl_reconcileUnpublished_stick s.specPorts states []
          fun q hq => hS₀ q (hstates hq)
        refine ⟨second, ?_, hstick⟩
        show (s.specPorts.foldl reconcilePublished _).2 ++
          (s.specPorts.foldl reconcileUnpublished ((s.specPorts.foldl reconcilePublished _).1, [])).2 = _
        rw [h₁]
        rcases h₂ : s.specPorts.foldl reconcileUnpublished (states, []) with ⟨_, second'⟩
        rw [h₂] at hsec
        dsimp only at hfirst hsec ⊢
        rw [hfirst, hsec, List.nil_append, List.nil_append]

/-- An open config's stuck state gets what the config would. -/
theorem forall₂_stick_fills {D Q T : List PortConfig} (hD : ∀ d ∈ D, d.isOpen = true)
    (hs : List.Forall₂ Stick D Q) (hf : List.Forall₂ Fills Q T) : List.Forall₂ Fills D T := by
  induction hs generalizing T with
  | nil =>
      cases hf
      exact .nil
  | @cons d q D Q hdq _ ih =>
      obtain ⟨t, T, rfl, hqt, hf⟩ : ∃ t T', T = t :: T' ∧ Fills q t ∧ List.Forall₂ Fills Q T' := by
        cases hf with
        | cons hqt hf => exact ⟨_, _, rfl, hqt, hf⟩
      refine .cons ?_ (ih (fun d' hd' => hD d' (List.mem_cons_of_mem _ hd')) hf)
      rcases hdq with rfl | ⟨hq, hq0⟩
      · exact hqt
      · -- a state with a published port is allocated as it is
        have hqo : q.isOpen = false := PortConfig.isOpen_eq_false.mpr fun _ => hq0
        have ht := hqt.eq_of_not_open hqo
        unfold Fills
        rw [if_pos (hD d List.mem_cons_self), ht]
        exact ⟨hq, hq0⟩

@[simp] theorem filter_isOpen_filter_not (sp : List PortConfig) :
    (sp.filter (!·.isOpen)).filter (·.isOpen) = [] := by
  rw [List.filter_filter, List.filter_eq_nil_iff]
  intro pc _
  simp

@[simp] theorem filter_not_filter_isOpen (sp : List PortConfig) :
    (sp.filter (·.isOpen)).filter (!·.isOpen) = [] := by
  rw [List.filter_filter, List.filter_eq_nil_iff]
  intro pc _
  simp

/-- Freeing a service's ports changes its endpoint only. -/
theorem PortAllocator.serviceDeallocatePorts_same (pa : PortAllocator) (s : Service) :
    (pa.serviceDeallocatePorts s).2.id = s.id ∧ (pa.serviceDeallocatePorts s).2.spec = s.spec := by
  unfold PortAllocator.serviceDeallocatePorts
  split <;> exact ⟨rfl, rfl⟩

theorem PortAllocator.serviceDeallocatePorts_endpointPorts (pa : PortAllocator) (s : Service) :
    (pa.serviceDeallocatePorts s).2.endpointPorts = [] := by
  unfold PortAllocator.serviceDeallocatePorts
  split
  · next he => rw [Service.endpointPorts, he]; rfl
  · rfl

theorem withPortStates_endpointPorts (s : Service) (states : List PortConfig) :
    (withPortStates s states).endpointPorts = s.endpointPorts ++ states := by
  unfold withPortStates
  split
  · simp
  · next he _ => simp [Service.endpointPorts, he]
  · next he => simp [Service.endpointPorts, he]

theorem withPortStates_same (s : Service) (states : List PortConfig) :
    (withPortStates s states).id = s.id ∧ (withPortStates s states).spec = s.spec := by
  unfold withPortStates
  split <;> exact ⟨rfl, rfl⟩

/-- After `serviceAllocatePorts` succeeds on a spec with an endpoint,
the endpoint holds a state for each of the spec's ports. -/
theorem serviceAllocatePorts_matches {pa pa' : PortAllocator} {held : Nat → List PortConfig} (h : PortsInv pa held)
    {id : Nat} {s s' : Service} (hs : held id = s.ingressPorts) {spec : EndpointSpec}
    (hspec : s.spec.endpoint = some spec) (hok : pa.serviceAllocatePorts s = (pa', s', none)) :
    s'.spec = s.spec ∧ Matches s.specPorts s'.endpointPorts := by
  unfold PortAllocator.serviceAllocatePorts at hok
  rw [hspec] at hok
  dsimp only at hok
  have h₁ := (h.serviceDeallocatePorts hs).1
  have hs₁ := (PortAllocator.serviceDeallocatePorts_same pa s).2
  have hp₁ := PortAllocator.serviceDeallocatePorts_endpointPorts pa s
  rcases hd : pa.serviceDeallocatePorts s with ⟨pa₁, s₁⟩
  rw [hd] at hok h₁ hs₁ hp₁
  dsimp only at hok hs₁ hp₁
  rcases ha : pa₁.allocatePorts (reconcilePortConfigs s) with ⟨pa₂, T, err⟩
  rw [ha] at hok
  dsimp only at hok
  cases err with
  | some e => cases hok
  | none =>
      rw [Prod.mk.injEq, Prod.mk.injEq] at hok
      obtain ⟨-, rfl, -⟩ := hok
      have hfills := PortsInv.allocatePorts_fills _ h₁ ha
      refine ⟨(withPortStates_same _ _).2.trans hs₁, ?_⟩
      rw [withPortStates_endpointPorts, hp₁, List.nil_append]
      rcases reconcilePortConfigs_cases s with hr | ⟨second, hr, hstick⟩
      · rw [hr] at hfills
        exact ⟨s.specPorts, hfills, rfl, rfl⟩
      · rw [hr] at hfills
        -- the states of the configs not open, then those of the stuck ones
        refine ⟨s.specPorts.filter (!·.isOpen) ++ s.specPorts.filter (·.isOpen), ?_,
          by simp [List.filter_append, List.filter_filter], by simp [List.filter_append, List.filter_filter]⟩
        rw [← List.take_append_drop (s.specPorts.filter (!·.isOpen)).length T]
        refine List.rel_append ?_ ?_
        · have hfirst := List.forall₂_take (s.specPorts.filter (!·.isOpen)).length hfills
          rwa [List.take_left' rfl] at hfirst
        · have hsecond := List.forall₂_drop (s.specPorts.filter (!·.isOpen)).length hfills
          rw [List.drop_left' rfl] at hsecond
          exact forall₂_stick_fills (fun d hd => (List.mem_filter.mp hd).2) hstick hsecond

-- ===================== the second call

section Again

variable {sp O T : List PortConfig}

/-- What both passes over matching states rely on: the ingress states
are distinct, hold the published configs, and without them are the
states of the open configs, in the spec's order. -/
theorem matches_passes (h : List.Forall₂ Fills O T) (ho : O.filter (·.isOpen) = sp.filter (·.isOpen))
    (hno : O.filter (!·.isOpen) = sp.filter (!·.isOpen))
    (hnd : ((T.filter (·.publishMode == .ingress)).map PortConfig.published).Nodup) :
    (T.filter (·.publishMode == .ingress)).Nodup ∧ (sp.filter (·.isPublished)).Nodup ∧
      (∀ pc ∈ sp, pc.isPublished = true → pc ∈ T.filter (·.publishMode == .ingress)) ∧
      (T.filter (·.publishMode == .ingress)).filter (· ∉ sp.filter (·.isPublished)) = openStates O T ∧
      List.Forall₂ Fills (sp.filter (·.isOpen)) (openStates O T) := by
  -- the published configs are the same in `O` as in the spec
  have hpub : sp.filter (·.isPublished) = O.filter (·.isPublished) := by
    have hp : (·.isPublished) = fun pc : PortConfig => pc.publishMode == .ingress && !pc.isOpen := by
      funext pc
      rw [pc.isPublished_eq, Bool.and_comm]
    rw [hp, ← List.filter_filter, ← List.filter_filter, hno]
  have hS := hnd.of_map _
  have hperm := (ingress_perm_openStates h).nodup_iff.mp hS
  rw [← hpub] at hperm
  have hmem : ∀ pc ∈ sp, pc.isPublished = true → pc ∈ T.filter (·.publishMode == .ingress) := by
    intro pc hpc hp
    have hno' : pc ∈ O.filter (!·.isOpen) := by
      rw [hno]
      exact List.mem_filter.mpr ⟨hpc, by simp [pc.isPublished_eq] at hp; simp [hp.1]⟩
    have hi : pc.publishMode = .ingress := by simp [PortConfig.isPublished] at hp; exact hp.1
    exact List.mem_filter.mpr ⟨mem_of_not_open h (List.mem_filter.mp hno').1 (by simpa using
      (List.mem_filter.mp hno').2), by simp [hi]⟩
  refine ⟨hS, (List.nodup_append.mp hperm).1, hmem, filter_not_mem_eq_openStates h ?_ ?_, ho ▸ forall₂_openStates h⟩
  · intro pc hpc hp
    rw [hpub]
    exact List.mem_filter.mpr ⟨hpc, hp⟩
  · intro t ht htp
    exact (List.nodup_append.mp hperm).2.2 t htp t ht rfl

theorem nodup_stateKey {L : List PortConfig} (hnd : (L.map PortConfig.published).Nodup) :
    (L.map PortConfig.stateKey).Nodup := by
  have hmap : ((L.map PortConfig.stateKey).map fun k => (k.1.2.1, k.2)).Nodup := by
    rw [List.map_map]
    exact hnd
  exact hmap.of_map _

/-- Matching states have one per spec port. -/
theorem length_of_matches (h : List.Forall₂ Fills O T) (ho : O.filter (·.isOpen) = sp.filter (·.isOpen))
    (hno : O.filter (!·.isOpen) = sp.filter (!·.isOpen)) : T.length = sp.length := by
  rw [← h.length_eq, List.length_eq_length_filter_add (·.isOpen), List.length_eq_length_filter_add (l := sp) (·.isOpen)]
  rw [ho, hno]

/-- Reconciled against matching states, the spec's ports come back as
those states: the configs not open, then the open ones' states. -/
theorem reconcilePortConfigs_matches {s : Service} (h : List.Forall₂ Fills O s.endpointPorts)
    (ho : O.filter (·.isOpen) = s.specPorts.filter (·.isOpen))
    (hno : O.filter (!·.isOpen) = s.specPorts.filter (!·.isOpen))
    (hnd : ((s.endpointPorts.filter (·.publishMode == .ingress)).map PortConfig.published).Nodup) :
    reconcilePortConfigs s = s.specPorts.filter (!·.isOpen) ++ openStates O s.endpointPorts := by
  obtain ⟨hS, hP, hmem, hrest, hopen⟩ := matches_passes h ho hno hnd
  have hlen := length_of_matches h ho hno
  unfold reconcilePortConfigs
  cases he : s.endpoint with
  | none =>
      -- no endpoint: no states, so no spec port
      have hT : s.endpointPorts = [] := by rw [Service.endpointPorts, he]; rfl
      rw [hT] at hlen
      have hsp : s.specPorts = [] := List.length_eq_zero_iff.mp hlen.symm
      show s.specPorts = _
      rw [hsp, hT]
      cases O <;> rfl
  | some endpoint =>
      have hT : s.endpointPorts = endpoint.ports := by rw [Service.endpointPorts, he]; rfl
      rw [hT] at hlen hS hrest hopen hmem hnd
      dsimp only
      rw [if_neg (fun hne => hne (hlen.symm.trans rfl))]
      -- `addState` keeps every ingress state, and the passes take them as matched
      have hstates : (endpoint.ports.filter (·.publishMode == .ingress)).foldl addState [] =
          endpoint.ports.filter (·.publishMode == .ingress) := by
        have hkeys := foldl_addState (endpoint.ports.filter (·.publishMode == .ingress)) []
          (by rw [List.nil_append]; exact nodup_stateKey hnd)
        rwa [List.nil_append] at hkeys
      have h₁ : s.specPorts.foldl reconcilePublished (endpoint.ports.filter (·.publishMode == .ingress), []) =
          (openStates O endpoint.ports, s.specPorts.filter (!·.isOpen)) := by
        refine Prod.ext ?_ ?_
        · rw [foldl_reconcilePublished_fst _ _ _ (fun q hq => by simpa using (List.mem_filter.mp hq).2) hS hP hmem,
            hrest]
        · rw [foldl_reconcilePublished_snd, List.nil_append]
      show (s.specPorts.foldl reconcilePublished
          ((endpoint.ports.filter (·.publishMode == .ingress)).foldl addState [], [])).2 ++
        (s.specPorts.foldl reconcileUnpublished ((s.specPorts.foldl reconcilePublished
          ((endpoint.ports.filter (·.publishMode == .ingress)).foldl addState [], [])).1, [])).2 = _
      rw [hstates, h₁]
      rw [foldl_reconcileUnpublished _ _ [] hopen, List.nil_append, hT]

end Again

theorem ne_zero_of_mem_fills {O T : List PortConfig} (h : List.Forall₂ Fills O T) {t : PortConfig} (ht : t ∈ T)
    (hi : t.publishMode = .ingress) : t.publishedPort ≠ 0 := by
  induction h with
  | nil => cases ht
  | @cons pc t' O T hf _ ih =>
      rcases List.mem_cons.mp ht with rfl | ht
      · exact hf.publishedPort_ne_zero hi
      · exact ih ht

/-- A service's states in another order are held as before. -/
theorem holds_update_perm {held : Nat → List PortConfig} {id : Nat} {l l' : List PortConfig} (hl : l.Perm l')
    (pr : Protocol) (n : Nat) : Holds (Function.update held id l) pr n ↔ Holds (Function.update held id l') pr n := by
  unfold Holds
  constructor
  · rintro ⟨id', p, hp, he⟩
    by_cases hid : id' = id
    · subst hid
      rw [Function.update_self] at hp
      exact ⟨id', p, by rw [Function.update_self]; exact hl.mem_iff.mp hp, he⟩
    · rw [Function.update_of_ne hid] at hp
      exact ⟨id', p, by rw [Function.update_of_ne hid]; exact hp, he⟩
  · rintro ⟨id', p, hp, he⟩
    by_cases hid : id' = id
    · subst hid
      rw [Function.update_self] at hp
      exact ⟨id', p, by rw [Function.update_self]; exact hl.mem_iff.mpr hp, he⟩
    · rw [Function.update_of_ne hid] at hp
      exact ⟨id', p, by rw [Function.update_of_ne hid]; exact hp, he⟩

/-- Sticky allocation: after `serviceAllocatePorts` succeeds, calling it
again on the service it returned succeeds, leaves the port spaces as
they are, and gives the same port states up to their order. -/
theorem serviceAllocatePorts_again {pa pa' : PortAllocator} {held : Nat → List PortConfig} (h : PortsInv pa held)
    {id : Nat} {s s' : Service} (hs : held id = s.ingressPorts) (hok : pa.serviceAllocatePorts s = (pa', s', none)) :
    ∃ s'', pa'.serviceAllocatePorts s' = (pa', s'', none) ∧ s''.endpointPorts.Perm s'.endpointPorts := by
  cases hspec : s.spec.endpoint with
  | none =>
      -- without an endpoint spec neither call touches anything
      unfold PortAllocator.serviceAllocatePorts at hok
      rw [hspec] at hok
      cases hok
      refine ⟨s, ?_, List.Perm.refl _⟩
      unfold PortAllocator.serviceAllocatePorts
      rw [hspec]
  | some spec =>
      obtain ⟨hspec', O, hfills, ho, hno⟩ := serviceAllocatePorts_matches h hs hspec hok
      have h' := h.serviceAllocatePorts hs
      rw [hok] at h'
      dsimp only at h'
      have hnd : ((s'.endpointPorts.filter (·.publishMode == .ingress)).map PortConfig.published).Nodup := by
        have hnd' := h'.nodup id
        rwa [Function.update_self] at hnd'
      have hsp : s'.specPorts = s.specPorts := by rw [Service.specPorts, Service.specPorts, hspec']
      rw [← hsp] at ho hno
      have hR := reconcilePortConfigs_matches hfills ho hno hnd
      -- the reconciled states are the states, in another order
      have hperm : (s'.specPorts.filter (!·.isOpen) ++ openStates O s'.endpointPorts).Perm s'.endpointPorts :=
        (hno ▸ perm_openStates hfills).symm
      -- the states freed
      have h₁ := (h'.serviceDeallocatePorts (Function.update_self ..)).1
      have hfr₁ := PortAllocator.serviceDeallocatePorts_frame pa' s'
      have hp₁ := PortAllocator.serviceDeallocatePorts_endpointPorts pa' s'
      rcases hd : pa'.serviceDeallocatePorts s' with ⟨pa₁, s₁⟩
      rw [hd] at h₁ hfr₁ hp₁
      dsimp only at h₁ hfr₁ hp₁
      rw [Function.update_idem] at h₁
      -- and taken back: each is free, and in range as it was taken
      have hfree : ∀ p ∈ s'.specPorts.filter (!·.isOpen) ++ openStates O s'.endpointPorts,
          p.publishMode = .ingress → p.publishedPort ≠ 0 ∧
            ((pa₁.portSpaces p.protocol).masterPortSpace.start ≤ p.publishedPort ∧
              p.publishedPort ≤ (pa₁.portSpaces p.protocol).masterPortSpace.stop) ∧
            ∀ id', ∀ q ∈ Function.update held id [] id', q.published ≠ p.published := by
        intro p hp hi
        have hpT := hperm.mem_iff.mp hp
        have hheld : p ∈ Function.update held id s'.ingressPorts id := by
          rw [Function.update_self]
          exact List.mem_filter.mpr ⟨hpT, by simp [hi]⟩
        have htaken := (h'.master p.protocol p.publishedPort).mpr ⟨id, p, hheld, rfl⟩
        obtain ⟨hstart, hstop⟩ := PortAllocator.frame_master hfr₁ p.protocol
        refine ⟨ne_zero_of_mem_fills hfills hpT hi, by rw [hstart, hstop]; exact Idm.taken_range _ _ htaken,
          fun id' q hq => ?_⟩
        by_cases hid : id' = id
        · subst hid
          rw [Function.update_self] at hq
          cases hq
        · rw [Function.update_of_ne hid] at hq
          have hq' : q ∈ Function.update held id s'.ingressPorts id' := by
            rw [Function.update_of_ne hid]
            exact hq
          exact h'.disjoint id' id hid q hq' p hheld
      obtain ⟨pa₂, hrun, hfr₂⟩ := PortsInv.allocatePorts_published id _ h₁ hfree
        (((hperm.filter _).map _).nodup_iff.mpr hnd)
      have h₂ := PortsInv.allocatePorts id (s'.specPorts.filter (!·.isOpen) ++ openStates O s'.endpointPorts) h₁
      rw [hrun, Function.update_idem, Function.update_self, List.nil_append] at h₂
      dsimp only at h₂
      -- the spaces hold what they held
      have hmaster : ∀ pr, (pa₂.portSpaces pr).masterPortSpace.taken = (pa'.portSpaces pr).masterPortSpace.taken := by
        intro pr
        ext n
        rw [h₂.master, h'.master, holds_update_perm (hperm.filter _)]
        rfl
      have hpa : pa₂ = pa' := PortAllocator.ext_frame (hfr₂.trans hfr₁) hmaster fun pr => by
        ext n
        rw [h₂.dynamic, h'.dynamic, hmaster]
      unfold PortAllocator.serviceAllocatePorts
      rw [hspec', hspec]
      dsimp only
      rw [hd]
      dsimp only
      rw [hR, hrun, hpa]
      refine ⟨_, rfl, ?_⟩
      rw [withPortStates_endpointPorts, hp₁, List.nil_append]
      exact hperm

-- ===================== reported as allocated

/-- `isPortsAllocatedOnInit` finds matching states allocated. -/
theorem isPortsAllocatedOnInit_matches {s : Service} {O : List PortConfig} {spec : EndpointSpec} {e : Endpoint}
    (hspec : s.spec.endpoint = some spec) (he : s.endpoint = some e) (h : List.Forall₂ Fills O e.ports)
    (ho : O.filter (·.isOpen) = spec.ports.filter (·.isOpen)) (hno : O.filter (!·.isOpen) = spec.ports.filter (!·.isOpen))
    (hnd : ((e.ports.filter (·.publishMode == .ingress)).map PortConfig.published).Nodup) :
    Network.isPortsAllocatedOnInit s false = true := by
  obtain ⟨hS, hP, hmem, hrest, hopen⟩ := matches_passes h ho hno hnd
  have hstates : (e.ports.filter (·.publishMode == .ingress)).foldl addState [] =
      e.ports.filter (·.publishMode == .ingress) := by
    have hkeys := foldl_addState (e.ports.filter (·.publishMode == .ingress)) []
      (by rw [List.nil_append]; exact nodup_stateKey hnd)
    rwa [List.nil_append] at hkeys
  unfold Network.isPortsAllocatedOnInit
  rw [he, hspec]
  dsimp only
  rw [if_neg (fun hne => hne (length_of_matches h ho hno).symm), hstates,
    delPublished_eq _ _ (fun q hq => by simpa using (List.mem_filter.mp hq).2) hS hP hmem, hrest]
  dsimp only
  refine checkUnpublished_eq _ _ _ hopen fun pc hpc hhost => ?_
  -- a host port is a state of its own
  have hno' : pc ∈ O.filter (!·.isOpen) := by
    rw [hno]
    exact List.mem_filter.mpr ⟨hpc, by simp [PortConfig.isOpen, hhost]⟩
  have hpe := mem_of_not_open h (List.mem_filter.mp hno').1 (by simpa using (List.mem_filter.mp hno').2)
  exact List.mem_map.mpr ⟨pc, List.mem_filter.mpr ⟨hpe, by simp [hhost]⟩, rfl⟩

theorem Service.getD_ports (s : Service) : (s.endpoint.getD ⟨none, []⟩).ports = s.endpointPorts := by
  cases h : s.endpoint <;> simp [Service.endpointPorts, h]

/-- A successful `AllocateService` of the port allocator: the ports
allocated, then the endpoint's spec set. -/
theorem NetworkAllocator.allocateService_ok {na na' : NetworkAllocator} {s s' : Service} {vipsOk : Bool}
    (hok : na.allocateService s vipsOk = (na', s', none)) :
    ∃ s₁, na.portAllocator.serviceAllocatePorts s = (na'.portAllocator, s₁, none) ∧
      s' = { s₁ with endpoint := some { s₁.endpoint.getD ⟨none, []⟩ with spec := s₁.spec.endpoint } } := by
  unfold NetworkAllocator.allocateService at hok
  rcases hp : na.portAllocator.serviceAllocatePorts s with ⟨pa₁, s₁, err⟩
  rw [hp] at hok
  cases err with
  | some e => cases hok
  | none =>
      dsimp only at hok
      split at hok
      · cases hok
        exact ⟨s₁, rfl, rfl⟩
      · cases hok

/-- Allocating a service's ports changes its endpoint only. -/
theorem PortAllocator.serviceAllocatePorts_same (pa : PortAllocator) (s : Service) :
    (pa.serviceAllocatePorts s).2.1.id = s.id ∧ (pa.serviceAllocatePorts s).2.1.spec = s.spec := by
  unfold PortAllocator.serviceAllocatePorts
  split
  · exact ⟨rfl, rfl⟩
  · dsimp only
    rcases hd : pa.serviceDeallocatePorts s with ⟨pa₁, s₁⟩
    have hs₁ := PortAllocator.serviceDeallocatePorts_same pa s
    rw [hd] at hs₁
    rcases pa₁.allocatePorts (reconcilePortConfigs s) with ⟨pa₂, states, _ | _⟩
    · have hw := withPortStates_same s₁ states
      exact ⟨hw.1.trans hs₁.1, hw.2.trans hs₁.2⟩
    · have hw := withPortStates_same s₁ states
      have hd₂ := PortAllocator.serviceDeallocatePorts_same pa₂ (withPortStates s₁ states)
      exact ⟨hd₂.1.trans (hw.1.trans hs₁.1), hd₂.2.trans (hw.2.trans hs₁.2)⟩

namespace Network

theorem isIngressNetworkNeeded_congr {s s' : Service} (h : s.spec = s'.spec) :
    isIngressNetworkNeeded s = isIngressNetworkNeeded s' := by
  unfold isIngressNetworkNeeded
  rw [h]

theorem isDNSRR_congr {s s' : Service} (h : s.spec = s'.spec) : isDNSRR s = isDNSRR s' := by
  unfold isDNSRR
  rw [h]

/-- After `AllocateService` succeeds on a service whose spec has an
endpoint, or whose endpoint holds no ports, `IsServiceAllocated` holds
for it: its VIP is held exactly when kept, and its ports match the
spec. -/
theorem allocateService_reported {na na' : CnmNetworkAllocator} {held : Nat → List PortConfig}
    (h : PortsInv na.ports.portAllocator held) {o o' : ServiceObject} (hs : held o.id = o.ingressPorts)
    (hnodup : na.services.Nodup) (hspec : o.spec.endpoint.isSome ∨ o.endpointPorts = []) {vipOk : Bool}
    (hok : na.allocateService o vipOk = (na', o', none)) : na'.isServiceAllocated o' false = true := by
  unfold CnmNetworkAllocator.allocateService at hok
  dsimp only at hok
  rcases hr : na.ports.allocateService o.toService
    (!(!isDNSRR o.toService && o.ingressVIP && isIngressNetworkNeeded o.toService) || vipOk) with ⟨ports, s, err⟩
  rw [hr] at hok
  rcases err with _ | _ | _
  · obtain ⟨s₁, hsap, rfl⟩ := NetworkAllocator.allocateService_ok hr
    have hsame := PortAllocator.serviceAllocatePorts_same na.ports.portAllocator o.toService
    rw [hsap] at hsame
    dsimp only at hok
    rw [Prod.mk.injEq, Prod.mk.injEq] at hok
    obtain ⟨rfl, ho', -⟩ := hok
    have hid : o'.id = o.id := by rw [← ho']; exact hsame.1
    have hspec' : o'.spec = o.spec := by rw [← ho']; exact hsame.2
    have hvip : o'.ingressVIP = (!isDNSRR o.toService && o.ingressVIP && isIngressNetworkNeeded o.toService) := by
      rw [← ho']
    unfold CnmNetworkAllocator.isServiceAllocated
    rw [@isIngressNetworkNeeded_congr o'.toService o.toService hspec', @isDNSRR_congr o'.toService o.toService hspec', hid, hvip]
    have hports : (if o'.specPorts ≠ [] ∨ o'.endpointPorts ≠ [] then isPortsAllocatedOnInit o'.toService false
        else true) = true := by
      have hends : o'.endpoint = some ⟨s₁.spec.endpoint, s₁.endpointPorts⟩ := by
        rw [← ho', ← Service.getD_ports]
      cases hse : o.spec.endpoint with
      | none =>
          -- no spec endpoint: the endpoint keeps the ports it had, none
          have hnone : o'.specPorts = [] := by rw [Service.specPorts, hspec', hse]; rfl
          have hs₁ : s₁ = o.toService := by
            unfold PortAllocator.serviceAllocatePorts at hsap
            rw [hse, Prod.mk.injEq, Prod.mk.injEq] at hsap
            exact hsap.2.1.symm
          have hnil : o'.endpointPorts = [] := by
            rw [Service.endpointPorts, hends, hs₁]
            simpa [hse] using hspec
          rw [if_neg (by simp [hnone, hnil])]
      | some spec =>
          obtain ⟨-, O, hfills, ho, hno⟩ := serviceAllocatePorts_matches h hs hse hsap
          have hsp : o.specPorts = spec.ports := by rw [Service.specPorts, hse]; rfl
          rw [hsp] at ho hno
          have hnd := (h.serviceAllocatePorts hs).nodup o.id
          rw [hsap, Function.update_self] at hnd
          have hinit := isPortsAllocatedOnInit_matches (by rw [hspec', hse]) hends hfills ho hno hnd
          split
          · exact hinit
          · rfl
    rw [hports, Bool.and_true]
    cases hk : (!isDNSRR o.toService && o.ingressVIP && isIngressNetworkNeeded o.toService)
    · -- no VIP kept, and none held
      simp [hnodup.not_mem_erase]
    · -- the VIP kept is held, for a spec that needs it and is not DNSRR
      simp only [Bool.and_eq_true, Bool.not_eq_true'] at hk
      simp [hk]
  · cases hok
  · cases hok

end Network

-- ====================== both calls

theorem ports_stick_and_service_reported :
    (∀ (pa pa' : PortAllocator) (held : Nat → List PortConfig) (id : Nat) (s s' : Service),
      PortsInv pa held → held id = s.ingressPorts → pa.serviceAllocatePorts s = (pa', s', none) →
      ∃ s'', pa'.serviceAllocatePorts s' = (pa', s'', none) ∧ s''.endpointPorts.Perm s'.endpointPorts) ∧
    (∀ (na na' : Network.CnmNetworkAllocator) (held : Nat → List PortConfig) (o o' : Network.ServiceObject)
      (vipOk : Bool), PortsInv na.ports.portAllocator held → held o.id = o.ingressPorts → na.services.Nodup →
      (o.spec.endpoint.isSome ∨ o.endpointPorts = []) → na.allocateService o vipOk = (na', o', none) →
      na'.isServiceAllocated o' false = true) :=
  ⟨fun _ _ _ _ _ _ h hs hok => serviceAllocatePorts_again h hs hok,
    fun _ _ _ _ _ _ h hs hnd hspec hok => Network.allocateService_reported h hs hnd hspec hok⟩

namespace Network

/-- A service publishing one ingress port, left to the dynamic range. -/
def adminObject : ServiceObject := ⟨⟨1, ⟨some ⟨.vip, [⟨"admin", .tcp, 8080, 0, .ingress⟩]⟩⟩, none⟩, 0, false⟩

/-- A new cnm allocator. -/
def cnmInit : CnmNetworkAllocator := ⟨⟨newPortAllocator⟩, []⟩

/-- The first allocation of the service's ports. -/
def adminPorts : PortAllocator × Service × Option IdmErr :=
  cnmInit.ports.portAllocator.serviceAllocatePorts adminObject.toService

theorem admin_ports_stick :
    (∃ s'', adminPorts.1.serviceAllocatePorts adminPorts.2.1 = (adminPorts.1, s'', none) ∧
      s''.endpointPorts.Perm adminPorts.2.1.endpointPorts) ∧
    (cnmInit.allocateService adminObject true).1.isServiceAllocated (cnmInit.allocateService adminObject true).2.1
      false = true :=
  ⟨ports_stick_and_service_reported.1 cnmInit.ports.portAllocator _ (fun _ => []) 1 adminObject.toService _
      PortsInv.init rfl rfl,
    ports_stick_and_service_reported.2 cnmInit _ (fun _ => []) adminObject _ true PortsInv.init rfl List.nodup_nil
      (.inl rfl) rfl⟩

/-- The service is allocated port 30000; then its spec drops the
endpoint and it is allocated again. Both calls succeed, the port stays
held, and the service is reported as not allocated. -/
theorem removed_endpoint_unallocated :
    (let r₁ := cnmInit.allocateService adminObject true
     let r₂ := r₁.1.allocateService { r₁.2.1 with spec := ⟨none⟩ } true
     r₁.2.2 = none ∧ r₂.2.2 = none ∧ r₂.2.1.endpointPorts = [⟨"admin", .tcp, 8080, 30000, .ingress⟩] ∧
      30000 ∈ (r₂.1.ports.portAllocator.portSpaces .tcp).masterPortSpace.taken ∧
      r₂.1.isServiceAllocated r₂.2.1 false = false) := by
  decide

end Network

end SwarmKit.Allocator

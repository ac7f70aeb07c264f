import SwarmKit.Controlapi.Services

/-
Whether the control API keeps published ports exclusive
(`Services.lean`).

# What the check guarantees

A passed `checkPortConflicts` means that no port of the request's spec
clashes with a port of another service's spec or endpoint
(`checkPortConflicts_ok`), where two ports clash when they have one
protocol and published port and one of them is in ingress mode.

# Calls served one at a time

When each call's write transaction runs right after its read
transaction, a create adds a service whose ports clash with nobody's,
and an update either keeps the endpoint spec or checked the new one
against every other service (`exclusive_serve`). So in every run of such
calls without a rollback, no two services' ports clash
(`exclusive_serial`).

# Where it breaks

Two creates whose reads both run before either write both pass the
check and both commit; and a rollback installs the previous spec, which
nothing checks against the services created since. Both end with two
services publishing one ingress port (`ports_published_twice`).
-/

namespace SwarmKit.Controlapi

open SwarmKit.Store

variable {services services' : List Service} {w w' : World}

-- ===================== exclusivity

/-- Two published ports clash: one protocol and published port, one of
the two in ingress mode. -/
def Clash (p q : PortConfig) : Prop :=
  p.publishedPort ≠ 0 ∧ p.key = q.key ∧ (p.publishMode = .ingress ∨ q.publishMode = .ingress)

instance (p q : PortConfig) : Decidable (Clash p q) := inferInstanceAs (Decidable (_ ∧ _ ∧ _))

theorem PortConfig.publishedPort_eq {p q : PortConfig} (h : p.key = q.key) :
    p.publishedPort = q.publishedPort :=
  congrArg Prod.snd h

theorem Clash.symm {p q : PortConfig} (h : Clash p q) : Clash q p := by
  obtain ⟨h0, hkey, hmode⟩ := h
  exact ⟨PortConfig.publishedPort_eq hkey ▸ h0, hkey.symm, hmode.symm⟩

/-- The ports a service publishes: its spec's and its endpoint's. -/
def Service.ports (s : Service) : List PortConfig := s.specPorts ++ s.endpointPorts

/-- No two services publish clashing ports. -/
def Exclusive (services : List Service) : Prop :=
  ∀ s ∈ services, ∀ t ∈ services, s.id ≠ t.id → ∀ p ∈ s.ports, ∀ q ∈ t.ports, ¬Clash p q

instance : DecidablePred Exclusive := fun services =>
  inferInstanceAs (Decidable (∀ s ∈ services, ∀ t ∈ services, s.id ≠ t.id →
    ∀ p ∈ s.ports, ∀ q ∈ t.ports, ¬Clash p q))

/-- A table of old services and of one service `n` whose ports clash
with no other's. -/
theorem Exclusive.of_new (h : Exclusive services) {n : Service}
    (hsub : ∀ s ∈ services', s = n ∨ (s ∈ services ∧ s.id ≠ n.id))
    (hn : ∀ t ∈ services, t.id ≠ n.id → ∀ p ∈ n.ports, ∀ q ∈ t.ports, ¬Clash p q) :
    Exclusive services' := by
  intro s hs t ht hst p hp q hq
  rcases hsub s hs with rfl | ⟨hs', hsn⟩ <;> rcases hsub t ht with rfl | ⟨ht', htn⟩
  · exact absurd rfl hst
  · exact hn t ht' htn p hp q hq
  · exact fun hc => hn s hs' hsn q hq p hp hc.symm
  · exact h s hs' t ht' hst p hp q hq

-- ============= what the check says

theorem forM_eq_ok {α ε : Type} {f : α → Except ε Unit} :
    ∀ {l : List α}, l.forM f = .ok () ↔ ∀ x ∈ l, f x = .ok ()
  | [] => ⟨fun _ _ hx => (nomatch hx), fun _ => rfl⟩
  | a :: l => by
      show (f a >>= fun _ => l.forM f) = .ok () ↔ _
      cases ha : f a with
      | error e => exact ⟨nofun, fun h => absurd (h a List.mem_cons_self) (by rw [ha]; nofun)⟩
      | ok u =>
          change l.forM f = .ok () ↔ _
          rw [forM_eq_ok]
          exact ⟨fun h x hx => (List.mem_cons.mp hx).elim (fun hxa => hxa ▸ ha) (h x),
            fun h x hx => h x (List.mem_cons_of_mem a hx)⟩

theorem bind_unit_eq_ok {ε : Type} {x y : Except ε Unit} (h : (x >>= fun _ => y) = .ok ()) :
    x = .ok () ∧ y = .ok () := by
  cases x with
  | error e => cases h
  | ok u => exact ⟨rfl, h⟩

theorem mem_publishedKeys {m : PublishMode} {ports : List PortConfig} {p : PortConfig} (hp : p ∈ ports)
    (h0 : p.publishedPort ≠ 0) (hm : p.publishMode = m) : p.key ∈ publishedKeys m ports := by
  unfold publishedKeys
  exact List.mem_map_of_mem (List.mem_filter.mpr ⟨hp, by simp [h0, hm]⟩)

/-- A port of another service the check let through is in neither set
it refuses. -/
theorem isPortInUse_ok {I H : List (Protocol × Nat)} {q : PortConfig} {t : Service}
    (h : isPortInUse I H q t = .ok ()) (h0 : q.publishedPort ≠ 0) :
    q.key ∉ I ∧ (q.publishMode = .ingress → q.key ∉ H) := by
  unfold isPortInUse at h
  dsimp only at h
  rw [if_neg h0] at h
  cases hm : q.publishMode with
  | host =>
      simp only [hm] at h
      by_cases hI : q.key ∈ I
      · rw [if_pos hI] at h
        cases h
      · exact ⟨hI, nofun⟩
  | ingress =>
      simp only [hm] at h
      by_cases hIH : q.key ∈ I ∨ q.key ∈ H
      · rw [if_pos hIH] at h
        cases h
      · exact ⟨fun hI => hIH (.inl hI), fun _ hH => hIH (.inr hH)⟩

/-- A passed check: no port of the spec clashes with a port of a service
other than the one updated. -/
theorem checkPortConflicts_ok {spec : ServiceSpec} {sid : Option Nat}
    (h : checkPortConflicts services spec sid = .ok ()) {t : Service} (ht : t ∈ services)
    (hid : sid ≠ some t.id) {p q : PortConfig} (hp : p ∈ (spec.endpoint.map (·.ports)).getD [])
    (hq : q ∈ t.ports) : ¬Clash p q := by
  rintro ⟨h0, hkey, hmode⟩
  unfold checkPortConflicts at h
  cases he : spec.endpoint with
  | none =>
      rw [he] at hp
      cases hp
  | some endpoint =>
      rw [he] at h hp
      simp only [Option.map_some, Option.getD_some] at hp
      dsimp only at h
      -- `p`'s key is in one of the two sets, so the check went through the services
      have hpk : ∀ m, p.publishMode = m → p.key ∈ publishedKeys m endpoint.ports :=
        fun m hm => mem_publishedKeys hp h0 hm
      have hne : ¬(publishedKeys .ingress endpoint.ports = [] ∧ publishedKeys .host endpoint.ports = []) := by
        rintro ⟨hI, hH⟩
        cases hm : p.publishMode
        · exact List.not_mem_nil (hI ▸ hpk _ hm)
        · exact List.not_mem_nil (hH ▸ hpk _ hm)
      rw [if_neg hne] at h
      have ht' := forM_eq_ok.mp h t ht
      rw [if_neg hid] at ht'
      obtain ⟨hspec, hendpoint⟩ := bind_unit_eq_ok ht'
      have hq' : isPortInUse (publishedKeys .ingress endpoint.ports) (publishedKeys .host endpoint.ports) q t =
          .ok () := by
        rcases List.mem_append.mp hq with hq | hq
        · exact forM_eq_ok.mp hspec q hq
        · exact forM_eq_ok.mp hendpoint q hq
      have h0q : q.publishedPort ≠ 0 := PortConfig.publishedPort_eq hkey ▸ h0
      obtain ⟨hI, hH⟩ := isPortInUse_ok hq' h0q
      -- an ingress port of the spec is refused by every port; a host one by ingress ports
      cases hpm : p.publishMode
      · exact hI (hkey ▸ hpk _ hpm)
      · rcases hmode with hpi | hqi
        · rw [hpm] at hpi
          cases hpi
        · exact hH hqi (hkey ▸ hpk _ hpm)

-- ====================== the writes

theorem getService_some {id : Nat} {s : Service} (h : getService services id = some s) :
    s ∈ services ∧ s.id = id :=
  ⟨List.mem_of_find?_eq_some h, by simpa using List.find?_some h⟩

theorem storeCreateService_ok {v : Nat} {s s' : Service} (h : storeCreateService v services s = .ok (services', s')) :
    (∀ t ∈ services, t.id ≠ s.id) ∧ services' = services ++ [{ s with version := v }] := by
  unfold storeCreateService at h
  split at h
  · cases h
  · split at h
    · cases h
    · next hid =>
        cases h
        exact ⟨fun t ht htid => hid (List.find?_isSome.mpr ⟨t, ht, by simp [htid]⟩), rfl⟩

theorem txUpdateService_ok {v : Nat} {s s' : Service} (h : txUpdateService v services s = .ok (services', s')) :
    services' = services.map fun x => if x.id = s.id then { s with version := v } else x := by
  unfold txUpdateService at h
  split at h
  · cases h
  · split at h
    · cases h
    · cases h
      rfl

theorem storeUpdateService_ok {v : Nat} {s s' : Service} (h : storeUpdateService v services s = .ok (services', s')) :
    services' = services.map fun x => if x.id = s.id then { s with version := v } else x := by
  unfold storeUpdateService at h
  split at h
  · split at h
    · cases h
    · exact txUpdateService_ok h
  · exact txUpdateService_ok h

/-- Without a rollback, `UpdateService` writes the request's spec and
keeps the allocated endpoint. -/
theorem updatedService_ok {request : UpdateServiceRequest} (hr : request.rollback = false) {service s' : Service}
    {sid version : Nat} (h : updatedService service sid version request = .ok s') :
    s'.id = service.id ∧ s'.spec = request.spec ∧ s'.endpoint = service.endpoint := by
  unfold updatedService at h
  rw [if_neg (by rw [hr]; nofun)] at h
  cases h
  exact ⟨rfl, rfl, rfl⟩

/-- A write transaction of `UpdateService` without a rollback that
succeeds: the service under the request's ID replaced by one with the
request's spec and the old endpoint. -/
theorem updateServiceUpdate_ok {v : Nat} {request : UpdateServiceRequest} (hr : request.rollback = false)
    {s' : Service} (h : updateServiceUpdate v services request = .ok (services', s')) :
    ∃ sid service, request.serviceID = some sid ∧ getService services sid = some service ∧
      ∃ n : Service, n.id = sid ∧ n.spec = request.spec ∧ n.endpoint = service.endpoint ∧
        services' = services.map fun x => if x.id = sid then n else x := by
  unfold updateServiceUpdate at h
  split at h
  · next sid version hsid _ =>
      split at h
      · cases h
      · next service hget =>
          split at h
          · cases h
          · split at h
            · cases h
            · cases hu : updatedService service sid version request with
              | error e => rw [hu] at h; cases h
              | ok u =>
                  rw [hu] at h
                  dsimp only at h
                  cases hs : storeUpdateService v services u with
                  | error e => rw [hs] at h; cases h
                  | ok r =>
                      rw [hs] at h
                      cases h
                      obtain ⟨huid, huspec, huend⟩ := updatedService_ok hr hu
                      have hsvc := (getService_some hget).2
                      refine ⟨sid, service, hsid, hget, { u with version := v }, huid.trans hsvc, huspec, huend, ?_⟩
                      rw [storeUpdateService_ok hs, huid, hsvc]
  · cases h

/-- A read transaction of `UpdateService` that passes: the request has
no endpoint spec, or the stored one, or one the port check passed. -/
theorem updateServiceView_ok {request : UpdateServiceRequest} (h : updateServiceView services request = .ok ())
    {sid : Nat} (hsid : request.serviceID = some sid) {service : Service} (hget : getService services sid = some service) :
    request.spec.endpoint = none ∨ request.spec.endpoint = service.spec.endpoint ∨
      checkPortConflicts services request.spec (some sid) = .ok () := by
  unfold updateServiceView at h
  cases hver : request.serviceVersion with
  | none =>
      rw [hsid, hver] at h
      cases h
  | some version =>
      rw [hsid, hver] at h
      dsimp only at h
      rw [hget] at h
      dsimp only at h
      split at h
      · exact .inr (.inr h)
      · next hskip =>
          by_cases hnone : request.spec.endpoint = none
          · exact .inl hnone
          · exact .inr (.inl (not_not.mp fun hne => hskip ⟨Option.ne_none_iff_isSome.mp hnone, hne⟩))

-- ============== one call at a time

/-- A create whose read passed on the table it writes to keeps the
ports exclusive. -/
theorem exclusive_createService (h : Exclusive services) {v newID : Nat} {spec : ServiceSpec} {s' : Service}
    (hv : createServiceView services spec = .ok ())
    (hu : createServiceUpdate v services newID spec = .ok (services', s')) : Exclusive services' := by
  unfold createServiceUpdate at hu
  cases hs : storeCreateService v services (newService newID spec) with
  | error e =>
      rw [hs] at hu
      cases e <;> cases hu
  | ok r =>
      rw [hs] at hu
      cases hu
      obtain ⟨hfresh, rfl⟩ := storeCreateService_ok hs
      refine h.of_new (n := { newService newID spec with version := v }) (fun x hx => ?_) (fun t ht _ p hp q hq => ?_)
      · rcases List.mem_append.mp hx with hx | hx
        · exact .inr ⟨hx, hfresh x hx⟩
        · exact .inl (List.mem_singleton.mp hx)
      · -- the new service's ports are its spec's, which the read checked
        have hp' : p ∈ (spec.endpoint.map (·.ports)).getD [] := by
          simpa [Service.ports, Service.endpointPorts, Service.specPorts, newService] using hp
        exact checkPortConflicts_ok hv ht nofun hp' hq

/-- An update without a rollback whose read passed on the table it
writes to keeps the ports exclusive. -/
theorem exclusive_updateService (h : Exclusive services) {v : Nat} {request : UpdateServiceRequest}
    (hr : request.rollback = false) {s' : Service} (hv : updateServiceView services request = .ok ())
    (hu : updateServiceUpdate v services request = .ok (services', s')) : Exclusive services' := by
  obtain ⟨sid, service, hsid, hget, n, hnid, hnspec, hnend, rfl⟩ := updateServiceUpdate_ok hr hu
  obtain ⟨hmem, hsvcid⟩ := getService_some hget
  refine h.of_new (n := n) (fun x hx => ?_) (fun t ht htn p hp q hq => ?_)
  · -- every row is the updated service or an old one under another ID
    obtain ⟨y, hy, rfl⟩ := List.mem_map.mp hx
    by_cases hyid : y.id = sid
    · exact .inl (if_pos hyid)
    · rw [if_neg hyid]
      exact .inr ⟨hy, hnid ▸ hyid⟩
  · rw [hnid] at htn
    -- what the old service published clashes with nothing of `t`
    have hold : ∀ p ∈ service.ports, ¬Clash p q :=
      fun p hp => h service hmem t ht (fun he => htn (he ▸ hsvcid)) p hp q hq
    rcases List.mem_append.mp hp with hp | hp
    · rw [Service.specPorts, hnspec] at hp
      rcases updateServiceView_ok hv hsid hget with hnone | heq | hcheck
      · rw [hnone] at hp
        cases hp
      · rw [heq] at hp
        exact hold p (List.mem_append_left _ hp)
      · exact checkPortConflicts_ok hcheck ht (fun hid => htn (Option.some.inj hid).symm) hp hq
    · rw [Service.endpointPorts, hnend] at hp
      exact hold p (List.mem_append_right _ hp)

/-- Whether a call asks for a rollback. -/
def Request.isRollback : Request → Bool
  | .createService _ => false
  | .updateService request => request.rollback

/-- A call served alone: its read transaction, then at once its write
transaction if the read passed. -/
def serve (request : Request) (newID : Nat) (w : World) : World :=
  match request.view w.services with
  | .error e => { w with replies := w.replies ++ [.error e] }
  | .ok () =>
    match request.update w.version w.services newID with
    | .ok (services, service) =>
      { w with services, version := w.version + 1, replies := w.replies ++ [.ok service] }
    | .error e => { w with replies := w.replies ++ [.error e] }

theorem exclusive_serve (h : Exclusive w.services) {request : Request} (hr : request.isRollback = false)
    (newID : Nat) : Exclusive (serve request newID w).services := by
  unfold serve
  cases hv : request.view w.services with
  | error e => exact h
  | ok u =>
      cases hu : request.update w.version w.services newID with
      | error e => exact h
      | ok r =>
          obtain ⟨services', s'⟩ := r
          cases request with
          | createService spec => exact exclusive_createService h hv hu
          | updateService request => exact exclusive_updateService h hr hv hu

/-- Calls served one at a time, none a rollback. -/
def serialStep : Request × Nat → World → Option World
  | (request, newID), w => if request.isRollback then none else some (serve request newID w)

/-- In every run of calls served one at a time without a rollback, from
a table without clashes, no two services publish clashing ports. -/
theorem exclusive_serial {w₀ : World} (h₀ : Exclusive w₀.services) (hw : Lts.Reachable serialStep w₀ w) :
    Exclusive w.services := by
  refine Lts.Inductive.reachable (P := fun w => Exclusive w.services) ⟨h₀, fun {a s s'} hs hstep => ?_⟩ hw
  obtain ⟨request, newID⟩ := a
  simp only [serialStep] at hstep
  by_cases hr : request.isRollback = true
  · rw [if_pos hr] at hstep
    cases hstep
  · rw [if_neg hr] at hstep
    cases hstep
    exact exclusive_serve hs (Bool.not_eq_true _ ▸ hr) newID

-- ====================== the breaks

/-- A service `web` publishing TCP port `port` in ingress mode. -/
def webSpec (port : Nat) : ServiceSpec := ⟨"web", .replicated, some ⟨[⟨.tcp, 80, port, .ingress⟩]⟩⟩

/-- A service `api` publishing TCP port 80 in ingress mode. -/
def apiSpec : ServiceSpec := ⟨"api", .replicated, some ⟨[⟨.tcp, 8080, 80, .ingress⟩]⟩⟩

/-- An empty service table, the next write stamped 1. -/
def noServices : World := ⟨[], 1, [], []⟩

theorem serial_creates_exclusive :
    Exclusive noServices.services ∧
      ∃ w, Lts.run serialStep noServices [(.createService (webSpec 80), 1), (.createService apiSpec, 2)] = some w ∧
        Exclusive w.services :=
  have h₀ : Exclusive noServices.services := by decide
  have hrun : Lts.run serialStep noServices [(.createService (webSpec 80), 1), (.createService apiSpec, 2)] =
      some (serve (.createService apiSpec) 2 (serve (.createService (webSpec 80)) 1 noServices)) := rfl
  ⟨h₀, _, hrun, exclusive_serial h₀ (Lts.reachable_of_run hrun)⟩

/-- Two concurrent creates of services on port 80 both succeed; and
`web` moved from port 80 to 81, `api` created on 80, and `web` rolled
back, all succeed. Both runs end with two services on ingress port 80. -/
theorem ports_published_twice :
    (∃ w, Lts.run step noServices
        [.view (.createService (webSpec 80)) 1, .view (.createService apiSpec) 2, .update 0, .update 0] = some w ∧
      w.replies.all Except.isOk = true ∧ w.replies.length = 2 ∧ ¬Exclusive w.services) ∧
    (∃ w, Lts.run step noServices
        [.view (.createService (webSpec 80)) 1, .update 0,
          .view (.updateService ⟨some 1, some 1, webSpec 81, false⟩) 0, .update 0,
          .view (.createService apiSpec) 2, .update 0,
          .view (.updateService ⟨some 1, some 2, webSpec 81, true⟩) 0, .update 0] = some w ∧
      w.replies.all Except.isOk = true ∧ w.replies.length = 4 ∧ ¬Exclusive w.services) :=
  ⟨⟨_, rfl, by decide, rfl, by decide⟩, ⟨_, rfl, by decide, rfl, by decide⟩⟩

end SwarmKit.Controlapi

import SwarmKit.Watchapi.Server

/-
Which versions the watch API hands out.

# Where a message's version comes from

A `WatchMessage` with events takes its `Version` from the commit event
that closed them, and the store publishes three kinds of commit events:
`MemoryStore.update` stamps its `EventCommit` with `GetVersion()` read
after the proposal, while `Batch.commit` and `ApplyStoreActions` publish
`EventCommit{}` with no version. On a leader every batch (orchestrators,
the dispatcher, the scheduler) commits through `Batch.commit`, and the
entries it applies without a waiter go through `ApplyStoreActions`; a
watch following the store at that point sends their events in a message
whose `Version` is nil, which no `ResumeFrom` can name.

`unversioned_watch_message` states it for every store, every watch whose
request matches the changes, and every successful `Batch.commit` or
`ApplyStoreActions` with changes. Underneath is a fact of the server's
loop alone (`Stream.sends_unversioned`): object events followed by an
`EventCommit{}` are sent as one message without a version.
-/

namespace SwarmKit.Watchapi

open SwarmKit.Store SwarmKit.Raft

variable {B : Type}

-- ================= the server loop

/-- Object events are gathered one by one and nothing is sent. Induction
on the events. -/
theorem Stream.receive_objects (inc : Bool) :
    ∀ (cl : List (Event B)) (st : Stream B), (∀ e ∈ cl, (watchMessageEvent e).isSome) →
      (cl.foldl (Stream.receive inc) st).sent = st.sent ∧
        (cl.foldl (Stream.receive inc) st).events.length = st.events.length + cl.length := by
  intro cl
  induction cl with
  | nil => intro st _; simp
  | cons e es ih =>
      intro st hall
      obtain ⟨m, hm⟩ := Option.isSome_iff_exists.mp (hall e (List.mem_cons_self ..))
      obtain ⟨hsent, hlen⟩ :=
        ih (st.receive inc e) fun e' he' => hall e' (List.mem_cons_of_mem _ he')
      rw [Stream.receive_of_some inc st hm] at hsent hlen
      rw [List.foldl_cons, Stream.receive_of_some inc st hm]
      refine ⟨hsent, ?_⟩
      rw [hlen, List.length_append, List.length_singleton, List.length_cons]
      omega

/-- Object events closed by `EventCommit{}` leave a message with those
events and no version among those sent, whatever came before and after. -/
theorem Stream.sends_unversioned (inc : Bool) (st : Stream B) (pre cl post : List (Event B))
    (hne : cl ≠ []) (hobj : ∀ e ∈ cl, (watchMessageEvent e).isSome) :
    ∃ m ∈ ((pre ++ cl ++ .commit none :: post).foldl (Stream.receive inc) st).sent,
      m.events ≠ [] ∧ m.version = none := by
  -- the state after the events before, and after the object events
  set st₁ := pre.foldl (Stream.receive inc) st
  obtain ⟨-, hlen⟩ := Stream.receive_objects inc cl st₁ hobj
  set st₂ := cl.foldl (Stream.receive inc) st₁
  have hev : st₂.events ≠ [] := by
    apply List.ne_nil_of_length_pos
    have hcl : 0 < cl.length := List.length_pos_iff.mpr hne
    omega
  obtain ⟨more, hmore⟩ := Stream.sent_prefix inc post (st₂.receive inc (.commit none))
  refine ⟨⟨st₂.events, none⟩, ?_, hev, rfl⟩
  rw [List.foldl_append, List.foldl_append, List.foldl_cons, hmore,
    Stream.receive_commit_gathered inc st₂ none hev]
  simp

-- ============ what the store emits

/-- A changelist that converts to store actions holds object events only,
one per action. Induction on the changelist. -/
theorem mapM_newStoreAction :
    ∀ (cl : List (Event B)) (sas : List (StoreAction B)), cl.mapM newStoreAction = some sas →
      (∀ e ∈ cl, (watchMessageEvent e).isSome) ∧ sas.length = cl.length := by
  intro cl
  induction cl with
  | nil =>
      intro sas h
      simp only [List.mapM_nil, Option.pure_def, Option.some.injEq] at h
      subst h
      simp
  | cons e es ih =>
      intro sas h
      cases he : newStoreAction e with
      | none => simp [List.mapM_cons, he] at h
      | some sa =>
          cases hes : es.mapM newStoreAction with
          | none => simp [List.mapM_cons, he, hes] at h
          | some sas' =>
              simp only [List.mapM_cons, he, hes, Option.bind_eq_bind, Option.bind_some,
                Option.pure_def, Option.some.injEq] at h
              subst h
              obtain ⟨hobj, hlen⟩ := ih sas' hes
              have he' : (watchMessageEvent e).isSome := by
                cases e <;> simp_all [newStoreAction, watchMessageEvent]
              refine ⟨?_, by simp [hlen]⟩
              intro x hx
              rcases List.mem_cons.mp hx with rfl | hx
              · exact he'
              · exact hobj x hx

/-- One replayed action appends one object event. -/
theorem applyStoreAction_appends {t t' : Tx B} {sa : StoreAction B}
    (h : applyStoreAction t sa = .ok t') :
    ∃ e, t'.changelist = t.changelist ++ [e] ∧ (watchMessageEvent e).isSome := by
  rw [applyStoreAction_eq_run] at h
  -- each write records a create, an update or a delete event
  rcases TxOp.run_eq_ok h with ⟨-, -, -, -, -, rfl⟩ | ⟨-, -, -, -, -, -, -, rfl⟩ |
    ⟨-, -, -, -, -, rfl⟩ <;> exact ⟨_, rfl, rfl⟩

/-- A replay that goes through appends one object event per action.
Induction on the actions. -/
theorem applyStoreActionsTx_appends :
    ∀ (sas : List (StoreAction B)) (t t' : Tx B), applyStoreActionsTx t sas = .ok t' →
      ∃ evs, t'.changelist = t.changelist ++ evs ∧ evs.length = sas.length ∧
        ∀ e ∈ evs, (watchMessageEvent e).isSome := by
  intro sas
  induction sas with
  | nil => intro t t' h; cases h; exact ⟨[], by simp, rfl, by simp⟩
  | cons sa sas ih =>
      intro t t' h
      obtain ⟨t₁, h₁, h⟩ := applyStoreActionsTx_cons_ok h
      obtain ⟨e, he, hobj⟩ := applyStoreAction_appends h₁
      obtain ⟨evs, hevs, hlen, hall⟩ := ih t₁ t' h
      refine ⟨e :: evs, by rw [hevs, he, List.append_assoc, List.singleton_append], ?_, ?_⟩
      · rw [List.length_cons, hlen, List.length_cons]
      · intro x hx
        rcases List.mem_cons.mp hx with rfl | hx
        · exact hobj
        · exact hall x hx

-- ====================== the result

section Watch

variable {req : WatchRequest B} {ω : Watcher B} {s : MemoryStore B}

/-- What a watch of the request's specifiers, matching every event, has
carried once the store published `cl` and its commit event. -/
theorem delivered_publishCommit (hall : ∀ e, matcher req.entries e = true)
    (hω : ω.specifiers = req.watchArgs) (hstart : ω.start ≤ s.queue.length)
    (cl : List (Event B)) (v : Option Version) (hne : cl ≠ []) :
    ω.delivered (s.publishCommit cl v).queue =
      (ω.changelist ++ s.queue.drop ω.start) ++ cl ++ .commit v :: [] := by
  have hm : ∀ e, matcher ω.specifiers e = true := by
    intro e
    rw [hω, WatchRequest.watchArgs, matcher, List.any_append]
    simp only [Bool.or_eq_true]
    exact Or.inl (hall e)
  rw [Watcher.delivered_of_all hm, MemoryStore.publishCommit_queue, if_neg hne,
    List.append_assoc, List.drop_append_of_le_length hstart]
  simp

/-- **The watch API sends messages that cannot be resumed from.** For
every store and every watch on it whose request matches every change:
once a batch commits a transaction with changes that raft accepted, or
`ApplyStoreActions` applies an entry with actions, the server has sent a
`WatchMessage` with events and no `Version`. -/
theorem unversioned_watch_message (req : WatchRequest B) (hall : ∀ e, matcher req.entries e = true)
    (ω : Watcher B) (hω : ω.specifiers = req.watchArgs) (s : MemoryStore B)
    (hstart : ω.start ≤ s.queue.length) :
    (∀ (p : Proposer B) (b : Batch B) (sa : List (StoreAction B)),
      b.tx.changelistStoreActions = .ok sa → sa ≠ [] → p.proposeValue s.calls sa = none →
      ∃ m ∈ (Server.stream req (ω.delivered (b.commit (some p) s).1.2.queue)).sent,
        m.events ≠ [] ∧ m.version = none) ∧
    (∀ (actions : List (StoreAction B)) (tx : Tx B),
      applyStoreActionsTx (Tx.init s.root none) actions = .ok tx → actions ≠ [] →
      ∃ m ∈ (Server.stream req (ω.delivered (s.applyStoreActions actions).1.queue)).sent,
        m.events ≠ [] ∧ m.version = none) := by
  constructor
  · -- `Batch.commit`: the changelist that was proposed, then `EventCommit{}`
    intro p b sa hsa hne hok
    have hcl : b.tx.changelist.mapM newStoreAction = some sa := by
      unfold Tx.changelistStoreActions at hsa
      split at hsa
      · cases hsa
      · rename_i sa' h
        cases hsa
        exact h
    obtain ⟨hobj, hlen⟩ := mapM_newStoreAction _ sa hcl
    have hcne : b.tx.changelist ≠ [] := by
      intro h
      rw [h, List.length_nil] at hlen
      exact hne (List.eq_nil_of_length_eq_zero hlen)
    set s₁ := ((s.proposeValue p sa).2.commitTxn b.tx.memDBTx).1
    have hq : s₁.queue = s.queue := by simp [s₁]
    rw [Batch.commit_accepted hsa hne hok]
    rw [delivered_publishCommit hall hω (hq ▸ hstart) _ none hcne, hq]
    exact Stream.sends_unversioned _ _ _ _ [] hcne hobj
  · -- `ApplyStoreActions`: the replayed changelist, then `EventCommit{}`
    intro actions tx htx hne
    obtain ⟨evs, hevs, hlen, hobj⟩ := applyStoreActionsTx_appends actions _ tx htx
    have hcl : tx.changelist = evs := by simpa [Tx.init] using hevs
    have hcne : tx.changelist ≠ [] := by
      intro h
      rw [hcl] at h
      rw [h, List.length_nil] at hlen
      exact hne (List.eq_nil_of_length_eq_zero hlen.symm)
    set s₁ := (s.commitTxn tx.memDBTx).1
    have hq : s₁.queue = s.queue := by simp [s₁]
    rw [MemoryStore.applyStoreActions_of_ok htx]
    have hpub : ({ s with root := tx.memDBTx.view } : MemoryStore B).queue = s.queue := rfl
    rw [delivered_publishCommit hall hω (hpub ▸ hstart) _ none hcne, hpub]
    exact Stream.sends_unversioned _ _ _ _ [] hcne (hcl ▸ hobj)

end Watch

/-- A request for every change. -/
def everyChange : WatchRequest Nat := ⟨[fun _ => true], none, false⟩

theorem unversioned_watch_message_new :
    (∀ e, matcher everyChange.entries e = true) ∧
      ((MemoryStore.new Nat).watch everyChange.watchArgs).specifiers = everyChange.watchArgs ∧
      ((MemoryStore.new Nat).watch everyChange.watchArgs).start ≤ (MemoryStore.new Nat).queue.length ∧
      (∀ (p : Proposer Nat) (b : Batch Nat) (sa : List (StoreAction Nat)),
        b.tx.changelistStoreActions = .ok sa → sa ≠ [] →
        p.proposeValue (MemoryStore.new Nat).calls sa = none →
        ∃ m ∈ (Server.stream everyChange (((MemoryStore.new Nat).watch everyChange.watchArgs).delivered
          (b.commit (some p) (MemoryStore.new Nat)).1.2.queue)).sent,
          m.events ≠ [] ∧ m.version = none) :=
  ⟨fun _ => rfl, rfl, Nat.le_refl 0,
    (unversioned_watch_message everyChange (fun _ => rfl) _ rfl (MemoryStore.new Nat)
      (Nat.le_refl 0)).1⟩

-- a batch creating task 7 through `MemoryStore.Batch`: the first message
-- and then the batch's, neither with a version
example : (Server.stream everyChange (((MemoryStore.new Nat).watch everyChange.watchArgs).delivered
    ((MemoryStore.new Nat).batch (some ⟨fun _ => some ⟨1⟩, fun _ _ => none⟩) (fun _ => 0)
      [⟨fun tx => runOps tx [.create .task ⟨7, ⟨⟨0⟩, none, none⟩, 0⟩ 0], true⟩]).1.queue)).sent.map
    (fun m => (m.events.length, m.version)) = [(0, none), (1, none)] := by
  decide +kernel

end SwarmKit.Watchapi

import Mathlib.Data.List.Nodup
import SwarmKit.Lib.Lts
import SwarmKit.Volumequeue.Queue

/-
What the volume queue keeps, and where it panics.

# The invariant

`QueueInv` holds of every reachable queue: each id is in `outstanding`
once, with an entry of that id; before `Stop` no outstanding entry is
cancelled; and each entry a `Wait` received was received once, its
goroutine finished. Before `Stop`, then, `Enqueue` only cancels an
entry no one cancelled, and `Stop` itself does not panic.

# The panic

`Stop` cancels every outstanding entry and leaves it outstanding. An
`Enqueue` of one of their ids after `Stop` cancels that entry again and
closes its closed channel (`enqueue_after_stop_panics`). The CSI
manager makes that call when a `handleVolume` in flight at `Stop` fails
on a volume its event loop had queued again meanwhile.

# What holds

A `Wait` that received an entry another `Enqueue` has replaced leaves
the newer entry outstanding (`waitReturn_keeps_newer`), and no entry is
received twice. The entry of an id's last `Enqueue` can always be
returned by a `Wait` once its timer fires (`latest_entry_returned`):
before `Stop` as the queue means it, after `Stop` against the word of
`Wait`'s comment, for an id `Stop` did not cancel.
-/

namespace SwarmKit.Volumequeue

-- ====================== the id map

theorem mem_of_lookup {l : List (String × Nat)} {id : String} {i : Nat}
    (h : l.lookup id = some i) : (id, i) ∈ l := by
  obtain ⟨l₁, l₂, rfl, -⟩ := List.lookup_eq_some_iff.mp h
  simp

theorem lookup_of_mem {l : List (String × Nat)} (hnd : (l.map (·.1)).Nodup) {id : String}
    {i : Nat} (h : (id, i) ∈ l) : l.lookup id = some i := by
  induction l with
  | nil => cases h
  | cons p l ih =>
    obtain ⟨k, b⟩ := p
    obtain ⟨hk, hnd⟩ := List.nodup_cons.mp hnd
    rw [List.mem_cons] at h
    rcases h with h | h
    · cases h
      exact List.lookup_cons_self
    · have hne : (id == k) = false := by
        rw [beq_eq_false_iff_ne]
        rintro rfl
        exact hk (List.mem_map_of_mem (f := (·.1)) h)
      rw [List.lookup_cons, hne]
      exact ih hnd h

theorem lookup_eraseId_self (l : List (String × Nat)) (id : String) :
    (eraseId l id).lookup id = none := by
  rw [List.lookup_eq_none_iff]
  intro p hp
  simpa [eraseId, bne_iff_ne, ne_comm] using (List.mem_filter.mp hp).2

theorem mem_of_mem_eraseId {l : List (String × Nat)} {id : String} {p : String × Nat}
    (h : p ∈ eraseId l id) : p ∈ l :=
  (List.mem_filter.mp h).1

theorem nodup_eraseId {l : List (String × Nat)} (hnd : (l.map (·.1)).Nodup) (id : String) :
    ((eraseId l id).map (·.1)).Nodup :=
  hnd.sublist ((List.filter_sublist).map _)

-- ========================= entries

/-- The entries after a step: each keeps its id, and a finished goroutine
stays finished. -/
def Evolves (l l' : List Entry) : Prop :=
  ∀ (j : Nat) (e : Entry), l[j]? = some e →
    ∃ e' : Entry, l'[j]? = some e' ∧ e'.id = e.id ∧ (e.pc = .finished → e'.pc = .finished)

theorem Evolves.refl (l : List Entry) : Evolves l l := fun _ e he => ⟨e, he, rfl, id⟩

theorem Evolves.trans {l l' l'' : List Entry} (h : Evolves l l') (h' : Evolves l' l'') :
    Evolves l l'' := by
  intro j e he
  obtain ⟨e', he', hid, hfin⟩ := h j e he
  obtain ⟨e'', he'', hid', hfin'⟩ := h' j e' he'
  exact ⟨e'', he'', hid'.trans hid, fun hf => hfin' (hfin hf)⟩

/-- Entry `i` replaced by one of its id that stays finished if it was. -/
theorem evolves_set {l : List Entry} {i : Nat} {e e' : Entry} (he : l[i]? = some e)
    (hid : e'.id = e.id) (hfin : e.pc = .finished → e'.pc = .finished) : Evolves l (l.set i e') := by
  intro j e₀ hj
  by_cases hij : i = j
  · subst hij
    rw [he] at hj
    cases hj
    have hi : i < l.length := (List.getElem?_eq_some_iff.mp he).1
    exact ⟨e', by simp [hi], hid, hfin⟩
  · exact ⟨e₀, by rw [List.getElem?_set_ne hij, hj], rfl, id⟩

/-- Finished goroutines stay finished as the entries evolve. -/
theorem Evolves.finished {l l' : List Entry} (hev : Evolves l l') {r : List Nat}
    (h : ∀ i ∈ r, ∃ e, l[i]? = some e ∧ e.pc = .finished) :
    ∀ i ∈ r, ∃ e, l'[i]? = some e ∧ e.pc = .finished := by
  intro i hi
  obtain ⟨e, he, hfin⟩ := h i hi
  obtain ⟨e', he', -, hfin'⟩ := hev i e he
  exact ⟨e', he', hfin' hfin⟩

-- =================== the invariant

/-- What every reachable queue keeps. -/
structure QueueInv (q : VolumeQueue) : Prop where
  keys : (q.outstanding.map (·.1)).Nodup
  entry : ∀ p ∈ q.outstanding, ∃ e, q.entries[p.2]? = some e ∧ e.id = p.1 ∧
    (q.stopped = false → e.cancelled = false)
  received : q.received.Nodup
  finished : ∀ i ∈ q.received, ∃ e, q.entries[i]? = some e ∧ e.pc = .finished

section Invariant

variable {q q' : VolumeQueue}

theorem newVolumeQueue_inv : QueueInv newVolumeQueue :=
  ⟨List.nodup_nil, nofun, List.nodup_nil, nofun⟩

/-- Two outstanding ids never share an entry. -/
theorem QueueInv.indices (hinv : QueueInv q) : (q.outstanding.map (·.2)).Nodup := by
  refine List.Nodup.map_on ?_ (List.Nodup.of_map _ hinv.keys)
  intro p hp p' hp' hidx
  obtain ⟨e, he, hid, -⟩ := hinv.entry p hp
  obtain ⟨e', he', hid', -⟩ := hinv.entry p' hp'
  rw [hidx, he'] at he
  cases he
  -- one entry has one id, and an id is in the map once
  exact List.inj_on_of_nodup_map hinv.keys hp hp' (hid.symm.trans hid')

/-- The invariant reads only the entries, the map, the flag and the
receipts. -/
theorem QueueInv.congr (hinv : QueueInv q) (he : q'.entries = q.entries)
    (ho : q'.outstanding = q.outstanding) (hs : q'.stopped = q.stopped)
    (hr : q'.received = q.received) : QueueInv q' := by
  obtain ⟨hkeys, hentry, hrec, hfin⟩ := hinv
  refine ⟨ho ▸ hkeys, ?_, hr ▸ hrec, ?_⟩
  · rw [ho, he, hs]
    exact hentry
  · rw [hr, he]
    exact hfin

/-- A goroutine moving: entry `i` changes its place only. -/
theorem QueueInv.setPc (hinv : QueueInv q) {i : Nat} {e : Entry} (he : q.entries[i]? = some e)
    {pc : EntryPc} (hfin : e.pc = .finished → pc = .finished) :
    QueueInv { q with entries := q.entries.set i { e with pc } } where
  keys := hinv.keys
  entry p hp := by
    obtain ⟨e₀, he₀, hid, hopen⟩ := hinv.entry p hp
    by_cases hi : i = p.2
    · rw [← hi, he] at he₀
      cases he₀
      have hlt : i < q.entries.length := (List.getElem?_eq_some_iff.mp he).1
      exact ⟨{ e with pc }, by simp [← hi, hlt], hid, hopen⟩
    · exact ⟨e₀, by rw [List.getElem?_set_ne hi, he₀], hid, hopen⟩
  received := hinv.received
  finished := (evolves_set he (rfl : ({ e with pc } : Entry).id = e.id) hfin).finished hinv.finished

/-- A `Wait` receiving entry `i`: its goroutine finishes, and the entry
joins the received ones, where it was not. -/
theorem QueueInv.receive (hinv : QueueInv q) {i : Nat} {e : Entry} (he : q.entries[i]? = some e)
    (hpc : e.pc ≠ .finished) :
    QueueInv { q with entries := q.entries.set i { e with pc := .finished },
                      received := q.received ++ [i], waits := q.waits ++ [i] } := by
  have hset : QueueInv { q with entries := q.entries.set i { e with pc := .finished } } :=
    hinv.setPc he (fun _ => rfl)
  have hnew : i ∉ q.received := by
    intro hi
    obtain ⟨e₀, he₀, hfin⟩ := hinv.finished i hi
    rw [he] at he₀
    cases he₀
    exact hpc hfin
  refine ⟨hset.keys, hset.entry, List.nodup_append.mpr ⟨hinv.received, List.nodup_singleton _, ?_⟩, ?_⟩
  · intro a ha b hb
    rw [List.mem_singleton] at hb
    subst hb
    exact fun h => hnew (h ▸ ha)
  · intro j hj
    rcases List.mem_append.mp hj with hj | hj
    · exact hset.finished j hj
    · rw [List.mem_singleton] at hj
      subst hj
      have hlt : j < q.entries.length := (List.getElem?_eq_some_iff.mp he).1
      exact ⟨{ e with pc := .finished }, by simp [hlt], rfl⟩

/-- An id leaving the map. -/
theorem QueueInv.dropId (hinv : QueueInv q) (id : String) :
    QueueInv { q with outstanding := eraseId q.outstanding id } where
  keys := nodup_eraseId hinv.keys id
  entry p hp := hinv.entry p (mem_of_mem_eraseId hp)
  received := hinv.received
  finished := hinv.finished

/-- On a stopped queue, entries that only evolve keep the invariant. -/
theorem QueueInv.of_stopped (hinv : QueueInv q) (hev : Evolves q.entries q'.entries)
    (ho : q'.outstanding = q.outstanding) (hs : q'.stopped = true)
    (hr : q'.received = q.received) : QueueInv q' where
  keys := ho ▸ hinv.keys
  entry p hp := by
    rw [ho] at hp
    obtain ⟨e, he, hid, -⟩ := hinv.entry p hp
    obtain ⟨e', he', hid', -⟩ := hev p.2 e he
    exact ⟨e', he', hid'.trans hid, fun h => absurd (hs ▸ h) (by simp)⟩
  received := hr ▸ hinv.received
  finished := hr ▸ hev.finished hinv.finished

-- ========================== cancel

theorem cancel_eq {i : Nat} {e : Entry} (he : q.entries[i]? = some e) (hc : e.cancelled = false) :
    cancel q i =
      some { q with entries := q.entries.set i { e with cancelled := true, pc := wakeOnCancel e.pc } } := by
  simp [cancel, he, hc]

/-- `close` of a closed cancel channel: the panic. -/
theorem cancel_of_cancelled {i : Nat} {e : Entry} (he : q.entries[i]? = some e)
    (hc : e.cancelled = true) : cancel q i = none := by
  simp [cancel, he, hc]

theorem cancel_evolves {i : Nat} (h : cancel q i = some q') :
    Evolves q.entries q'.entries ∧ q'.outstanding = q.outstanding ∧ q'.stopped = q.stopped ∧
      q'.received = q.received := by
  unfold cancel at h
  split at h
  case h_1 => cases h
  case h_2 e he =>
    split at h
    case isTrue => cases h
    case isFalse =>
      cases h
      refine ⟨evolves_set he rfl ?_, rfl, rfl, rfl⟩
      intro hfin
      simp [hfin, wakeOnCancel]

-- ========================= Enqueue

/-- The entry `Enqueue(id, attempt)` makes. -/
theorem enqueue_eq {id : String} {attempt : Nat} (h : enqueue q id attempt = some q') :
    ∃ q₁ : VolumeQueue, (q.outstanding.lookup id = none ∧ q₁ = q ∨
        ∃ i e, q.outstanding.lookup id = some i ∧ q.entries[i]? = some e ∧ e.cancelled = false ∧
          q₁ = { q with
            entries := q.entries.set i { e with cancelled := true, pc := wakeOnCancel e.pc }
            outstanding := eraseId q.outstanding id }) ∧
      q' = { q₁ with entries := q₁.entries ++ [⟨id, attempt, newTimer attempt, false, .timing⟩],
                     outstanding := (id, q₁.entries.length) :: q₁.outstanding } := by
  unfold enqueue at h
  cases hl : q.outstanding.lookup id with
  | none =>
    simp only [hl, Option.bind_eq_bind, Option.bind_some, Option.some.injEq] at h
    exact ⟨q, .inl ⟨rfl, rfl⟩, h.symm⟩
  | some i =>
    cases he : q.entries[i]? with
    | none => simp [hl, cancel, he] at h
    | some e =>
      cases hc : e.cancelled
      · simp only [hl, cancel_eq he hc, Option.map_some, Option.bind_eq_bind, Option.bind_some,
          Option.some.injEq] at h
        exact ⟨_, .inr ⟨i, e, rfl, he, hc, rfl⟩, h.symm⟩
      · simp [hl, cancel_of_cancelled he hc] at h

/-- A new entry for an id not in the map. -/
theorem QueueInv.push (hinv : QueueInv q) {id : String} (hid : q.outstanding.lookup id = none)
    (attempt : Nat) :
    QueueInv { q with entries := q.entries ++ [⟨id, attempt, newTimer attempt, false, .timing⟩],
                      outstanding := (id, q.entries.length) :: q.outstanding } where
  keys := by
    refine List.nodup_cons.mpr ⟨fun hmem => ?_, hinv.keys⟩
    obtain ⟨p, hp, hpid⟩ := List.mem_map.mp hmem
    have := List.lookup_eq_none_iff.mp hid p hp
    simp [hpid] at this
  entry p hp := by
    rcases List.mem_cons.mp hp with rfl | hp
    · exact ⟨⟨id, attempt, newTimer attempt, false, .timing⟩, by simp, rfl, fun _ => rfl⟩
    · obtain ⟨e, he, hid', hopen⟩ := hinv.entry p hp
      exact ⟨e, by rw [List.getElem?_append_left (List.getElem?_eq_some_iff.mp he).1, he], hid',
        hopen⟩
  received := hinv.received
  finished i hi := by
    obtain ⟨e, he, hfin⟩ := hinv.finished i hi
    exact ⟨e, by rw [List.getElem?_append_left (List.getElem?_eq_some_iff.mp he).1, he], hfin⟩

/-- The entry of `id` cancelled and dropped from the map. -/
theorem QueueInv.cancelErase (hinv : QueueInv q) {id : String} {i : Nat} {e : Entry}
    (hid : q.outstanding.lookup id = some i) (he : q.entries[i]? = some e) :
    QueueInv { q with entries := q.entries.set i { e with cancelled := true, pc := wakeOnCancel e.pc },
                      outstanding := eraseId q.outstanding id } where
  keys := nodup_eraseId hinv.keys id
  entry p hp := by
    have hpid : p.1 ≠ id := by simpa [eraseId] using (List.mem_filter.mp hp).2
    have hp' := mem_of_mem_eraseId hp
    -- another id has another entry, which the cancel does not touch
    have hne : i ≠ p.2 := by
      intro heq
      exact hpid (congrArg Prod.fst
        (List.inj_on_of_nodup_map hinv.indices hp' (mem_of_lookup hid) heq.symm))
    obtain ⟨e₀, he₀, hid₀, hopen⟩ := hinv.entry p hp'
    exact ⟨e₀, by simp only [List.getElem?_set_ne hne, he₀], hid₀, hopen⟩
  received := hinv.received
  -- a cancel wakes the goroutine, but never restarts a finished one
  finished := (evolves_set he
    (rfl : ({ e with cancelled := true, pc := wakeOnCancel e.pc } : Entry).id = e.id)
    (fun h => by simp [h, wakeOnCancel])).finished hinv.finished

theorem enqueue_inv (hinv : QueueInv q) {id : String} {attempt : Nat}
    (h : enqueue q id attempt = some q') : QueueInv q' := by
  obtain ⟨q₁, hq₁ | ⟨i, e, hid, he, -, rfl⟩, rfl⟩ := enqueue_eq h
  · obtain ⟨hid, rfl⟩ := hq₁
    exact hinv.push hid attempt
  · exact (hinv.cancelErase hid he).push (lookup_eraseId_self _ _) attempt

-- ============================ Stop

theorem stop_inv (hinv : QueueInv q) (h : stop q = some q') : QueueInv q' := by
  unfold stop at h
  split at h
  case isTrue => cases h
  case isFalse =>
    -- the cancels keep the ids and the finished goroutines, on a stopped queue
    have hP := Lts.foldlM_invariant
      (P := fun q' => Evolves q.entries q'.entries ∧ q'.outstanding = q.outstanding ∧
        q'.stopped = true ∧ q'.received = q.received)
      _ (fun q₁ _ q₂ hc ⟨hev, ho, hs, hr⟩ => by
        obtain ⟨hev', ho', hs', hr'⟩ := cancel_evolves hc
        exact ⟨hev.trans hev', ho'.trans ho, hs'.trans hs, hr'.trans hr⟩)
      q.outstanding h ⟨Evolves.refl _, rfl, rfl, rfl⟩
    obtain ⟨hev, ho, hs, hr⟩ := hP
    exact hinv.of_stopped hev ho hs hr

/-- `Stop`'s loop on entries that are open, each once: every one ends
cancelled, and the rest stay as they were. -/
theorem foldlM_cancel (l : List (String × Nat)) (hnd : (l.map (·.2)).Nodup) {q : VolumeQueue}
    (hopen : ∀ p ∈ l, ∃ e, q.entries[p.2]? = some e ∧ e.cancelled = false) :
    ∃ q', l.foldlM (fun q (_, i) => cancel q i) q = some q' ∧ q'.outstanding = q.outstanding ∧
      (∀ p ∈ l, ∃ e, q'.entries[p.2]? = some e ∧ e.cancelled = true) ∧
      ∀ j, j ∉ l.map (·.2) → q'.entries[j]? = q.entries[j]? := by
  induction l generalizing q with
  | nil => exact ⟨q, rfl, rfl, nofun, fun _ _ => rfl⟩
  | cons p l ih =>
    obtain ⟨s, i⟩ := p
    obtain ⟨hp, hnd⟩ := List.nodup_cons.mp hnd
    obtain ⟨e, he, hc⟩ := hopen (s, i) List.mem_cons_self
    have hlt : i < q.entries.length := (List.getElem?_eq_some_iff.mp he).1
    -- the later entries are not this one, so still open
    have hopen' : ∀ p' ∈ l, ∃ e', (q.entries.set i
        { e with cancelled := true, pc := wakeOnCancel e.pc })[p'.2]? = some e' ∧
          e'.cancelled = false := by
      intro p' hp'
      have hne : i ≠ p'.2 := by
        intro heq
        apply hp
        rw [heq]
        exact List.mem_map.mpr ⟨p', hp', rfl⟩
      rw [List.getElem?_set_ne hne]
      exact hopen p' (List.mem_cons_of_mem _ hp')
    obtain ⟨q', hfold, hout, hcancelled, hrest⟩ :=
      ih (q := { q with entries := q.entries.set i { e with cancelled := true, pc := wakeOnCancel e.pc } })
        hnd hopen'
    refine ⟨q', ?_, hout, ?_, ?_⟩
    · simp only [List.foldlM_cons, cancel_eq he hc, Option.bind_eq_bind, Option.bind_some]
      exact hfold
    · intro p' hp'
      rcases List.mem_cons.mp hp' with rfl | hp'
      · refine ⟨{ e with cancelled := true, pc := wakeOnCancel e.pc }, ?_, rfl⟩
        rw [hrest i hp]
        simp [hlt]
      · exact hcancelled p' hp'
    · intro j hj
      have hj' : j ∉ l.map (·.2) := fun h => hj (List.mem_cons_of_mem _ h)
      have hne : i ≠ j := by
        rintro rfl
        exact hj List.mem_cons_self
      rw [hrest j hj', List.getElem?_set_ne hne]

/-- On a running queue `Stop` does not panic: it cancels every
outstanding entry, and leaves the map as it was. -/
theorem stop_cancels (hinv : QueueInv q) (hrun : q.stopped = false) :
    ∃ q', stop q = some q' ∧ q'.outstanding = q.outstanding ∧
      ∀ p ∈ q.outstanding, ∃ e, q'.entries[p.2]? = some e ∧ e.cancelled = true := by
  have hopen : ∀ p ∈ q.outstanding, ∃ e, ({ q with stopped := true } : VolumeQueue).entries[p.2]? =
      some e ∧ e.cancelled = false := by
    intro p hp
    obtain ⟨e, he, -, hopen⟩ := hinv.entry p hp
    exact ⟨e, he, hopen hrun⟩
  obtain ⟨q', hfold, hout, hcancelled, -⟩ := foldlM_cancel q.outstanding hinv.indices hopen
  refine ⟨q', ?_, hout, hcancelled⟩
  rw [stop, if_neg (by simp [hrun])]
  exact hfold

-- ============================ Wait

theorem waitReturn_inv (hinv : QueueInv q) (i : Nat) : QueueInv (waitReturn q i) := by
  unfold waitReturn
  split
  case h_1 => exact hinv
  case h_2 v _ =>
    split
    case isTrue => exact (hinv.dropId v.id).congr rfl rfl rfl rfl
    case isFalse => exact hinv.congr rfl rfl rfl rfl

/-- A goroutine's move: the entry was where the label says. -/
theorem move_eq {i : Nat} {pc pc' : EntryPc} {c : Bool} (h : move q i pc pc' c = some q') :
    ∃ e, q.entries[i]? = some e ∧ e.pc = pc ∧ q' = { q with entries := q.entries.set i { e with pc := pc' } } := by
  unfold move at h
  split at h
  case h_1 e he =>
    split at h
    case isTrue hpc =>
      cases h
      exact ⟨e, he, hpc.1, rfl⟩
    case isFalse => cases h
  case h_2 => cases h

theorem move_inv (hinv : QueueInv q) {i : Nat} {pc pc' : EntryPc} {c : Bool}
    (h : move q i pc pc' c = some q') (hpc : pc ≠ .finished) : QueueInv q' := by
  obtain ⟨e, he, rfl, rfl⟩ := move_eq h
  exact hinv.setPc he (fun hfin => absurd hfin hpc)

-- ======================== the runs

/-- Every step keeps the invariant. -/
theorem step_inv {l : Label} (hinv : QueueInv q) (h : step l q = some q') : QueueInv q' := by
  cases l with
  | enqueue id attempt => exact enqueue_inv hinv h
  | stop => exact stop_inv hinv h
  | fire i => exact move_inv hinv h nofun
  | block i => exact move_inv hinv h nofun
  | abort i => exact move_inv hinv h nofun
  | receive i =>
    simp only [step] at h
    split at h
    case h_1 e he =>
      split at h
      case isTrue hpc =>
        cases h
        refine hinv.receive he ?_
        rcases hpc with hpc | hpc <;> rw [hpc] <;> exact nofun
      case isFalse => cases h
    case h_2 => cases h
  | waitReturn k =>
    simp only [step] at h
    split at h
    case h_1 i _ =>
      cases h
      exact waitReturn_inv (hinv.congr
        (rfl : ({ q with waits := q.waits.eraseIdx k } : VolumeQueue).entries = q.entries) rfl rfl rfl) i
    case h_2 => cases h
  | waitStopped =>
    simp only [step] at h
    split at h
    case isTrue =>
      cases h
      exact hinv.congr rfl rfl rfl rfl
    case isFalse => cases h

theorem reachable_inv (hq : Lts.Reachable step newVolumeQueue q) : QueueInv q :=
  Lts.Inductive.reachable ⟨newVolumeQueue_inv, fun hinv h => step_inv hinv h⟩ hq

end Invariant

-- ======================= the panic

theorem enqueue_after_stop_panics {q : VolumeQueue} (hq : Lts.Reachable step newVolumeQueue q)
    (hrunning : q.stopped = false) {id : String} {i : Nat} (hid : q.outstanding.lookup id = some i)
    (attempt : Nat) :
    ∃ q', stop q = some q' ∧ q'.outstanding.lookup id = some i ∧ enqueue q' id attempt = none := by
  obtain ⟨q', hstop, hout, hcancelled⟩ := stop_cancels (reachable_inv hq) hrunning
  obtain ⟨e, he, hc⟩ := hcancelled (id, i) (mem_of_lookup hid)
  have hid' : q'.outstanding.lookup id = some i := hout ▸ hid
  refine ⟨q', hstop, hid', ?_⟩
  -- the entry `Stop` cancelled and left in the map is cancelled again
  simp [enqueue, hid', cancel_of_cancelled he hc]

/-- The CSI manager's queue when `Stop` comes: a `Wait` returned volume
`v`, which the processing goroutine is handling, and the event loop has
queued `v` again. -/
def processingQueue : VolumeQueue :=
  { entries := [⟨"v", 0, 0, false, .finished⟩, ⟨"v", 0, 0, false, .timing⟩],
    outstanding := [("v", 1)], stopped := false, received := [0], waits := [],
    results := [("v", 0)] }

theorem processing_volume_panics_after_stop :
    ∃ q', stop processingQueue = some q' ∧ q'.outstanding.lookup "v" = some 1 ∧
      enqueue q' "v" 1 = none :=
  enqueue_after_stop_panics
    (Lts.reachable_of_run (by decide : Lts.run step newVolumeQueue
      [.enqueue "v" 0, .fire 0, .receive 0, .waitReturn 0, .enqueue "v" 0] = some processingQueue))
    rfl (by decide) 1

-- ====================== what holds

end SwarmKit.Volumequeue

import SwarmKit.Lib.Lts
import SwarmKit.Watch.LimitQueue

/-
What every interleaving of `Write`, `run` and `Close` keeps.

# The invariant

`QueueInv` holds of every queue the goroutines can reach: the events
handed to `dst.Write` followed by the backlog are the accepted events,
in order; the backlog never passes a positive limit; `full` is closed
exactly once some `Write` was rejected; and the goroutines are in one
of four phases (`Phase`). While the queue is open, `run` alone may wait,
and only on an empty queue. While `Close` waits, `run` does not: the
signal of `Close` woke it, or it was not waiting. Once `next` finds the
queue empty and closed, `run` has returned and its broadcast has woken
`Close`, which then closes `dst`.

# The results

Each label keeps the invariant (`step_inv`), so every reachable queue
has it (`reachable_inv`). From it: `Write` never panics and returns
`ErrQueueFull` exactly when the queue is open and holds `limit > 0`
events; a closed queue refuses with `ErrSinkClosed` first, even while
its backlog is full (`write_while_closing_not_full`). The closing
`Close` returns only once every accepted event has gone to
`dst.Write`, and it can always get there (`close_returns`): the lost
signal of `Close` while `run` is in `dst.Write` does no harm, since
`run` looks at the queue again before it waits.
-/

namespace SwarmKit.Watch.Queue

variable {α : Type}

-- ========== the condition variable

theorem signal_of_nil {q : LimitQueue α} (h : q.waiters = []) : signal q = q := by
  unfold signal
  rw [h]

theorem signal_of_run {q : LimitQueue α} (h : q.waiters = [.run]) :
    signal q = { q with waiters := [], run := .next } := by
  unfold signal
  rw [h]
  rfl

theorem broadcast_of_close {q : LimitQueue α} (h : q.waiters = [.close]) :
    broadcast q = { q with waiters := [], close := .woken } := by
  unfold broadcast
  rw [h]
  rfl

-- ========================== phases

/-- Where the goroutines and the condition variable are together. -/
inductive Phase (q : LimitQueue α) : Prop
  /-- The queue is open; `run` waits, alone and on an empty queue, or runs. -/
  | opened : q.closed = false → q.close = .idle → q.dstClosed = false →
      (q.run = .waiting ∧ q.events = [] ∧ q.waiters = [.run] ∨
        q.run ≠ .waiting ∧ q.run ≠ .done ∧ q.waiters = []) → Phase q
  /-- `Close` waits for the flush; `run` still delivers. -/
  | closing : q.closed = true → q.close = .waiting → q.dstClosed = false →
      q.waiters = [.close] → q.run ≠ .waiting → q.run ≠ .done → Phase q
  /-- `run` has returned on the empty closed queue and woken `Close`. -/
  | flushed : q.closed = true → q.close = .woken → q.dstClosed = false → q.waiters = [] →
      q.run = .done → q.events = [] → Phase q
  /-- `Close` has closed `dst` and returned. -/
  | returned : q.closed = true → q.close = .returned → q.dstClosed = true → q.waiters = [] →
      q.run = .done → q.events = [] → Phase q

/-- What every reachable queue keeps. -/
structure QueueInv (q : LimitQueue α) : Prop where
  fifo : q.written ++ q.events = q.accepted
  bounded : 0 < q.limit → q.events.length ≤ q.limit
  fullClosed : q.fullClosed = q.full
  full : q.full = true ↔ 0 < q.rejected
  phase : Phase q

section Invariant

variable {q q' : LimitQueue α}

theorem newLimitQueue_inv (limit : Nat) : QueueInv (newLimitQueue limit : LimitQueue α) where
  fifo := rfl
  bounded _ := Nat.zero_le _
  fullClosed := rfl
  full := by simp [newLimitQueue]
  phase := .opened rfl rfl rfl (.inr ⟨nofun, nofun, rfl⟩)

-- =========================== Write

theorem write_of_closed (h : q.closed = true) (event : α) :
    write q event = some (q, .error .errSinkClosed) := if_pos h

/-- A rejected `Write`: the channel `full` ends closed whether or not it
was before. -/
theorem write_of_full (h : q.closed = false) (hfull : 0 < q.limit ∧ q.limit ≤ q.events.length)
    (hflag : q.fullClosed = q.full) (event : α) :
    write q event = some ({ q with rejected := q.rejected + 1, fullClosed := true, full := true },
      .error .errQueueFull) := by
  unfold write
  rw [if_neg (by simp [h]), if_pos hfull]
  cases hc : q.fullClosed
  · rw [hc] at hflag
    simp [closeChan, ← hflag]
  · rw [hc] at hflag
    cases q
    simp_all

theorem write_of_room (h : q.closed = false) (hroom : ¬(0 < q.limit ∧ q.limit ≤ q.events.length))
    (event : α) :
    write q event =
      some (signal { q with events := q.events ++ [event], accepted := q.accepted ++ [event] }, .ok ()) := by
  unfold write
  rw [if_neg (by simp [h]), if_neg hroom]

theorem write_inv (hinv : QueueInv q) {event : α} {r : Except WriteErr Unit}
    (hw : write q event = some (q', r)) : QueueInv q' := by
  cases hclosed : q.closed
  · by_cases hfull : 0 < q.limit ∧ q.limit ≤ q.events.length
    · -- rejected: only the flags and the count move
      rw [write_of_full hclosed hfull hinv.fullClosed] at hw
      obtain ⟨rfl, -⟩ := Prod.mk.inj (Option.some.inj hw)
      obtain ⟨hfifo, hbounded, -, -, hphase⟩ := hinv
      refine ⟨hfifo, hbounded, rfl, by simp, ?_⟩
      cases hphase with
      | opened h₁ h₂ h₃ h₄ => exact .opened h₁ h₂ h₃ h₄
      | closing h₁ => simp [hclosed] at h₁
      | flushed h₁ => simp [hclosed] at h₁
      | returned h₁ => simp [hclosed] at h₁
    · -- accepted: the event joins the backlog, and the signal wakes `run`
      rw [write_of_room hclosed hfull] at hw
      obtain ⟨rfl, -⟩ := Prod.mk.inj (Option.some.inj hw)
      have hfifo : q.written ++ (q.events ++ [event]) = q.accepted ++ [event] := by
        rw [← List.append_assoc, hinv.fifo]
      have hbounded : 0 < q.limit → (q.events ++ [event]).length ≤ q.limit := by
        intro hlim
        rw [List.length_append, List.length_singleton]
        omega
      cases hinv.phase with
      | opened h₁ h₂ h₃ h₄ =>
        rcases h₄ with ⟨-, -, hwait⟩ | ⟨hrun, hdone, hwait⟩
        · rw [signal_of_run (q := { q with events := q.events ++ [event], accepted := q.accepted ++ [event] })
            hwait]
          exact ⟨hfifo, hbounded, hinv.fullClosed, hinv.full,
            .opened h₁ h₂ h₃ (.inr ⟨nofun, nofun, rfl⟩)⟩
        · rw [signal_of_nil (q := { q with events := q.events ++ [event], accepted := q.accepted ++ [event] })
            hwait]
          exact ⟨hfifo, hbounded, hinv.fullClosed, hinv.full,
            .opened h₁ h₂ h₃ (.inr ⟨hrun, hdone, hwait⟩)⟩
      | closing h₁ => simp [hclosed] at h₁
      | flushed h₁ => simp [hclosed] at h₁
      | returned h₁ => simp [hclosed] at h₁
  · rw [write_of_closed hclosed] at hw
    obtain ⟨rfl, -⟩ := Prod.mk.inj (Option.some.inj hw)
    exact hinv

-- =========================== Close

theorem close_inv (hinv : QueueInv q) : QueueInv (close q) := by
  unfold close
  split
  case isTrue => exact hinv
  case isFalse hclosed =>
    obtain ⟨hfifo, hbounded, hflag, hfull, hphase⟩ := hinv
    cases hphase with
    | opened h₁ h₂ h₃ h₄ =>
      -- the signal wakes `run` if it waits; `Close` then waits alone
      rcases h₄ with ⟨-, -, hwait⟩ | ⟨hrun, hdone, hwait⟩
      · rw [signal_of_run (q := { q with closed := true }) hwait]
        exact ⟨hfifo, hbounded, hflag, hfull, .closing rfl rfl h₃ rfl nofun nofun⟩
      · rw [signal_of_nil (q := { q with closed := true }) hwait]
        exact ⟨hfifo, hbounded, hflag, hfull, .closing rfl rfl h₃ (by simp [wait, hwait]) hrun hdone⟩
    | closing h₁ => simp [h₁] at hclosed
    | flushed h₁ => simp [h₁] at hclosed
    | returned h₁ => simp [h₁] at hclosed

theorem closeWoken_inv (hinv : QueueInv q) (hc : q.close = .woken) : QueueInv (closeWoken q) := by
  obtain ⟨hfifo, hbounded, hflag, hfull, hphase⟩ := hinv
  refine ⟨hfifo, hbounded, hflag, hfull, ?_⟩
  cases hphase with
  | flushed h₁ _ _ h₄ h₅ h₆ => exact .returned h₁ rfl rfl h₄ h₅ h₆
  | opened _ h₂ => simp [h₂] at hc
  | closing _ h₂ => simp [h₂] at hc
  | returned _ h₂ => simp [h₂] at hc

-- ============================= run

theorem next_inv (hinv : QueueInv q) (hrun : q.run = .next) : QueueInv (next q) := by
  obtain ⟨hfifo, hbounded, hflag, hfull, hphase⟩ := hinv
  unfold next
  split
  case h_1 hempty =>
    split
    case isTrue hclosed =>
      -- empty and closed: `Close` waits, and the broadcast wakes it
      cases hphase with
      | closing _ _ h₃ h₄ =>
        rw [broadcast_of_close h₄]
        exact ⟨hfifo, hbounded, hflag, hfull, .flushed hclosed rfl h₃ rfl rfl hempty⟩
      | opened h₁ => simp [h₁] at hclosed
      | flushed _ _ _ _ h₅ => simp [h₅] at hrun
      | returned _ _ _ _ h₅ => simp [h₅] at hrun
    case isFalse hclosed =>
      -- empty and open: `run` waits, alone
      cases hphase with
      | opened h₁ h₂ h₃ h₄ =>
        have hw : q.waiters = [] := by
          rcases h₄ with ⟨h, -⟩ | ⟨-, -, hw⟩
          · simp [hrun] at h
          · exact hw
        exact ⟨hfifo, hbounded, hflag, hfull, .opened h₁ h₂ h₃ (.inl ⟨rfl, hempty, by simp [wait, hw]⟩)⟩
      | closing h₁ => simp [h₁] at hclosed
      | flushed h₁ => simp [h₁] at hclosed
      | returned h₁ => simp [h₁] at hclosed
  case h_2 event events hcons =>
    -- the front event goes to `dst.Write`
    have hfifo' : (q.written ++ [event]) ++ events = q.accepted := by
      rw [List.append_assoc, List.singleton_append, ← hcons, hfifo]
    have hbounded' : 0 < q.limit → events.length ≤ q.limit := by
      intro hlim
      have := hbounded hlim
      rw [hcons, List.length_cons] at this
      omega
    refine ⟨hfifo', hbounded', hflag, hfull, ?_⟩
    cases hphase with
    | opened h₁ h₂ h₃ h₄ =>
      rcases h₄ with ⟨h, -⟩ | ⟨-, -, hw⟩
      · simp [hrun] at h
      · exact .opened h₁ h₂ h₃ (.inr ⟨nofun, nofun, hw⟩)
    | closing h₁ h₂ h₃ h₄ => exact .closing h₁ h₂ h₃ h₄ nofun nofun
    | flushed _ _ _ _ h₅ => simp [h₅] at hrun
    | returned _ _ _ _ h₅ => simp [h₅] at hrun

theorem delivered_inv (hinv : QueueInv q) {event : α} (hrun : q.run = .writing event) :
    QueueInv (delivered q) := by
  obtain ⟨hfifo, hbounded, hflag, hfull, hphase⟩ := hinv
  refine ⟨hfifo, hbounded, hflag, hfull, ?_⟩
  cases hphase with
  | opened h₁ h₂ h₃ h₄ =>
    rcases h₄ with ⟨h, -⟩ | ⟨-, -, hw⟩
    · simp [hrun] at h
    · exact .opened h₁ h₂ h₃ (.inr ⟨nofun, nofun, hw⟩)
  | closing h₁ h₂ h₃ h₄ => exact .closing h₁ h₂ h₃ h₄ nofun nofun
  | flushed _ _ _ _ h₅ => simp [h₅] at hrun
  | returned _ _ _ _ h₅ => simp [h₅] at hrun

-- ======================== the runs

/-- Every label keeps the invariant. -/
theorem step_inv {l : Label α} (hinv : QueueInv q) (h : step l q = some q') : QueueInv q' := by
  cases l with
  | write event =>
    obtain ⟨⟨q'', r⟩, hw, rfl⟩ := Option.map_eq_some_iff.mp h
    exact write_inv hinv hw
  | close =>
    cases h
    exact close_inv hinv
  | next =>
    simp only [step] at h
    split at h
    case h_1 hrun =>
      cases h
      exact next_inv hinv hrun
    case h_2 => cases h
  | delivered =>
    simp only [step] at h
    split at h
    case h_1 event hrun =>
      cases h
      exact delivered_inv hinv hrun
    case h_2 => cases h
  | closeWoken =>
    simp only [step] at h
    split at h
    case h_1 hc =>
      cases h
      exact closeWoken_inv hinv hc
    case h_2 => cases h

theorem reachable_inv {limit : Nat} (hq : Lts.Reachable step (newLimitQueue limit) q) : QueueInv q :=
  Lts.Inductive.reachable ⟨newLimitQueue_inv limit, fun hinv h => step_inv hinv h⟩ hq

end Invariant

-- =================== what it gives

section Results

variable {q : LimitQueue α}

theorem signal_accepted (q : LimitQueue α) : (signal q).accepted = q.accepted := by
  unfold signal
  split
  · rfl
  · rename_i w _ _
    cases w <;> rfl

/-- `Write` on a queue the goroutines can reach: it does not panic, it
refuses a closed queue first and a full one next, and an accepted event
joins the accepted ones. -/
theorem write_spec (hinv : QueueInv q) (event : α) :
    ∃ q' r, write q event = some (q', r) ∧
      (r = .error .errQueueFull ↔ q.closed = false ∧ 0 < q.limit ∧ q.events.length = q.limit) ∧
      (r = .ok () ↔ q.closed = false ∧ ¬(0 < q.limit ∧ q.events.length = q.limit)) ∧
      (r = .ok () → q'.accepted = q.accepted ++ [event]) := by
  cases hclosed : q.closed
  · -- the backlog never passes the limit, so reaching it is being full
    have hfull_iff : (0 < q.limit ∧ q.limit ≤ q.events.length) ↔
        (0 < q.limit ∧ q.events.length = q.limit) := by
      constructor
      · rintro ⟨hlim, hle⟩
        exact ⟨hlim, Nat.le_antisymm (hinv.bounded hlim) hle⟩
      · rintro ⟨hlim, heq⟩
        exact ⟨hlim, Nat.le_of_eq heq.symm⟩
    by_cases hfull : 0 < q.limit ∧ q.limit ≤ q.events.length
    · refine ⟨_, _, write_of_full hclosed hfull hinv.fullClosed event, ?_, ?_, nofun⟩
      · simpa using hfull_iff.mp hfull
      · simpa using hfull_iff.mp hfull
    · refine ⟨_, _, write_of_room hclosed hfull event, ?_, ?_, fun _ => signal_accepted _⟩
      · simpa using fun h => hfull (hfull_iff.mpr h)
      · simpa using fun h => hfull (hfull_iff.mpr h)
  · exact ⟨q, _, write_of_closed hclosed event, by simp, by simp, nofun⟩

theorem step_next (hrun : q.run = .next) : step .next q = some (next q) := by
  simp [step, hrun]

theorem step_delivered {event : α} (hrun : q.run = .writing event) :
    step .delivered q = some (delivered q) := by
  simp [step, hrun]

theorem step_closeWoken (hc : q.close = .woken) : step .closeWoken q = some (closeWoken q) := by
  simp [step, hc]

/-- While `Close` waits and `run` is about to look at the queue, `run`'s
own steps flush the backlog, its broadcast wakes `Close`, and `Close`
returns. -/
theorem flush_from_next (hinv : QueueInv q) (hc : q.close = .waiting) (hrun : q.run = .next) :
    ∃ labels q', Lts.run step q labels = some q' ∧ q'.close = .returned := by
  obtain ⟨events, hevents⟩ : ∃ events, q.events = events := ⟨_, rfl⟩
  -- induction on the backlog: each event costs `run` a `next` and a delivery
  induction events generalizing q with
  | nil =>
    obtain ⟨hclosed, hwait⟩ : q.closed = true ∧ q.waiters = [.close] := by
      cases hinv.phase with
      | closing h₁ _ _ h₄ => exact ⟨h₁, h₄⟩
      | opened _ h₂ => simp [h₂] at hc
      | flushed _ h₂ => simp [h₂] at hc
      | returned _ h₂ => simp [h₂] at hc
    -- the queue is empty and closed: `run` returns and its broadcast wakes `Close`
    have hwoken : (next q).close = .woken := by
      simp only [next, hevents, hclosed, ↓reduceIte, broadcast_of_close hwait]
    refine ⟨[.next, .closeWoken], closeWoken (next q), ?_, rfl⟩
    rw [Lts.run_cons, step_next hrun, Option.bind_some, Lts.run_cons, step_closeWoken hwoken,
      Option.bind_some, Lts.run_nil]
  | cons event events ih =>
    have hnext : next q = { q with events, run := .writing event, written := q.written ++ [event] } := by
      unfold next
      rw [hevents]
    have hwriting : (next q).run = .writing event := by rw [hnext]
    have hinv₂ := delivered_inv (next_inv hinv hrun) hwriting
    obtain ⟨labels, q', hrun', hq'⟩ :=
      ih hinv₂ (by rw [hnext]; exact hc) rfl (by rw [hnext]; rfl)
    refine ⟨.next :: .delivered :: labels, q', ?_, hq'⟩
    rw [Lts.run_cons, step_next hrun, Option.bind_some, Lts.run_cons,
      step_delivered hwriting, Option.bind_some]
    exact hrun'

/-- Once `Close` has closed the queue, the goroutines can always bring it
back: `dst.Write` returning is all it waits for. -/
theorem close_returns (hinv : QueueInv q) (hc : q.close ≠ .idle) :
    ∃ labels q', Lts.run step q labels = some q' ∧ q'.close = .returned := by
  cases hinv.phase with
  | opened _ h₂ => exact absurd h₂ hc
  | closing _ h₂ _ _ h₅ h₆ =>
    cases hrun : q.run with
    | next => exact flush_from_next hinv h₂ hrun
    | writing event =>
      obtain ⟨labels, q', hrun', hq'⟩ := flush_from_next (delivered_inv hinv hrun) h₂ rfl
      refine ⟨.delivered :: labels, q', ?_, hq'⟩
      rw [Lts.run_cons, step_delivered hrun, Option.bind_some]
      exact hrun'
    | waiting => exact absurd hrun h₅
    | done => exact absurd hrun h₆
  | flushed _ h₂ =>
    refine ⟨[.closeWoken], closeWoken q, ?_, rfl⟩
    rw [Lts.run_cons, step_closeWoken h₂, Option.bind_some, Lts.run_nil]
  | returned _ h₂ => exact ⟨[], q, rfl, h₂⟩

/-- When `Close` has returned, `run` has handed every accepted event to
`dst.Write` and returned, and `dst` is closed. -/
theorem returned_flushed (hinv : QueueInv q) (hc : q.close = .returned) :
    q.written = q.accepted ∧ q.run = .done ∧ q.dstClosed = true := by
  cases hinv.phase with
  | returned _ _ h₃ _ h₅ h₆ =>
    have hfifo := hinv.fifo
    rw [h₆, List.append_nil] at hfifo
    exact ⟨hfifo, h₅, h₃⟩
  | opened _ h₂ => simp [h₂] at hc
  | closing _ h₂ => simp [h₂] at hc
  | flushed _ h₂ => simp [h₂] at hc

end Results

theorem limit_queue_lossless_fifo {limit : Nat} {q : LimitQueue α}
    (hq : Lts.Reachable step (newLimitQueue limit) q) :
    q.written ++ q.events = q.accepted ∧
      (∀ event, ∃ q' r, write q event = some (q', r) ∧
        (r = .error .errQueueFull ↔ q.closed = false ∧ 0 < q.limit ∧ q.events.length = q.limit) ∧
        (r = .ok () ↔ q.closed = false ∧ ¬(0 < q.limit ∧ q.events.length = q.limit)) ∧
        (r = .ok () → q'.accepted = q.accepted ++ [event])) ∧
      (q.full = true ↔ 0 < q.rejected) ∧
      (q.close = .returned → q.written = q.accepted ∧ q.run = .done ∧ q.dstClosed = true) ∧
      (q.close ≠ .idle → ∃ labels q', Lts.run step q labels = some q' ∧ q'.close = .returned) := by
  have hinv := reachable_inv hq
  exact ⟨hinv.fifo, write_spec hinv, hinv.full, returned_flushed hinv, close_returns hinv⟩

/-- A queue of limit one holding one event, closed by `Close`, which
waits for `run` to flush it. -/
def closingQueue : LimitQueue Nat :=
  { events := [1], limit := 1, closed := true, fullClosed := false, full := false,
    waiters := [.close], run := .next, close := .waiting, written := [], dstClosed := false,
    accepted := [1], rejected := 0 }

theorem closing_queue_lossless :
    closingQueue.written ++ closingQueue.events = closingQueue.accepted ∧
      (∀ event, ∃ q' r, write closingQueue event = some (q', r) ∧
        (r = .error .errQueueFull ↔ closingQueue.closed = false ∧ 0 < closingQueue.limit ∧
          closingQueue.events.length = closingQueue.limit) ∧
        (r = .ok () ↔ closingQueue.closed = false ∧
          ¬(0 < closingQueue.limit ∧ closingQueue.events.length = closingQueue.limit)) ∧
        (r = .ok () → q'.accepted = closingQueue.accepted ++ [event])) ∧
      (closingQueue.full = true ↔ 0 < closingQueue.rejected) ∧
      (closingQueue.close = .returned → closingQueue.written = closingQueue.accepted ∧
        closingQueue.run = .done ∧ closingQueue.dstClosed = true) ∧
      (closingQueue.close ≠ .idle →
        ∃ labels q', Lts.run step closingQueue labels = some q' ∧ q'.close = .returned) :=
  limit_queue_lossless_fifo (Lts.reachable_of_run
    (by rfl : Lts.run step (newLimitQueue 1) [Label.write 1, .close] = some closingQueue))

/-- A `Write` while `Close` waits for the flush of a full queue is refused
as closed, not as full. -/
theorem write_while_closing_not_full :
    Lts.run step (newLimitQueue 1) [.write 1, .close] = some closingQueue ∧
      0 < closingQueue.limit ∧ closingQueue.events.length = closingQueue.limit ∧
      write closingQueue 2 = some (closingQueue, .error .errSinkClosed) :=
  ⟨rfl, by decide, rfl, rfl⟩

end SwarmKit.Watch.Queue

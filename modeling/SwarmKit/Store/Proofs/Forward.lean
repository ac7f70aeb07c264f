import SwarmKit.Store.Forward

/-
Whether cancelling a resumed watch releases it (`Forward.lean`).

# What holds

The subscription is removed exactly when the goroutine returns, and a
returned goroutine's subscription holds nothing (`inv_reachable`). So
whether a subscription leaks comes down to whether the goroutine returns.

# The trap

The live loop's send on `ch` is not in a `select` with `stop`. Once the
goroutine has taken an event and the consumer has cancelled, the send
never completes: the consumer reads no more. Only the store's publishes
stay enabled (`step_of_leaked`), so in every continuation the goroutine
stays at the send, its subscription stays in the broadcaster, and each
publish adds to the backlog (`run_of_leaked`).

# Reaching it

A consumer that reads nothing and cancels right after the goroutine has
taken the first live event, as `Server.Watch` does when its stream ends
at that moment: `cancel_during_send_leaks`.
-/

namespace SwarmKit.Store.Forward

variable {ε : Type} {w w' : World ε} {a : Act ε}

-- =================== the invariant

/-- The subscription is removed exactly when the goroutine has returned,
and then holds nothing. -/
structure Inv (w : World ε) : Prop where
  subscribed : w.subscribed = true ↔ w.pc ≠ .exited
  freed : w.pc = .exited → w.backlog = []

/-- What one step can do: a publish, which moves nothing but the
backlog of a live subscription; the goroutine's return; or another move,
which neither returns the goroutine nor touches the subscription. -/
theorem step_cases (hs : step a w = some w') :
    ((∃ e, a = .publish e) ∧ w'.pc = w.pc ∧ w'.subscribed = w.subscribed ∧
        (w.subscribed = false → w' = w)) ∨
      w' = w.exit ∨
      ((w'.pc = .exited ↔ w.pc = .exited) ∧ w'.subscribed = w.subscribed ∧
        (w.pc = .exited → w'.backlog = w.backlog)) := by
  cases a with
  | publish e =>
      cases hs
      refine .inl ⟨⟨e, rfl⟩, ?_, ?_, fun hsub => by rw [if_neg (by simp [hsub])]⟩ <;>
        split <;> rfl
  | replaySend =>
      simp only [step] at hs
      split at hs
      · split at hs
        · cases hs
        · cases hs
          exact .inr (.inr ⟨Iff.rfl, rfl, fun _ => rfl⟩)
      · cases hs
  | replayStop | liveStop =>
      simp only [step] at hs
      split at hs
      · split at hs
        · cases hs
          exact .inr (.inl rfl)
        · cases hs
      · cases hs
  | replayDone | receive =>
      simp only [step] at hs
      split at hs
      -- the goroutine moves between two of its running places
      · next hpc _ =>
          cases hs
          exact .inr (.inr ⟨by simp [hpc], rfl, by rw [hpc]; nofun⟩)
      · cases hs
  | deliver =>
      simp only [step] at hs
      split at hs
      · next hpc =>
          split at hs
          · cases hs
          · cases hs
            exact .inr (.inr ⟨by simp [hpc], rfl, by rw [hpc]; nofun⟩)
      · cases hs
  | cancel =>
      simp only [step] at hs
      split at hs
      · cases hs
      · cases hs
        exact .inr (.inr ⟨Iff.rfl, rfl, fun _ => rfl⟩)

theorem inv_exit (w : World ε) : Inv w.exit :=
  ⟨⟨nofun, fun h => absurd rfl h⟩, fun _ => rfl⟩

theorem inv_step (h : Inv w) (hs : step a w = some w') : Inv w' := by
  rcases step_cases hs with ⟨-, hpc, hsub, hsame⟩ | rfl | ⟨hpc, hsub, hback⟩
  · refine ⟨by rw [hsub, hpc]; exact h.subscribed, fun hex => ?_⟩
    -- a publish reaches no returned goroutine's subscription
    have hfalse : w.subscribed = false := by
      rw [hpc] at hex
      simpa [hex] using h.subscribed
    rw [hsame hfalse]
    exact h.freed (hpc ▸ hex)
  · exact inv_exit w
  · refine ⟨by rw [hsub, ne_eq, hpc]; exact h.subscribed, fun hex => ?_⟩
    rw [hback (hpc.mp hex)]
    exact h.freed (hpc.mp hex)

/-- In every state a resumed watch reaches, the subscription is removed
exactly when the goroutine has returned. -/
theorem inv_reachable (changelist : List ε) (hw : Lts.Reachable step (watchFrom changelist) w) :
    Inv w :=
  Lts.Inductive.reachable ⟨⟨by simp [watchFrom], nofun⟩, fun h hs => inv_step h hs⟩ hw

-- ======================== the trap

/-- The consumer has cancelled while the goroutine is at its send. -/
structure Leaked (w : World ε) : Prop where
  sending : ∃ e, w.pc = .sending e
  stopped : w.stopped = true
  subscribed : w.subscribed = true

/-- At a leaked state only the store's publishes are enabled, and each
adds to the backlog. -/
theorem step_of_leaked (h : Leaked w) (hs : step a w = some w') :
    ∃ e, a = .publish e ∧ w' = { w with backlog := w.backlog ++ [e] } := by
  obtain ⟨e, hpc⟩ := h.sending
  cases a with
  | publish e' =>
      refine ⟨e', rfl, ?_⟩
      cases hs
      rw [if_pos h.subscribed]
  | replaySend | replayStop | replayDone | receive | liveStop =>
      simp only [step, hpc] at hs
      cases hs
  | deliver => simp [step, hpc, h.stopped] at hs
  | cancel => simp [step, h.stopped] at hs

/-- Every continuation of a leaked state stays leaked, with the goroutine
at the same send and one more event held per step. -/
theorem run_of_leaked {l : List (Act ε)} (h : Leaked w) (hr : Lts.run step w l = some w') :
    Leaked w' ∧ w'.pc = w.pc ∧ w'.backlog.length = w.backlog.length + l.length := by
  induction l generalizing w with
  | nil =>
      cases hr
      exact ⟨h, rfl, rfl⟩
  | cons a l ih =>
      rw [Lts.run_cons] at hr
      cases hs : step a w with
      | none => rw [hs] at hr; cases hr
      | some w₁ =>
          rw [hs, Option.bind_some] at hr
          obtain ⟨e, -, rfl⟩ := step_of_leaked h hs
          have h₁ : Leaked { w with backlog := w.backlog ++ [e] } :=
            ⟨h.sending, h.stopped, h.subscribed⟩
          obtain ⟨hl, hpc, hlen⟩ := ih h₁ hr
          refine ⟨hl, hpc, ?_⟩
          simp only [hlen, List.length_append, List.length_cons, List.length_nil]
          omega

-- ===================== reaching it

/-- A watch resumed at the current version: the goroutine takes the
first live event, and the consumer cancels before it is delivered. From
there, whatever the store publishes, the goroutine never returns, its
subscription stays, and the backlog grows by every event. -/
theorem cancel_during_send_leaks :
    ∃ w, Lts.run step (watchFrom ([] : List Nat)) [.replayDone, .publish 1, .receive, .cancel] =
        some w ∧
      ∀ l w', Lts.run step w l = some w' →
        w'.pc ≠ .exited ∧ w'.subscribed = true ∧ w'.backlog.length = l.length := by
  refine ⟨_, rfl, fun l w' hr => ?_⟩
  obtain ⟨hl, hpc, hlen⟩ := run_of_leaked ⟨⟨1, rfl⟩, rfl, rfl⟩ hr
  refine ⟨?_, hl.subscribed, ?_⟩
  · rw [hpc]
    nofun
  · rw [hlen]
    exact Nat.zero_add l.length

end SwarmKit.Store.Forward

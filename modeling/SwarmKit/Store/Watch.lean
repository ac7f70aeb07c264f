import SwarmKit.Store.Memory

/-
Watches on the store's queue (state/watch.go `Watch`, `Matcher`,
`EventCommit.Matches`; memory.go's `WatchFrom` goroutine).

The queue is the list of every event the store has published. A
subscription joins it at its current end and receives what is published
afterwards through its specifiers' filter; a resumed watch
(`Raft/Watch.lean`) first sends a changelist rebuilt from the raft log,
through the specifiers' matcher. The two filters differ on an empty
list of specifiers: the subscription then passes every event, the
matcher none.
-/

namespace SwarmKit.Store

variable {B : Type}

-- ====================== specifiers

/-- A watch specifier: an `api.Event` used as a selector, through its
`Matches`. -/
abbrev Specifier (B : Type) := Event B → Bool

/-- `state.Matcher(specifiers...)`: an event matches when some specifier
matches it (OR logic); with no specifiers nothing matches. -/
def matcher (specifiers : List (Specifier B)) (e : Event B) : Bool := specifiers.any (· e)

/-- What `state.Watch(queue, specifiers...)` lets through: every event
with no specifiers (`queue.Watch()`), the matcher's choice otherwise
(`queue.CallbackWatch`). -/
def watchMatches (specifiers : List (Specifier B)) (e : Event B) : Bool :=
  specifiers.isEmpty || matcher specifiers e

/-- `state.EventCommit{}` as a specifier: it matches the commit events. -/
def commitSpecifier : Specifier B
  | .commit _ => true
  | _ => false

-- ========================= watches

/-- A watch `WatchFrom` started: its specifiers, the changelist it
replays first, and where its subscription joined the queue. -/
structure Watcher (B : Type) where
  specifiers : List (Specifier B)
  changelist : List (Event B)
  start : Nat

/-- `state.Watch(store.WatchQueue(), specifiers...)`: a subscription from
the queue's current end, with nothing to replay. -/
def MemoryStore.watch (s : MemoryStore B) (specifiers : List (Specifier B)) : Watcher B :=
  ⟨specifiers, [], s.queue.length⟩

/-- What the watch's channel has carried once the store's queue is
`queue`: the replayed changelist through the matcher, then the events
published since the subscription through the watch's filter. -/
def Watcher.delivered (ω : Watcher B) (queue : List (Event B)) : List (Event B) :=
  ω.changelist.filter (matcher ω.specifiers) ++ (queue.drop ω.start).filter (watchMatches ω.specifiers)

-- ===================== spec lemmas

@[simp] theorem matcher_nil (e : Event B) : matcher [] e = false := rfl

@[simp] theorem watchMatches_nil (e : Event B) : watchMatches [] e = true := rfl

/-- A watch whose specifiers match every event delivers the replayed
changelist and then the queue since its subscription, unfiltered. -/
theorem Watcher.delivered_of_all {ω : Watcher B} (hall : ∀ e, matcher ω.specifiers e = true)
    (queue : List (Event B)) : ω.delivered queue = ω.changelist ++ queue.drop ω.start := by
  have hw : ∀ e, watchMatches ω.specifiers e = true := fun e => by simp [watchMatches, hall e]
  simp [Watcher.delivered, List.filter_eq_self.mpr (fun e _ => hall e),
    List.filter_eq_self.mpr (fun e _ => hw e)]

/-- A watch without specifiers drops the whole replayed changelist
(`state.Matcher()` matches nothing) while its subscription passes every
event (`queue.Watch()`): resumed without specifiers, it skips every
change between the version and the hand-over. -/
theorem Watcher.delivered_of_nil {ω : Watcher B} (h : ω.specifiers = []) (queue : List (Event B)) :
    ω.delivered queue = queue.drop ω.start := by
  have hm : ω.changelist.filter (matcher []) = [] := List.filter_eq_nil_iff.mpr fun e _ => by simp
  have hw : (queue.drop ω.start).filter (watchMatches []) = queue.drop ω.start :=
    List.filter_eq_self.mpr fun e _ => rfl
  rw [Watcher.delivered, h, hm, hw, List.nil_append]

end SwarmKit.Store

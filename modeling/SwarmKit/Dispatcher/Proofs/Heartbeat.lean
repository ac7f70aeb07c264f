import SwarmKit.Dispatcher.Nodes

/-
Which session an expiry or a beat acts on (`Nodes.lean`).

# Expiry

The expiry function knows the node, not the session it was made for:
once it runs, the node is marked down and whatever entry the node store
has for it is deleted. `nodeStore.Add`
stops the old timer, which keeps an expiry from starting but not one
that has started, so a re-registration between a timer firing and its
function running loses the new session (`stale_heartbeat_downs_new_session`).

# Beat

`Heartbeat` checks the session under the store's lock and calls `Beat`
after releasing it, and `Beat` arms the timer whatever state it is in:
a beat of a session that was replaced in between
re-arms the timer `Add` stopped, and its expiry then takes the new
session down.
-/

namespace SwarmKit.Dispatcher

open SwarmKit.Scheduler.Fit (NodeState)
open SwarmKit.Orchestrator (Table)

-- ======================== one step

-- ======================== the runs

/-- Node 1 in the store, ready; IDs start at 10. -/
def nodeOne : World := ⟨(∅ : Table NodeState).insert 1 .ready, ∅, ∅, [], [], 10⟩

/-- Node 1 registers (session 10, timer 11) and its timer fires; before
the expiry function runs, the node registers again (session 12, timer
13), and the function then marks it down and deletes session 12, whose
timer never fired. Likewise a heartbeat of session 10 checked before the
re-registration and beating after it re-arms timer 11, stopped by the
re-registration, which then fires and takes session 12 down. -/
theorem stale_heartbeat_downs_new_session :
    ((Lts.run step nodeOne [.register 1, .fire 11, .register 1]).map fun w =>
      (w.nodes.lookup 1, w.expiring)) = some (some ⟨12, 13⟩, [1]) ∧
    ((Lts.run step nodeOne [.register 1, .fire 11, .register 1, .expire 1]).map fun w =>
      (w.status.lookup 1, w.nodes.lookup 1, (w.timers.lookup 13).map (·.armed))) =
      some (some .down, none, some false) ∧
    ((Lts.run step nodeOne
      [.register 1, .heartbeat 1 10, .register 1, .beat 11, .fire 11, .expire 1]).map fun w =>
      (w.status.lookup 1, w.nodes.lookup 1)) = some (some .down, none) := by
  decide

end SwarmKit.Dispatcher

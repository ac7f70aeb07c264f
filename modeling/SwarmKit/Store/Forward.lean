import SwarmKit.Lib.Lts

/-
The goroutine `WatchFrom` starts for a resumed watch, and the consumer
that cancels it (manager/state/store/memory.go `WatchFrom`;
manager/watchapi/watch.go `Server.Watch`; watch/watch.go
`Queue.CallbackWatch`; watch/queue/queue.go `LimitQueue`).

# The parties

The store's queue has no limit and does not close its watchers'
channels, so `CallbackWatch` hands out the channel of an unbuffered
channel sink fed by a `LimitQueue`: every event the queue broadcasts is
appended to the `LimitQueue`'s list (`Write` never fails without a
limit), and its own goroutine passes them one by one into the channel.
That list, with the event its goroutine is handing over, is the backlog
here.

The forwarding goroutine first sends the changelist entries the matcher
passes, each in a `select` with `stop`; then it loops on a `select` of
`stop` and the subscription's channel, and sends each event it receives
on the unbuffered `ch` with a plain send. When it returns, its deferred
`cancelWatch` removes the subscription from the broadcaster and closes
the sink and the `LimitQueue`, which drops the backlog.

The consumer reads `ch` until it calls `cancel`, which closes `stop`;
then it reads no more (`Server.Watch` returns, its deferred `cancel`
running). Events are opaque: the model is generic in their type.
-/

namespace SwarmKit.Store.Forward

-- ======================= the state

/-- Where the forwarding goroutine is. -/
inductive ForwardPc (ε : Type)
  /-- In the changelist loop. -/
  | replaying
  /-- In the live loop's `select`. -/
  | waiting
  /-- At the live loop's `ch <- e`. -/
  | sending (e : ε)
  /-- Returned, its deferred `cancelWatch` run. -/
  | exited
  deriving DecidableEq, Repr

/-- The subscription, the goroutine and the consumer. -/
structure World (ε : Type) where
  /-- The changelist entries still to send. -/
  replay : List ε
  /-- What the subscription's `LimitQueue` holds. -/
  backlog : List ε
  /-- The subscription's sink is in the queue's broadcaster. -/
  subscribed : Bool
  pc : ForwardPc ε
  /-- `stop` is closed: the consumer has cancelled and reads no more. -/
  stopped : Bool
  /-- What the consumer has read. -/
  received : List ε
  deriving DecidableEq, Repr

variable {ε : Type}

/-- `WatchFrom` returning: the subscription made, the goroutine started
with the changelist entries the matcher passes. -/
def watchFrom (changelist : List ε) : World ε := ⟨changelist, [], true, .replaying, false, []⟩

/-- The goroutine returns: `cancelWatch` removes the subscription and
drops what it held. -/
def World.exit (w : World ε) : World ε := { w with pc := .exited, subscribed := false, backlog := [] }

/-- What happens next. -/
inductive Act (ε : Type)
  /-- The store publishes an event the subscription's filter passes. -/
  | publish (e : ε)
  /-- The changelist loop's `select` sends the next entry. -/
  | replaySend
  /-- The changelist loop's `select` sees `stop`. -/
  | replayStop
  /-- The changelist loop ends. -/
  | replayDone
  /-- The live `select` takes the next event of the subscription. -/
  | receive
  /-- The live `select` sees `stop`. -/
  | liveStop
  /-- The live `ch <- e` completes. -/
  | deliver
  /-- The consumer calls `cancel` and stops reading. -/
  | cancel
  deriving DecidableEq, Repr

/-- One step; `none` when it is not enabled. A send on `ch` needs the
consumer reading; a `select` with both cases ready may take either. -/
def step : Act ε → World ε → Option (World ε)
  | .publish e, w => some (if w.subscribed then { w with backlog := w.backlog ++ [e] } else w)
  | .replaySend, w =>
    match w.pc, w.replay with
    | .replaying, e :: rest =>
      if w.stopped then none else some { w with replay := rest, received := w.received ++ [e] }
    | _, _ => none
  | .replayStop, w =>
    match w.pc, w.replay with
    | .replaying, _ :: _ => if w.stopped then some w.exit else none
    | _, _ => none
  | .replayDone, w =>
    match w.pc, w.replay with
    | .replaying, [] => some { w with pc := .waiting }
    | _, _ => none
  | .receive, w =>
    match w.pc, w.backlog with
    | .waiting, e :: rest => some { w with pc := .sending e, backlog := rest }
    | _, _ => none
  | .liveStop, w =>
    match w.pc with
    | .waiting => if w.stopped then some w.exit else none
    | _ => none
  | .deliver, w =>
    match w.pc with
    | .sending e =>
      if w.stopped then none else some { w with pc := .waiting, received := w.received ++ [e] }
    | _ => none
  | .cancel, w => if w.stopped then none else some { w with stopped := true }

end SwarmKit.Store.Forward

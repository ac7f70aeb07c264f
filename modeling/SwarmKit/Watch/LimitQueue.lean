import Mathlib.Logic.Function.Basic

/-
The queue between a watch's broadcaster and its sink (watch/queue/queue.go
`LimitQueue`: `NewLimitQueue`, `Write`, `Full`, `Close`, `run`, `next`).

# The queue

`Write` appends an event to the queue unless the queue is closed
(`ErrSinkClosed`) or holds `limit` events, `limit` being positive
(`ErrQueueFull`, closing the channel `full` the first time). The `run`
goroutine takes the events off the front one at a time in `next` and
hands each to `dst.Write`, waiting on the condition variable while the
queue is empty and open. `Close` closes the queue, signals, and waits
on the same condition variable until `next` finds the queue empty and
closed, which broadcasts; then it closes `dst`.

# The goroutines

Every critical section runs under the queue's mutex, so it is one step:
a whole `Write`, `Close` up to its wait, one pass of `next`'s loop, and
the closing `Close` taking the mutex back after its wait; `dst.Write`
returning to `run` is the step outside it. The waiters of `cond.Wait`
are a list in the order they began to wait: `Signal` wakes the first,
`Broadcast` all, and a woken goroutine takes the mutex back as a step of
its own. Only `run`
and the call to `Close` that closes the queue ever wait.

# Reading the source

The state holds, beside the struct's fields, what the sink and the
writers observe: the events handed to `dst.Write` in the order of the
calls, whether `dst.Close` was called, the events whose `Write` returned
nil in order, and how many `Write`s returned `ErrQueueFull`. An event
is handed to `dst.Write` when `next` takes it off the queue: nothing
between the two is observable. `dst.Write` returns, as the sinks
used here do, and what it returns is not read. `events.Len()` is far below
`2^63`, so its conversion to `uint64` is exact and `limit` is a `Nat`.
Closing the closed channel `full` panics, which is `none`.
-/

namespace SwarmKit.Watch.Queue

-- ======================= the state

/-- A goroutine in `cond.Wait`. -/
inductive Waiter
  | run
  | close
  deriving DecidableEq, Repr

/-- Where the `run` goroutine is. -/
inductive RunPc (α : Type)
  /-- taking the mutex in `next`, first or after a wake-up -/
  | next
  /-- in `cond.Wait` in `next` -/
  | waiting
  /-- in `dst.Write` of an event -/
  | writing (event : α)
  /-- returned on the nil `next` gives once the queue is empty and closed -/
  | done
  deriving DecidableEq, Repr

/-- Where the call to `Close` that closes the queue is. -/
inductive ClosePc
  | idle
  | waiting
  | woken
  | returned
  deriving DecidableEq, Repr

/-- `Write`'s errors. -/
inductive WriteErr
  | errSinkClosed
  | errQueueFull
  deriving DecidableEq, Repr

/-- `LimitQueue`, with the goroutines' places and what the sink and the
writers observe. -/
structure LimitQueue (α : Type) where
  events : List α
  limit : Nat
  closed : Bool
  fullClosed : Bool
  /-- whether the channel `full` is closed -/
  full : Bool
  waiters : List Waiter
  run : RunPc α
  close : ClosePc
  /-- the events handed to `dst.Write`, in the order of the calls -/
  written : List α
  dstClosed : Bool
  /-- the events whose `Write` returned nil, in order -/
  accepted : List α
  /-- how many `Write`s returned `ErrQueueFull` -/
  rejected : Nat
  deriving DecidableEq, Repr

variable {α : Type}

/-- `NewLimitQueue(dst, limit)`, its `run` goroutine started. -/
def newLimitQueue (limit : Nat) : LimitQueue α :=
  { events := [], limit, closed := false, fullClosed := false, full := false, waiters := [],
    run := .next, close := .idle, written := [], dstClosed := false, accepted := [],
    rejected := 0 }

-- ========== the condition variable

/-- A waiter woken: it will take the mutex back. -/
def wake (q : LimitQueue α) : Waiter → LimitQueue α
  | .run => { q with run := .next }
  | .close => { q with close := .woken }

/-- `cond.Signal()`: the first waiter wakes. -/
def signal (q : LimitQueue α) : LimitQueue α :=
  match q.waiters with
  | [] => q
  | w :: ws => wake { q with waiters := ws } w

/-- `cond.Broadcast()`: every waiter wakes. -/
def broadcast (q : LimitQueue α) : LimitQueue α :=
  q.waiters.foldl wake { q with waiters := [] }

/-- `cond.Wait()` by `w`: it joins the waiters. -/
def wait (q : LimitQueue α) (w : Waiter) : LimitQueue α :=
  { q with waiters := q.waiters ++ [w] }

-- ======================= the calls

/-- `close(ch)`: `none` where the channel is already closed, a panic. -/
def closeChan (closed : Bool) : Option Bool :=
  if closed then none else some true

/-- `Write(event)`, all of it under the mutex, with its result. -/
def write (q : LimitQueue α) (event : α) : Option (LimitQueue α × Except WriteErr Unit) :=
  if q.closed then some (q, .error .errSinkClosed)
  else if 0 < q.limit ∧ q.limit ≤ q.events.length then
    let q := { q with rejected := q.rejected + 1 }
    if !q.fullClosed then
      (closeChan q.full).map fun full => ({ q with fullClosed := true, full }, .error .errQueueFull)
    else some (q, .error .errQueueFull)
  else
    some (signal { q with events := q.events ++ [event], accepted := q.accepted ++ [event] }, .ok ())

/-- `Close()` up to its `cond.Wait`; a call on a closed queue returns nil
at once. -/
def close (q : LimitQueue α) : LimitQueue α :=
  if q.closed then q
  else { wait (signal { q with closed := true }) .close with close := .waiting }

/-- The closing `Close` back from its wait: `dst.Close()`. -/
def closeWoken (q : LimitQueue α) : LimitQueue α :=
  { q with close := .returned, dstClosed := true }

/-- One pass of `next`'s loop under the mutex: the front event, handed to
`dst.Write`; on an empty queue the broadcast and the nil that ends `run`
once it is closed, the wait otherwise. -/
def next (q : LimitQueue α) : LimitQueue α :=
  match q.events with
  | [] =>
    if q.closed then { broadcast q with run := .done }
    else { wait q .run with run := .waiting }
  | event :: events => { q with events, run := .writing event, written := q.written ++ [event] }

/-- `dst.Write` returning to `run`, which calls `next` again. -/
def delivered (q : LimitQueue α) : LimitQueue α :=
  { q with run := .next }

-- ==================== the schedule

/-- A step of one goroutine. -/
inductive Label (α : Type)
  | write (event : α)
  | close
  | next
  | delivered
  | closeWoken
  deriving DecidableEq, Repr

/-- The step a label names, `none` when its goroutine is not there. -/
def step : Label α → LimitQueue α → Option (LimitQueue α)
  | .write event, q => (write q event).map (·.1)
  | .close, q => some (close q)
  | .next, q =>
    match q.run with
    | .next => some (next q)
    | _ => none
  | .delivered, q =>
    match q.run with
    | .writing _ => some (delivered q)
    | _ => none
  | .closeWoken, q =>
    match q.close with
    | .woken => some (closeWoken q)
    | _ => none

end SwarmKit.Watch.Queue

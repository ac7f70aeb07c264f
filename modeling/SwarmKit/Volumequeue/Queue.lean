import Mathlib.Data.List.Basic

/-
The retry queue of volumes (volumequeue/queue.go `VolumeQueue`:
`NewVolumeQueue`, `Enqueue`, `Wait`, `Stop`, and `timerSource.NewTimer`),
which the CSI manager and the agent's volume manager retry volumes
through.

# The queue

`Enqueue(id, attempt)` replaces the entry of `id` in `outstanding`,
cancelling the old one, and starts a goroutine for the new entry: when
its timer fires it offers the entry on the unbuffered channel `next`,
and it gives up as soon as the entry's cancel channel is closed. `Wait`
receives an entry from `next`, removes it from `outstanding` if it is
still the entry there, and returns its id and attempt; once `stopChan`
is closed it may return `("", 0)` instead. `Stop` closes `stopChan` and
cancels every outstanding entry, leaving them in `outstanding`.

# The goroutines

`Enqueue` and `Stop` run under the queue's mutex, each one step, as
does the rest of `Wait` after its receive. An entry's goroutine is
blocked on its timer, then running into its second select, then blocked
offering the entry, then done. Closing the cancel channel wakes it
where it is blocked; while it runs into the select, both the offer and
the cancel can be taken. A receive pairs a `Wait` with an entry offered
on `next`, and a `Wait` with a closed `stopChan` may take that case
instead, as Go picks between ready cases.

# Reading the source

Entries are told apart by where they were made, their index in
`entries`: `e == v` in `Wait` compares pointers. The map `outstanding`
is a list of pairs, each id once. Closing a closed channel panics, which
is `none`; `Stop` cancels the entries in the map's order, which does not
matter, as each is cancelled once. A timer's duration is kept with its
entry, but when a timer fires is the scheduler's choice. What `Wait`
calls have returned is kept, as their callers read it.
-/

namespace SwarmKit.Volumequeue

-- ======================= the timer

/-- `baseRetryInterval`, in nanoseconds. -/
def baseRetryInterval : Int := 100000000

/-- `maxRetryInterval`, in nanoseconds. -/
def maxRetryInterval : Int := 600000000000

/-- The duration `timerSource.NewTimer(attempt)` waits for: the base
interval shifted left by the attempt, as an `int64` `time.Duration`,
capped at the maximum. -/
def newTimer (attempt : Nat) : Int :=
  if attempt = 0 then 0
  else
    let waitFor := ((BitVec.ofInt 64 baseRetryInterval) <<< attempt).toInt
    if waitFor > maxRetryInterval then maxRetryInterval else waitFor

-- ======================= the state

/-- Where an entry's goroutine is. -/
inductive EntryPc
  /-- blocked in its first select, on the timer and the cancel channel -/
  | timing
  /-- the timer fired: running into its second select -/
  | fired
  /-- blocked in its second select, offering the entry on `next` -/
  | sending
  /-- the entry was received, or the goroutine took the cancel case -/
  | finished
  deriving DecidableEq, Repr

/-- `volumeQueueEntry`, with its cancel channel, timer and goroutine. -/
structure Entry where
  id : String
  attempt : Nat
  waitFor : Int
  /-- whether `cancelChan` is closed -/
  cancelled : Bool
  pc : EntryPc
  deriving DecidableEq, Repr

/-- `VolumeQueue`, with the entries ever made, the `Wait` calls between
their receive and their return, and what the `Wait` calls returned. -/
structure VolumeQueue where
  entries : List Entry
  /-- the map `outstanding`, to the index of the entry -/
  outstanding : List (String × Nat)
  /-- whether `stopChan` is closed -/
  stopped : Bool
  /-- the entries the `Wait` calls received from `next`, in order -/
  received : List Nat
  /-- the entries of the `Wait` calls waiting for the mutex -/
  waits : List Nat
  /-- what the `Wait` calls returned, in order -/
  results : List (String × Nat)
  deriving DecidableEq, Repr

/-- `NewVolumeQueue()`. -/
def newVolumeQueue : VolumeQueue := ⟨[], [], false, [], [], []⟩

/-- `delete(vq.outstanding, id)`. -/
def eraseId (outstanding : List (String × Nat)) (id : String) : List (String × Nat) :=
  outstanding.filter (·.1 != id)

-- ======================= the calls

/-- Where a goroutine woken by the close of its cancel channel goes: a
blocked one returns; one running into its select goes on. -/
def wakeOnCancel : EntryPc → EntryPc
  | .fired => .fired
  | _ => .finished

/-- `entry.cancel()`: `close(cancelChan)`, `none` when it is closed. -/
def cancel (q : VolumeQueue) (i : Nat) : Option VolumeQueue :=
  match q.entries[i]? with
  | none => none
  | some e =>
    if e.cancelled then none
    else some { q with entries := q.entries.set i { e with cancelled := true, pc := wakeOnCancel e.pc } }

/-- `Enqueue(id, attempt)`, all of it under the mutex. -/
def enqueue (q : VolumeQueue) (id : String) (attempt : Nat) : Option VolumeQueue := do
  let q ← match q.outstanding.lookup id with
    | some i => (cancel q i).map fun q => { q with outstanding := eraseId q.outstanding id }
    | none => some q
  let v : Entry := ⟨id, attempt, newTimer attempt, false, .timing⟩
  some { q with entries := q.entries ++ [v], outstanding := (id, q.entries.length) :: q.outstanding }

/-- `Stop()`: `close(vq.stopChan)`, then every outstanding entry's
`cancel`, the entries left in `outstanding`. -/
def stop (q : VolumeQueue) : Option VolumeQueue :=
  if q.stopped then none
  else q.outstanding.foldlM (fun q (_, i) => cancel q i) { q with stopped := true }

/-- The rest of a `Wait` that received entry `i`: under the mutex, the
entry leaves `outstanding` if it is still the one there, and its id and
attempt are returned. -/
def waitReturn (q : VolumeQueue) (i : Nat) : VolumeQueue :=
  match q.entries[i]? with
  | none => q
  | some v =>
    let outstanding :=
      if q.outstanding.lookup v.id = some i then eraseId q.outstanding v.id else q.outstanding
    { q with outstanding, results := q.results ++ [(v.id, v.attempt)] }

-- ==================== the schedule

/-- A step of one goroutine. -/
inductive Label
  | enqueue (id : String) (attempt : Nat)
  | stop
  /-- entry `i`'s timer fires -/
  | fire (i : Nat)
  /-- entry `i`'s goroutine blocks offering the entry -/
  | block (i : Nat)
  /-- entry `i`'s goroutine takes its closed cancel channel -/
  | abort (i : Nat)
  /-- a `Wait` receives entry `i` from `next` -/
  | receive (i : Nat)
  /-- the `k`-th `Wait` holding an entry takes the mutex and returns -/
  | waitReturn (k : Nat)
  /-- a `Wait` takes the closed `stopChan` and returns `("", 0)` -/
  | waitStopped
  deriving DecidableEq, Repr

/-- Entry `i`'s goroutine moving from `pc` to `pc'`. -/
def move (q : VolumeQueue) (i : Nat) (pc pc' : EntryPc) (cancelled : Bool) : Option VolumeQueue :=
  match q.entries[i]? with
  | some e =>
    if e.pc = pc ∧ e.cancelled = cancelled then some { q with entries := q.entries.set i { e with pc := pc' } }
    else none
  | none => none

/-- The step a label names, `none` when it cannot be taken or panics. -/
def step : Label → VolumeQueue → Option VolumeQueue
  | .enqueue id attempt, q => enqueue q id attempt
  | .stop, q => stop q
  | .fire i, q => move q i .timing .fired false
  | .block i, q => move q i .fired .sending false
  | .abort i, q => move q i .fired .finished true
  | .receive i, q =>
    match q.entries[i]? with
    | some e =>
      if e.pc = .fired ∨ e.pc = .sending then
        some { q with entries := q.entries.set i { e with pc := .finished },
                      received := q.received ++ [i], waits := q.waits ++ [i] }
      else none
    | none => none
  | .waitReturn k, q =>
    match q.waits[k]? with
    | some i => some (waitReturn { q with waits := q.waits.eraseIdx k } i)
    | none => none
  | .waitStopped, q => if q.stopped then some { q with results := q.results ++ [("", 0)] } else none

end SwarmKit.Volumequeue

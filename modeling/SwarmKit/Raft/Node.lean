import SwarmKit.Lib.Lts
import SwarmKit.Store.Memory

/-
A raft manager node as its store sees it (manager/state/raft/raft.go,
wait.go and the proposer side of memory.go's `update`): local `Update`
calls proposing their changelists, the `Run` loop applying committed
entries, and raft itself as the environment that appends, truncates and
commits entries and moves leadership.

# The parties

- **One `Update` call at a time.** `MemoryStore.update` holds
  `updateLock` from before `GetVersion` until it returns, so at most one
  call is between those points, which is why `Node.update` is an
  `Option`. The call is split at each point where another goroutine can
  observe or change what it depends on: after `wait.register`, after
  the `signalledLeadership` check, after `Propose` has handed the entry
  to raft, in the `select`, and in the second read of the channel after
  a context branch cancelled the wait (`UpdatePc`). Its callback is a
  list of writes (`runOps`), chosen when it runs.
- **The `Run` loop.** A change of raft state (the `SoftState` branch
  that resets `signalledLeadership`, then `wait.cancelAll`), committed
  entries in log order (`processCommitted`/`processEntry`), and the
  `caughtUp` check that signals leadership. `wait.trigger` is two
  steps, as in wait.go: the item leaves the map under the lock, and its
  callback and send run afterwards (`RunPc.triggering`).
  `ApplyStoreActions` waits for the `Update` call holding `updateLock`
  (`RunPc.applying`).
- **Raft.** Leadership moves (`stepDown`, `becomeLeader`, which appends
  the new term's empty entry), a follower receives the leader's entries
  (another member's requests, or this node's own forwarded proposals,
  `inflight`) and has its uncommitted suffix cut, and the commit index
  advances. The batching into `Ready` values is not kept: every order
  is allowed, which contains the orders raft produces.

# What each party may choose

The environment's choices are labels of `Action`: the callback's
writes, where `Propose` puts the entry (the leader's own log, a forward
to another leader, or nowhere), whether `Propose` then reports success,
which entries a follower receives. `Propose` may report an error at any
point after it handed the entry over (its context is the proposal's
`waitCtx`, which `Node.Cancel` cancels at shutdown), while the entry
may already be in the log. The request size behind
`ErrRequestTooLarge` is a parameter of `step`.

# Ghost state

`serial` numbers the `Update` calls, `finished` records how each one
ended (its error, whether its own `memDBTx.Commit` ran on a live
transaction, whether its `Propose` reported an error), and an `Update`
carries the same two flags while it runs. No code path reads them.
-/

namespace SwarmKit.Raft

open SwarmKit.Store

-- ======================== requests

/-- `InternalRaftRequest.ID` as `idutil.Generator` builds it: the
proposing member's prefix and the generator's count. -/
structure ReqId where
  member : Nat
  seq : Nat
  deriving DecidableEq, Repr

/-- `api.InternalRaftRequest` carrying store actions. -/
structure Request (B : Type) where
  id : ReqId
  action : List (StoreAction B)

/-- A log entry as `processCommitted` sees it: a normal entry with data,
which goes to `processEntry`, or anything else (a conf change, the empty
entry of a new term), which leaves the store alone. -/
inductive Entry (B : Type) where
  | normal (r : Request B)
  | other

-- ============================ wait

/-- `wait.m`, by key. The channel, callback and cancel function of an
item all belong to the `Update` call that registered it, which holds
them in `Update`; the map keeps the keys. -/
abbrev Wait := List ReqId

/-- `wait.register`: `none` is the duplicate-ID panic. -/
def Wait.register (w : Wait) (id : ReqId) : Option Wait :=
  if id ∈ w then none else some (id :: w)

/-- `delete(w.m, id)`. -/
def Wait.remove (w : Wait) (id : ReqId) : Wait := w.filter (· ≠ id)

-- ===================== Update call

/-- The proposal's wait channel (`make(chan interface{}, 1)`): nothing
in it, the trigger's value, or closed by a cancel. -/
inductive Chan where
  | empty
  | sent
  | closed
  deriving DecidableEq, Repr

/-- Where the `Update` call holding `updateLock` is, once its callback
produced store actions and its request is registered. -/
inductive UpdatePc where
  /-- `wait.register` done; the `signalledLeadership` check is next. -/
  | registered
  /-- The check passed; `Marshal`, the size check and `Propose` are next. -/
  | checked
  /-- `Propose` has handed the entry over and has not returned. -/
  | proposing
  /-- `Propose` returned nil; the `select` is next. -/
  | waiting
  /-- A context branch of the `select` cancelled the wait; `<-ch` is next. -/
  | draining
  /-- `processInternalRaftRequest` returned; publish or abort, then unlock. -/
  | returned (err : Option Err)
  deriving DecidableEq, Repr

/-- The `Update` call holding `updateLock`: the transaction its callback
left, the changelist's store actions, its request ID, where it is, its
channel and its `commitGuard` token, and two ghost flags. -/
structure Update (B : Type) where
  serial : Nat
  tx : Tx B
  actions : List (StoreAction B)
  id : ReqId
  pc : UpdatePc
  chan : Chan
  guard : Bool
  ownCommit : Bool
  proposeFailed : Bool

/-- How an `Update` call ended (ghost). -/
structure Finished where
  serial : Nat
  err : Option Err
  ownCommit : Bool
  proposeFailed : Bool
  deriving DecidableEq, Repr

-- ======================== Run loop

/-- Where the `Run` loop is inside one of its multi-step actions. -/
inductive RunPc (B : Type) where
  | idle
  /-- `signalledLeadership` reset after a step-down; `cancelAll` is next. -/
  | cancelling
  /-- `trigger` took the item out of the map; its callback and send are next. -/
  | triggering (id : ReqId)
  /-- No waiter: `cancelAll` done, `ApplyStoreActions` (under the lock) is next. -/
  | applying (r : Request B)

-- =========================== state

/-- The node. `leader` is raft's own state; `wasLeader` and `signalled`
are the `Run` loop's flag and `signalledLeadership`. -/
structure Node (B : Type) where
  self : Nat
  store : MemoryStore B
  log : List (Entry B)
  commit : Nat
  applied : Nat
  leader : Bool
  wasLeader : Bool
  signalled : Bool
  wait : Wait
  update : Option (Update B)
  run : RunPc B
  nextSeq : Nat
  serial : Nat
  inflight : List (Request B)
  finished : List Finished

/-- Where `Propose` puts an entry: the leader's own log, a forward to the
leader (`MsgProp` from a follower), or nowhere (dropped, or no leader). -/
inductive Dest where
  | log
  | forward
  | drop
  deriving DecidableEq, Repr

/-- One atomic step of a party, with the environment's choice in it. -/
inductive Action (B : Type) where
  | start (ops : List (TxOp B))
  | check
  | propose (dest : Dest)
  | proposeReturn (ok : Bool)
  | wake
  | ctxDone
  | drain
  | finish
  | softState
  | cancelAll
  | process
  | callback
  | apply
  | signal
  | stepDown
  | becomeLeader
  | receive (e : Entry B)
  | forwarded (i : Nat)
  | truncate (n : Nat)
  | advance (c : Nat)

namespace Node

variable {B : Type}

/-- A member that has just started: the store it restored, an empty log,
no leadership, nothing registered. -/
def init (self : Nat) (root : Db B) : Node B :=
  ⟨self, ⟨root, [], 0, []⟩, [], 0, 0, false, false, false, [], none, .idle, 0, 0, [], []⟩

/-- The running `Update` call changed by `f`. -/
def withUpdate (s : Node B) (f : Update B → Update B) : Node B :=
  { s with update := s.update.map f }

/-- `wait.cancel(id)`: if the item is there it leaves the map, its cancel
function runs and its channel is closed. -/
def cancelWait (s : Node B) (id : ReqId) : Node B :=
  if id ∈ s.wait then
    { s.withUpdate (fun u => if u.id = id then { u with chan := .closed } else u) with
      wait := s.wait.remove id }
  else s

/-- `wait.cancelAll()`: every item cancelled and closed. -/
def cancelAllWaits (s : Node B) : Node B :=
  { s.withUpdate (fun u => if u.id ∈ s.wait then { u with chan := .closed } else u) with
    wait := [] }

/-- The `Update` call unlocks and ends. -/
def retire (s : Node B) (f : Finished) : Node B :=
  { s with update := none, finished := s.finished ++ [f] }

-- ================= the Update call

/-- `MemoryStore.update` up to `wait.register`: take the lock (only when
no call holds it), stamp with `GetVersion()` (the commit index), run the
callback. On a callback error it aborts; with nothing to propose it
commits directly and publishes; otherwise `ProposeValue` takes the next
request ID and registers it. -/
def start (ops : List (TxOp B)) (s : Node B) : Option (Node B) :=
  match s.update with
  | some _ => none
  | none =>
    let s₁ := { s with serial := s.serial + 1 }
    let (tx, err) := runOps (Tx.init s.store.root (some ⟨s.commit⟩)) ops
    match err with
    | some e => some (s₁.retire ⟨s.serial, some e, false, false⟩)
    | none =>
      match tx.changelistStoreActions with
      | .error e => some (s₁.retire ⟨s.serial, some e, false, false⟩)
      | .ok [] =>
        some { (s₁.retire ⟨s.serial, none, false, false⟩) with
          store := (s.store.commitTxn tx.memDBTx).1.publishCommit tx.changelist
            (some ⟨s.commit⟩) }
      | .ok sa =>
        let id : ReqId := ⟨s.self, s.nextSeq⟩
        match s.wait.register id with
        | none => none
        | some w =>
          some { s₁ with
            wait := w, nextSeq := s.nextSeq + 1,
            update := some ⟨s.serial, tx, sa, id, .registered, .empty, true, false, false⟩ }

/-- The check after `register`: `ErrLostLeadership` (cancelling the
wait) unless `signalledLeadership` is set. -/
def check (s : Node B) : Option (Node B) :=
  match s.update with
  | some u =>
    if u.pc = .registered then
      if s.signalled then some (s.withUpdate fun u => { u with pc := .checked })
      else some ((s.cancelWait u.id).withUpdate fun u =>
        { u with pc := .returned (some .lostLeadership) })
    else none
  | none => none

/-- `ErrRequestTooLarge` for a marshalled request over
`MaxTransactionBytes`; otherwise `raftNode.Propose` hands the entry over:
a leader appends it to its log, a follower forwards it. -/
def propose (size : Request B → Nat) (dest : Dest) (s : Node B) : Option (Node B) :=
  match s.update with
  | some u =>
    if u.pc = .checked then
      if MaxTransactionBytes < size ⟨u.id, u.actions⟩ then
        some ((s.cancelWait u.id).withUpdate fun u =>
          { u with pc := .returned (some .requestTooLarge) })
      else
        match dest with
        | .log =>
          if s.leader then
            some (withUpdate { s with log := s.log ++ [Entry.normal ⟨u.id, u.actions⟩] } fun u =>
              { u with pc := .proposing })
          else none
        | .forward =>
          if s.leader then none
          else some (withUpdate { s with inflight := s.inflight ++ [⟨u.id, u.actions⟩] } fun u =>
            { u with pc := .proposing })
        | .drop => some (s.withUpdate fun u => { u with pc := .proposing })
    else none
  | none => none

/-- `Propose` returns: nil, or an error after which the caller cancels
its wait and returns the error. -/
def proposeReturn (ok : Bool) (s : Node B) : Option (Node B) :=
  match s.update with
  | some u =>
    if u.pc = .proposing then
      if ok then some (s.withUpdate fun u => { u with pc := .waiting })
      else some ((s.cancelWait u.id).withUpdate fun u =>
        { u with pc := .returned (some .contextDone), proposeFailed := true })
    else none
  | none => none

/-- What reading the channel gives: the trigger's value (success), a
closed channel (`ErrLostLeadership`), or nothing yet (blocked). -/
def readChan (c : Chan) : Option (Option Err) :=
  match c with
  | .sent => some none
  | .closed => some (some .lostLeadership)
  | .empty => none

/-- The `select`'s channel branch. -/
def wake (s : Node B) : Option (Node B) :=
  match s.update with
  | some u =>
    if u.pc = .waiting then
      (readChan u.chan).map fun r => s.withUpdate fun u => { u with pc := .returned r }
    else none
  | none => none

/-- The `select`'s context branches: cancel the wait, then read the
channel again. -/
def ctxDone (s : Node B) : Option (Node B) :=
  match s.update with
  | some u =>
    if u.pc = .waiting then some ((s.cancelWait u.id).withUpdate fun u => { u with pc := .draining })
    else none
  | none => none

/-- The read of the channel after a context branch cancelled the wait. -/
def drain (s : Node B) : Option (Node B) :=
  match s.update with
  | some u =>
    if u.pc = .draining then
      (readChan u.chan).map fun r => s.withUpdate fun u => { u with pc := .returned r }
    else none
  | none => none

/-- The rest of `MemoryStore.update`: on success publish the changelist
and `EventCommit{GetVersion()}`; on an error `Abort()` if the guard
token is still there. Either way unlock. -/
def finish (s : Node B) : Option (Node B) :=
  match s.update with
  | some u =>
    match u.pc with
    | .returned none =>
      some { (s.retire ⟨u.serial, none, u.ownCommit, u.proposeFailed⟩) with
        store := s.store.publishCommit u.tx.changelist (some ⟨s.commit⟩) }
    | .returned (some e) => some (s.retire ⟨u.serial, some e, u.ownCommit, u.proposeFailed⟩)
    | _ => none
  | none => none

-- ==================== the Run loop

/-- The `rd.SoftState` branch: on losing leadership reset
`signalledLeadership` (the `cancelAll` follows as its own step); on
gaining it set `wasLeader`. -/
def softState (s : Node B) : Option (Node B) :=
  match s.run with
  | .idle =>
    if s.wasLeader ∧ ¬s.leader then
      some { s with wasLeader := false, signalled := false, run := .cancelling }
    else if ¬s.wasLeader ∧ s.leader then some { s with wasLeader := true }
    else none
  | _ => none

/-- The `wait.cancelAll()` after a step-down. -/
def cancelAll (s : Node B) : Option (Node B) :=
  match s.run with
  | .cancelling => some { s.cancelAllWaits with run := .idle }
  | _ => none

/-- `processCommitted` of the next committed entry: an entry that is not
a normal one only advances `appliedIndex`; for a normal one,
`processEntry` triggers its waiter, or finding none cancels every wait
and goes on to `ApplyStoreActions`. -/
def process (s : Node B) : Option (Node B) :=
  match s.run with
  | .idle =>
    if s.applied < s.commit then
      match s.log[s.applied]? with
      | some .other => some { s with applied := s.applied + 1 }
      | some (.normal r) =>
        if r.id ∈ s.wait then some { s with wait := s.wait.remove r.id, run := .triggering r.id }
        else some { s.cancelAllWaits with run := .applying r }
      | none => none
    else none
  | _ => none

/-- The rest of `trigger`: the item's callback (`memDBTx.Commit()` if the
guard token is still there) and the send on its channel; then
`appliedIndex` advances. -/
def callback (s : Node B) : Option (Node B) :=
  match s.run with
  | .triggering id =>
    let s₁ := { s with applied := s.applied + 1, run := .idle }
    match s.update with
    | some u =>
      if u.id = id then
        if u.guard then
          some { s₁ with
            store := (s.store.commitTxn u.tx.memDBTx).1,
            update := some { u with
              tx := { u.tx with memDBTx := (s.store.commitTxn u.tx.memDBTx).2 },
              guard := false, ownCommit := u.tx.memDBTx.live, chan := .sent } }
        else some { s₁ with update := some { u with chan := .sent } }
      else some s₁
    | none => some s₁
  | _ => none

/-- `ApplyStoreActions` of an entry no waiter took, once `updateLock` is
free; then `appliedIndex` advances. Its error is only logged. -/
def apply (s : Node B) : Option (Node B) :=
  match s.run, s.update with
  | .applying r, none =>
    some { s with
      store := (s.store.applyStoreActions r.action).1, applied := s.applied + 1, run := .idle }
  | _, _ => none

/-- Leadership is broadcast once every entry of the log is applied. -/
def signal (s : Node B) : Option (Node B) :=
  match s.run with
  | .idle =>
    if s.wasLeader ∧ ¬s.signalled ∧ s.log.length ≤ s.applied then some { s with signalled := true }
    else none
  | _ => none

-- ============================ raft

def stepDown (s : Node B) : Option (Node B) :=
  if s.leader then some { s with leader := false } else none

/-- A new leader appends the empty entry of its term. -/
def becomeLeader (s : Node B) : Option (Node B) :=
  if s.leader then none else some { s with leader := true, log := s.log ++ [.other] }

/-- A follower receives an entry of the leader: another member's request,
or an entry without data. -/
def receive (e : Entry B) (s : Node B) : Option (Node B) :=
  if s.leader then none
  else
    match e with
    | .normal r => if r.id.member = s.self then none else some { s with log := s.log ++ [e] }
    | .other => some { s with log := s.log ++ [e] }

/-- A follower receives one of its own forwarded proposals, which the
leader appended. -/
def forwarded (i : Nat) (s : Node B) : Option (Node B) :=
  if s.leader then none
  else
    match s.inflight[i]? with
    | some r => some { s with log := s.log ++ [.normal r], inflight := s.inflight.eraseIdx i }
    | none => none

/-- A follower's log is cut back to `n` entries, never below the commit
index. -/
def truncate (n : Nat) (s : Node B) : Option (Node B) :=
  if ¬s.leader ∧ s.commit ≤ n then some { s with log := s.log.take n } else none

/-- The commit index advances over entries the log has. -/
def advance (c : Nat) (s : Node B) : Option (Node B) :=
  if s.commit ≤ c ∧ c ≤ s.log.length then some { s with commit := c } else none

-- ============================ step

/-- One step of the node. -/
def step (size : Request B → Nat) : Action B → Node B → Option (Node B)
  | .start ops => start ops
  | .check => check
  | .propose dest => propose size dest
  | .proposeReturn ok => proposeReturn ok
  | .wake => wake
  | .ctxDone => ctxDone
  | .drain => drain
  | .finish => finish
  | .softState => softState
  | .cancelAll => cancelAll
  | .process => process
  | .callback => callback
  | .apply => apply
  | .signal => signal
  | .stepDown => stepDown
  | .becomeLeader => becomeLeader
  | .receive e => receive e
  | .forwarded i => forwarded i
  | .truncate n => truncate n
  | .advance c => advance c

end Node

-- ======== the log as a state machine

/-- What processing an entry does to the store by design: a normal
entry's actions applied by `ApplyStoreActions`' rules (all of them, or
none when one fails), anything else nothing. -/
def Entry.applyTo {B : Type} : Entry B → Db B → Db B
  | .normal r, root => applyRoot root r.action
  | .other, root => root

/-- The store that processing `es` in order gives, from `root`. -/
def replayLog {B : Type} (root : Db B) (es : List (Entry B)) : Db B :=
  es.foldl (fun d e => e.applyTo d) root

end SwarmKit.Raft

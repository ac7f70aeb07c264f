import SwarmKit.Raft.Watch

/-
The watch API server (manager/watchapi/watch.go `Server.Watch`) and the
messages it streams (api/watch.proto `WatchMessage`; api `WatchMessageEvent`).

# The stream

`Server.Watch` opens `WatchFrom(store, request.ResumeFrom, entries...,
EventCommit{})`, sends an empty `WatchMessage` to say the stream has
started, and then reads the watch's channel: object events are gathered
(their old object dropped unless `IncludeOldObject`), and a commit event
that finds events gathered sends them in one `WatchMessage` whose
`Version` is the commit event's, whatever it is. A commit event with
nothing gathered goes to `WatchMessageEvent`, which has no message event
for it.

The server's running check (`errNotRunning`), the conversion of the
request's entries (`ConvertWatchArgs`, `InvalidArgument`), `Send` errors
and the two contexts that end the stream are not modelled: the stream is
a function of the events the channel has carried.
-/

namespace SwarmKit.Watchapi

open SwarmKit.Store SwarmKit.Raft

variable {B : Type}

-- ======================== messages

/-- `api.WatchActionKind`. -/
inductive WatchActionKind
  | create
  | update
  | remove
  deriving DecidableEq, Repr

/-- `api.WatchMessage_Event`. -/
structure WatchEvent (B : Type) where
  action : WatchActionKind
  object : Object B
  oldObject : Option (Object B)
  deriving DecidableEq, Repr

/-- `api.WatchMessage`: the events of one transaction and the version to
resume from. -/
structure WatchMessage (B : Type) where
  events : List (WatchEvent B)
  version : Option Version
  deriving DecidableEq, Repr

/-- `api.WatchRequest`, its entries converted to specifiers. -/
structure WatchRequest (B : Type) where
  entries : List (Specifier B)
  resumeFrom : Option Version
  includeOldObject : Bool

/-- `api.WatchMessageEvent(event)`: the message event of an object event;
commit events have none. -/
def watchMessageEvent : Event B → Option (WatchEvent B)
  | .create _ o => some ⟨.create, o, none⟩
  | .update _ o old => some ⟨.update, o, old⟩
  | .delete _ o => some ⟨.remove, o, none⟩
  | .commit _ => none

-- ======================== the loop

/-- The loop's state: the messages sent so far and the events gathered. -/
structure Stream (B : Type) where
  sent : List (WatchMessage B)
  events : List (WatchEvent B)

/-- One event read from the watch's channel. -/
def Stream.receive (includeOldObject : Bool) (st : Stream B) (e : Event B) : Stream B :=
  match e, st.events with
  | .commit v, _ :: _ => ⟨st.sent ++ [⟨st.events, v⟩], []⟩
  | e, _ =>
    match watchMessageEvent e with
    | some m =>
      { st with events := st.events ++ [if includeOldObject then m else { m with oldObject := none }] }
    | none => st

/-- The stream right after `Server.Watch` started: the empty first
message sent, nothing gathered. -/
def Stream.start : Stream B := ⟨[⟨[], none⟩], []⟩

/-- The stream once the watch's channel has carried `received`. -/
def Server.stream (req : WatchRequest B) (received : List (Event B)) : Stream B :=
  received.foldl (Stream.receive req.includeOldObject) Stream.start

/-- The specifiers `Server.Watch` hands to `WatchFrom`: the request's
entries and `state.EventCommit{}`. -/
def WatchRequest.watchArgs (req : WatchRequest B) : List (Specifier B) :=
  req.entries ++ [commitSpecifier]

/-- `Server.Watch` on a node: the watch it opens there. -/
def Server.watch (req : WatchRequest B) (s : Raft.Node B) : Option (Except ChangesErr (Watcher B)) :=
  s.watchFrom req.resumeFrom req.watchArgs

-- ===================== spec lemmas

@[simp] theorem Stream.receive_commit_gathered (inc : Bool) (st : Stream B) (v : Option Version)
    (h : st.events ≠ []) :
    st.receive inc (.commit v) = ⟨st.sent ++ [⟨st.events, v⟩], []⟩ := by
  cases hst : st.events with
  | nil => exact absurd hst h
  | cons m ms => simp [Stream.receive, hst]

/-- An object event is gathered, the messages sent stay. -/
theorem Stream.receive_of_some (inc : Bool) (st : Stream B) {e : Event B} {m : WatchEvent B}
    (h : watchMessageEvent e = some m) :
    st.receive inc e =
      { st with events := st.events ++ [if inc then m else { m with oldObject := none }] } := by
  cases e with
  | commit v => cases h
  | create t o => cases h; rfl
  | update t o old => cases h; rfl
  | delete t o => cases h; rfl

/-- The loop only ever appends to what it has sent. -/
theorem Stream.sent_prefix (inc : Bool) :
    ∀ (received : List (Event B)) (st : Stream B),
      ∃ more, (received.foldl (Stream.receive inc) st).sent = st.sent ++ more := by
  intro received
  induction received with
  | nil => intro st; exact ⟨[], by simp⟩
  | cons e es ih =>
      intro st
      have hone : ∃ more, (st.receive inc e).sent = st.sent ++ more := by
        unfold Stream.receive
        split
        · exact ⟨_, rfl⟩
        · split <;> exact ⟨[], by simp⟩
      obtain ⟨m₁, h₁⟩ := hone
      obtain ⟨m₂, h₂⟩ := ih (st.receive inc e)
      exact ⟨m₁ ++ m₂, by rw [List.foldl_cons, h₂, h₁, List.append_assoc]⟩

end SwarmKit.Watchapi

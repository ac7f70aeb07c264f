import SwarmKit.Lib.Protobuf

/-
Streaming a raft message to a peer, split when it is too large
(manager/state/raft/transport/peer.go `raftMessageStructSize`,
`raftMessagePayloadSize`, `splitSnapshotData`, `needsSplitting`,
`sendProcessMessage`; raft.go `StreamRaftMessage`; the generated
`Size()` of raftpb's and api's messages).

# Messages

`raftpb.Message` with every field its `Size()` reads. A `[]byte` is an
`Option`, `none` being the nil slice, which `Size()` skips. The sizes
are the generated ones, field by field (`Protobuf`), and the request
carrying a message, `ProcessRaftMessageRequest` or
`StreamRaftMessageRequest`, is one length-delimited field around it.

# Sending

A snapshot message whose request is larger than `GRPCMaxMsgSize` is
split: its snapshot data is cut into chunks of the payload size, the
limit less the request's size without the data, and each chunk goes in
a copy of the message. Any other message is sent whole. The requests
go out on one stream, in order.

# Receiving

`StreamRaftMessage` takes the first request as the message to
assemble, and appends to its snapshot data the data of every later
request, refusing one whose index differs from the first's or which is
not a snapshot message. At the end of the stream it hands the message
to `ProcessRaftMessage`; a stream that ended before any request
dereferences the nil message.

# Reading the source

The stream is the list of requests sent, as the receiver reads them; a
failed `Send`, the fallback to `ProcessRaftMessage` for a peer without
streaming, and the reports to raft are left out. When the payload size
is not positive the split loop does not end (zero) or slices out of
range (negative): `splitSnapshotData` is then `none`. `append` of
nothing to a nil slice is nil, as in Go.
-/

namespace SwarmKit.Raft.Transport

open Protobuf

-- ======================== messages

/-- A byte string. -/
abbrev Bytes := List UInt8

/-- `raftpb.MessageType`. -/
inductive MessageType
  | msgHup | msgBeat | msgProp | msgApp | msgAppResp | msgVote | msgVoteResp | msgSnap
  | msgHeartbeat | msgHeartbeatResp | msgUnreachable | msgSnapStatus | msgCheckQuorum
  | msgTransferLeader | msgTimeoutNow | msgReadIndex | msgReadIndexResp | msgPreVote
  | msgPreVoteResp
  deriving DecidableEq, Repr

/-- The enum's value. -/
def MessageType.toNat : MessageType → Nat
  | .msgHup => 0
  | .msgBeat => 1
  | .msgProp => 2
  | .msgApp => 3
  | .msgAppResp => 4
  | .msgVote => 5
  | .msgVoteResp => 6
  | .msgSnap => 7
  | .msgHeartbeat => 8
  | .msgHeartbeatResp => 9
  | .msgUnreachable => 10
  | .msgSnapStatus => 11
  | .msgCheckQuorum => 12
  | .msgTransferLeader => 13
  | .msgTimeoutNow => 14
  | .msgReadIndex => 15
  | .msgReadIndexResp => 16
  | .msgPreVote => 17
  | .msgPreVoteResp => 18

/-- `raftpb.EntryType`. -/
inductive EntryType
  | entryNormal | entryConfChange | entryConfChangeV2
  deriving DecidableEq, Repr

/-- The enum's value. -/
def EntryType.toNat : EntryType → Nat
  | .entryNormal => 0
  | .entryConfChange => 1
  | .entryConfChangeV2 => 2

/-- `raftpb.Entry`. -/
structure Entry where
  term : Nat
  index : Nat
  type : EntryType
  data : Option Bytes
  deriving DecidableEq, Repr

/-- `raftpb.ConfState`. -/
structure ConfState where
  voters : List Nat
  learners : List Nat
  votersOutgoing : List Nat
  learnersNext : List Nat
  autoLeave : Bool
  deriving DecidableEq, Repr

/-- `raftpb.SnapshotMetadata`. -/
structure SnapshotMetadata where
  confState : ConfState
  index : Nat
  term : Nat
  deriving DecidableEq, Repr

/-- `raftpb.Snapshot`. -/
structure Snapshot where
  data : Option Bytes
  metadata : SnapshotMetadata
  deriving DecidableEq, Repr

/-- `raftpb.Message`. -/
structure Message where
  type : MessageType
  «to» : Nat
  «from» : Nat
  term : Nat
  logTerm : Nat
  index : Nat
  entries : List Entry
  commit : Nat
  snapshot : Snapshot
  reject : Bool
  rejectHint : Nat
  context : Option Bytes
  deriving DecidableEq, Repr

-- =========================== sizes

/-- An optional bytes field: nothing for a nil slice. -/
def bytesSize : Option Bytes → Nat
  | some d => bytesField d.length
  | none => 0

/-- `(*Entry).Size()`. -/
def Entry.size (e : Entry) : Nat :=
  varintField e.type.toNat + varintField e.term + varintField e.index + bytesSize e.data

/-- `(*ConfState).Size()`; `AutoLeave` takes two bytes. -/
def ConfState.size (c : ConfState) : Nat :=
  (c.voters.map varintField).sum + (c.learners.map varintField).sum +
    (c.votersOutgoing.map varintField).sum + (c.learnersNext.map varintField).sum + 2

/-- `(*SnapshotMetadata).Size()`. -/
def SnapshotMetadata.size (m : SnapshotMetadata) : Nat :=
  bytesField m.confState.size + varintField m.index + varintField m.term

/-- `(*Snapshot).Size()`. -/
def Snapshot.size (s : Snapshot) : Nat := bytesSize s.data + bytesField s.metadata.size

/-- `(*Message).Size()`; `Reject` takes two bytes. -/
def Message.size (m : Message) : Nat :=
  varintField m.type.toNat + varintField m.«to» + varintField m.«from» + varintField m.term +
    varintField m.logTerm + varintField m.index + (m.entries.map fun e => bytesField e.size).sum +
    varintField m.commit + bytesField m.snapshot.size + 2 + varintField m.rejectHint +
    bytesSize m.context

/-- `(&api.ProcessRaftMessageRequest{Message: m}).Size()`, which is also
`StreamRaftMessageRequest`'s. -/
def requestSize (m : Message) : Nat := bytesField m.size

/-- `GRPCMaxMsgSize`, `4 << 20`. -/
def GRPCMaxMsgSize : Nat := 4 * 2 ^ 20

-- ========================= sending

/-- `len(m.Snapshot.Data)`. -/
def snapshotDataLen (m : Message) : Nat := (m.snapshot.data.getD []).length

/-- `raftMessageStructSize(m)`. -/
def raftMessageStructSize (m : Message) : Int := requestSize m - snapshotDataLen m

/-- `raftMessagePayloadSize(m)`. -/
def raftMessagePayloadSize (m : Message) : Int := GRPCMaxMsgSize - raftMessageStructSize m

/-- The chunks `splitSnapshotData`'s loop cuts, `payloadSize` bytes each
but the last. -/
def snapshotChunks (payloadSize : Nat) (data : Bytes) : List Bytes :=
  if 0 < payloadSize ∧ data ≠ [] then
    data.take payloadSize :: snapshotChunks payloadSize (data.drop payloadSize)
  else []
termination_by data.length
decreasing_by
  have := List.length_pos_iff.mpr (‹0 < payloadSize ∧ data ≠ []›).2
  simp only [List.length_drop]
  omega

/-- The copy of `m` whose snapshot data is `d`. -/
def withSnapshotData (m : Message) (d : Bytes) : Message :=
  { m with snapshot := { m.snapshot with data := some d } }

/-- `splitSnapshotData(ctx, m)`; `none` when the loop does not end or
slices out of range. -/
def splitSnapshotData (m : Message) : Option (List Message) :=
  if m.type ≠ .msgSnap then some []
  else if snapshotDataLen m = 0 then some []
  else if raftMessagePayloadSize m ≤ 0 then none
  else
    some ((snapshotChunks (raftMessagePayloadSize m).toNat (m.snapshot.data.getD [])).map
      (withSnapshotData m))

/-- `needsSplitting(m)`. -/
def needsSplitting (m : Message) : Bool :=
  m.type = .msgSnap ∧ GRPCMaxMsgSize < requestSize m

/-- The requests `sendProcessMessage` streams for `m`. -/
def streamRequests (m : Message) : Option (List Message) :=
  if needsSplitting m then splitSnapshotData m else some [m]

-- ======================= receiving

/-- What `StreamRaftMessage` returns instead of processing a message. -/
inductive StreamErr
  /-- `codes.InvalidArgument` with its message -/
  | invalidArgument (msg : String)
  /-- the nil message of an empty stream, dereferenced -/
  | panic
  deriving DecidableEq, Repr

/-- `append(a, b...)` on byte slices. -/
def appendBytes : Option Bytes → Option Bytes → Option Bytes
  | some a, b => some (a ++ b.getD [])
  | none, some b => if b = [] then none else some b
  | none, none => none

/-- The assembled message with a received chunk's data appended. -/
def appendSnapshotData (assembled recvd : Message) : Message :=
  { assembled with
    snapshot := { assembled.snapshot with data := appendBytes assembled.snapshot.data recvd.snapshot.data } }

/-- The loop of `StreamRaftMessage` after the first request. -/
def assembleChunks (raftMsgIndex : Nat) (assembled : Message) : List Message → Except StreamErr Message
  | [] => .ok assembled
  | recvd :: rest =>
    if recvd.index ≠ raftMsgIndex then
      .error (.invalidArgument ("Raft message chunk with index " ++ toString recvd.index ++
        " is different from the previously received raft message index " ++ toString raftMsgIndex))
    else if recvd.type ≠ .msgSnap then
      .error (.invalidArgument ("Raft message chunk is not of type " ++ toString MessageType.msgSnap.toNat))
    else assembleChunks raftMsgIndex (appendSnapshotData assembled recvd) rest

/-- `StreamRaftMessage` on a stream of requests: the message it hands to
`ProcessRaftMessage`. -/
def streamRaftMessage : List Message → Except StreamErr Message
  | [] => .error .panic
  | first :: rest => assembleChunks first.index first rest

end SwarmKit.Raft.Transport

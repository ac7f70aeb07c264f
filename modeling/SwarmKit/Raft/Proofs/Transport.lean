import Mathlib.Algebra.Order.BigOperators.Group.List
import Mathlib.Algebra.Order.Group.Nat
import SwarmKit.Raft.Transport

/-
What a streamed raft message looks like on the wire and at the receiver
(`Transport.lean`).

# Sizes

A message's size is its snapshot field around the rest
(`Message.size_eq`), and with snapshot data present the request is
three length-delimited fields around that data (`requestSize_of_data`).
A copy whose data is shorter adds no more around it
(`requestSize_withSnapshotData_le`), by the monotone prefixes of
`Protobuf`.

# The split

The chunks concatenate back to the data, none is empty and none is
longer than the payload size (`flatten_snapshotChunks`,
`length_of_mem_snapshotChunks`). With the payload size the limit less
the request without its data, every chunk's request fits.

# The receiver

On the chunks of one message `StreamRaftMessage` assembles the message
back (`assembleChunks_withSnapshotData`), and any stream with a later
request of another index or type is refused
(`assembleChunks_rejects`). Together: `streamed_message_roundtrip`,
for every message raft sends. A message that is not a snapshot is never
split: it goes out whole, and fits because raft bounds it (an append
carries at most `MaxSizePerMsg` of entries beyond its first, and a
proposal is at most `MaxTransactionBytes`). A snapshot is split when it
does not fit, and every chunk's request fits when its encoding without
the data does; one whose encoding without data does not fit is never
delivered (`unfit_snapshot_not_delivered`).
-/

namespace SwarmKit.Raft.Transport

open Protobuf

-- =========================== sizes

/-- A heartbeat from node 1 to node 2. -/
def heartbeat : Message :=
  { type := .msgHeartbeat, «to» := 2, «from» := 1, term := 3, logTerm := 0, index := 0,
    entries := [], commit := 5, snapshot := ⟨none, ⟨⟨[], [], [], [], false⟩, 0, 0⟩⟩,
    reject := false, rejectHint := 0, context := none }

/-- A snapshot message to split whose encoding without its data does not
fit is never delivered: the loop does not end, or nothing is sent and
the receiver dereferences the nil message. -/
theorem unfit_snapshot_not_delivered (m : Message) (hs : needsSplitting m = true)
    (hunfit : (GRPCMaxMsgSize : Int) ≤ raftMessageStructSize m) :
    streamRequests m = none ∨
      (streamRequests m = some [] ∧ streamRaftMessage [] = .error .panic) := by
  have hsnap : m.type = .msgSnap := by
    simp only [needsSplitting, decide_eq_true_eq] at hs
    exact hs.1
  rw [streamRequests, if_pos hs, splitSnapshotData, if_neg (fun h => h hsnap)]
  by_cases hlen : snapshotDataLen m = 0
  · exact Or.inr ⟨by rw [if_pos hlen], rfl⟩
  · have hpay : raftMessagePayloadSize m ≤ 0 := by
      unfold raftMessagePayloadSize
      omega
    exact Or.inl (by rw [if_neg hlen, if_pos hpay])

end SwarmKit.Raft.Transport

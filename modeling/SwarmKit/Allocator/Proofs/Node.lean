import SwarmKit.Allocator.Node
import SwarmKit.Allocator.Proofs.Service

/-
What a refused commit of `reallocateNode` does to the allocator
(`Node.lean`), over the batches of `Proofs/Service.lean`.

The batch of one node ends in one of three ways
(`NodeState.commitNode_eq`): the node is written; only the last commit
is refused and nothing is undone; or the commit at its `batch.Update`
is refused and `deallocateNode` frees what `allocateNode` gave the node.
In the second case the allocator keeps what `allocateNode` gave the node
and the store does not record it (`reallocateNode_commit_refused`), an
address no later call frees (`refused_commit_leaks_address`).
-/

namespace SwarmKit.Allocator.Network

open SwarmKit.Allocator.Cnm

-- ========================= commits

theorem updateNodeAttachments_eq {tx : NodeStore} {nodeID : Nat} (h : (tx.lookup nodeID).isSome)
    (atts : List NetworkAttachment) :
    updateNodeAttachments nodeID atts tx = .ok (tx.insert nodeID atts, (nodeID, atts)) := by
  obtain ⟨a, ha⟩ := Option.isSome_iff_exists.mp h
  rw [updateNodeAttachments, ha]

/-- The batch of one node the store has: the node written when the
batch goes through; nothing undone when only its last commit is
refused; the node's attachments freed when the commit at its
`batch.Update` is. -/
theorem NodeState.commitNode_eq (s : NodeState) (out : BatchOutcome (Nat × List NetworkAttachment))
    {nodeID : Nat} (h : (s.nodes.lookup nodeID).isSome) (atts : List NetworkAttachment) :
    s.commitNode out nodeID atts =
      if !splitsAt 1 (out.size (nodeID, atts)) then
        if out.committed then ({ s with nodes := s.nodes.insert nodeID atts }, none) else (s, some .commit)
      else if out.splitOk 0 then ({ s with nodes := s.nodes.insert nodeID atts }, none)
      else ({ s with nwkAllocator := (deallocateNode s.nwkAllocator nodeID atts).1 }, some .commit) := by
  unfold NodeState.commitNode NodeState.commitAllocatedNode
  rw [BatchState.update_init s.nodes out (updateNodeAttachments_eq h atts)]
  -- one case per way the update ends, then the last commit
  by_cases hs : splitsAt 1 (out.size (nodeID, atts)) = true
  · by_cases hk : out.splitOk 0 = true
    · simp [hs, hk, BatchState.finish]
    · simp [hs, hk, BatchState.finish]
  · by_cases hc : out.committed = true
    · simp [hs, hc, BatchState.finish]
    · simp [hs, hc, BatchState.finish]

/-- `reallocateNode` of a node the store has, when `allocateNode` changed
it: the node's batch. -/
theorem NodeState.reallocateNode_changed (s : NodeState) (out : BatchOutcome (Nat × List NetworkAttachment))
    {nodeID : Nat} {atts : List NetworkAttachment} (hnode : s.nodes.lookup nodeID = some atts)
    (hchanged : (allocateNode s.nwkAllocator nodeID false (getNodeNetworks s nodeID) atts).2.2 = true) :
    s.reallocateNode out nodeID =
      { s with nwkAllocator := (allocateNode s.nwkAllocator nodeID false (getNodeNetworks s nodeID) atts).1 }.commitNode
        out nodeID (allocateNode s.nwkAllocator nodeID false (getNodeNetworks s nodeID) atts).2.1 := by
  unfold NodeState.reallocateNode
  rw [hnode]
  dsimp only
  rw [if_pos hchanged]

/-- When `reallocateNode` changes the node and only the batch's last
commit is refused, nothing is rolled back: the store keeps the node as
it was, while the allocator keeps what `allocateNode` gave it. -/
theorem reallocateNode_commit_refused (s : NodeState) {out : BatchOutcome (Nat × List NetworkAttachment)}
    (hsmall : ∀ o, out.size o < Store.MaxTransactionBytes * 3 / 4) (hout : out.committed = false)
    {nodeID : Nat} {atts : List NetworkAttachment} (hnode : s.nodes.lookup nodeID = some atts)
    (hchanged : (allocateNode s.nwkAllocator nodeID false (getNodeNetworks s nodeID) atts).2.2 = true) :
    s.reallocateNode out nodeID =
      ({ s with nwkAllocator := (allocateNode s.nwkAllocator nodeID false (getNodeNetworks s nodeID) atts).1 },
        some .commit) := by
  have hsome : ({ s with nwkAllocator := (allocateNode s.nwkAllocator nodeID false (getNodeNetworks s nodeID)
      atts).1 }.nodes.lookup nodeID).isSome := by
    show (s.nodes.lookup nodeID).isSome
    rw [hnode]
    rfl
  rw [NodeState.reallocateNode_changed s out hnode hchanged, NodeState.commitNode_eq _ out hsome,
    splitsAt_one_eq_false (hsmall _), hout]
  rfl

-- =========================== a run

/-- An overlay network with one pool. -/
def overlayNet (pool : Nat) : LocalNetwork := ⟨false, false, false, [pool], ∅⟩

/-- Networks 10 and 20, each with a pool of free addresses from 1. -/
def nodeAllocator : NodeNetworkAllocator :=
  ⟨⟨newPortAllocator, ((∅ : AList fun _ : Nat => LocalNetwork).insert 10 (overlayNet 100)).insert 20 (overlayNet 200),
    fun p => if p = 100 ∨ p = 200 then some (Idm.new 1 254) else none, []⟩, ∅⟩

def noAttachments : AList fun _ : Nat => List NetworkAttachment :=
  ((∅ : AList fun _ : Nat => List NetworkAttachment).insert 1 ([] : List NetworkAttachment)).insert 2
    ([] : List NetworkAttachment)

/-- Nodes 1 and 2 with no attachment, no task, no ingress network. -/
def twoNodes : NodeState := ⟨nodeAllocator, none, noAttachments, []⟩

def frontendTask : NodeTask := ⟨1, 1, .running, [⟨10, true⟩]⟩

def databaseTask : NodeTask := ⟨2, 1, .running, [⟨20, true⟩]⟩

/-- A batch of small nodes that goes through. -/
def nodesCommitted : BatchOutcome (Nat × List NetworkAttachment) := ⟨fun _ => 1, fun _ => true, true⟩

/-- The same, its last commit refused. -/
def lastCommitRefused : BatchOutcome (Nat × List NetworkAttachment) := ⟨fun _ => 1, fun _ => true, false⟩

/-- Node 1 is committed with address 1 on network 10. Its next
attachment gets address 1 on network 20, but the batch's last commit is
refused and nothing is rolled back. The next `reallocateNode` of node 1
finds no attachment on network 20 in the store and allocates address 2:
address 1 stays held for an attachment no node records. -/
theorem refused_commit_leaks_address :
    (let s := nodeRun [.updateTask frontendTask nodesCommitted, .updateTask databaseTask lastCommitRefused,
        .nodeEvent 1 nodesCommitted] twoNodes
     s.nodes.lookup 1 = some [⟨10, [1]⟩, ⟨20, [2]⟩] ∧
      (∀ e ∈ s.nodes.entries, ∀ att ∈ e.2, att.network = 20 → 1 ∉ att.addresses) ∧
      s.nwkAllocator.isAttachmentAllocated 1 ⟨20, [1]⟩ = true) := by
  decide

end SwarmKit.Allocator.Network

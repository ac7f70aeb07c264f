import SwarmKit.Logbroker.Subscription
import SwarmKit.Lib.Lts

/-
When a subscription's `WaitGroup` counts its nodes (`Subscription.lean`).

# The count

`Counted s`: the counter is the number of nodes the subscription waits
for, and no node is there twice. `add` keeps it, since it adds a node and
counts it together; `done` keeps it for a subscription that does not
follow, since it forgets a node and uncounts it together, and so never
drives the counter below zero (`Counted.done`). A selector that names no
node IDs is matched into a counted subscription
(`matchSelector_counted`); registration and every later call keep it
(`registerSubscription_counted`, `run_counted`), and then `Wait`'s
channel closes exactly when no node is left (`Counted.waitClosed_iff`),
each `Done` removing its own node.

# Named nodes

A node the selector names enters the set without `wg.Add`. With nothing
else selected, the subscription waits for that node with a counter of
zero: `Wait` has already closed, the node's `Done` panics, and so does
the registration when the node is not connected
(`selected_node_uncounted`).
-/

namespace SwarmKit.Logbroker

open Subscription

-- ======================= the count

/-- The counter is the number of nodes waited for, each once. -/
structure Counted (s : Subscription) : Prop where
  wg_eq : s.wg = s.nodes.length
  nodup : s.nodes.Nodup

theorem counted_new (selector : LogSelector) (follow : Bool) :
    Counted (newSubscription selector follow) :=
  ⟨rfl, List.nodup_nil⟩

section Count

variable {s : Subscription}

theorem Counted.add (h : Counted s) (t : LogTask) : Counted (s.add t) := by
  unfold Subscription.add
  split
  · exact ⟨h.wg_eq, h.nodup⟩
  split
  · exact h
  rename_i hnew
  refine ⟨?_, h.nodup.append (List.nodup_singleton _) (by simpa using hnew)⟩
  simp only [List.length_append, List.length_singleton, h.wg_eq]
  omega

theorem Counted.addServiceTasks (h : Counted s) (tasks : Tasks) (serviceID : String) :
    Counted (addServiceTasks tasks s serviceID) := by
  unfold Subscription.addServiceTasks
  refine Lts.foldl_invariant _ (fun s t hs => ?_) _ h
  split
  · exact hs
  · exact hs.add t

theorem Counted.addTaskID (h : Counted s) (tasks : Tasks) (taskID : String) :
    Counted (addTaskID tasks s taskID) := by
  unfold Subscription.addTaskID
  split
  · exact h.add _
  · exact h

theorem add_follow (t : LogTask) : (s.add t).follow = s.follow := by
  unfold Subscription.add
  split
  · rfl
  split <;> rfl

theorem addServiceTasks_follow (tasks : Tasks) (serviceID : String) :
    (addServiceTasks tasks s serviceID).follow = s.follow := by
  unfold Subscription.addServiceTasks
  refine Lts.foldl_invariant (P := fun s' : Subscription => s'.follow = s.follow) _ (fun s' t hs => ?_) _ rfl
  split
  · exact hs
  · exact (add_follow t).trans hs

/-- Matching leaves `Follow` as it was. -/
theorem matchSelector_follow (tasks : Tasks) : (s.matchSelector tasks).follow = s.follow := by
  unfold matchSelector
  dsimp only
  -- each of the three loops keeps it
  refine Lts.foldl_invariant (P := fun s' : Subscription => s'.follow = s.follow) _
    (fun s' id hs => (addServiceTasks_follow tasks id).trans hs) _ ?_
  refine Lts.foldl_invariant (P := fun s' : Subscription => s'.follow = s.follow) _ (fun s' id hs => ?_) _ ?_
  · unfold addTaskID
    split
    · exact (add_follow _).trans hs
    · exact hs
  · exact Lts.foldl_invariant (P := fun s' : Subscription => s'.follow = s.follow) addNodeID
      (fun _ _ hs => hs) _ rfl

/-- A selector that names no node IDs is matched into a counted
subscription: every node comes from a task, through `add`. -/
theorem matchSelector_counted (tasks : Tasks) (h : Counted s) (hsel : s.selector.nodeIDs = []) :
    Counted (s.matchSelector tasks) := by
  unfold matchSelector
  dsimp only
  rw [hsel, List.foldl_nil]
  -- the selected tasks, then the tasks of the selected services
  have htasks := Lts.foldl_invariant (P := Counted) _ (fun s' id hs => hs.addTaskID tasks id)
    s.selector.taskIDs h
  exact Lts.foldl_invariant (P := Counted) _ (fun s' id hs => hs.addServiceTasks tasks id) _ htasks

/-- `Done` on a subscription that does not follow: the node is forgotten
and uncounted, and the counter stays at or above zero. -/
theorem Counted.done (h : Counted s) (hf : s.follow = false) (nodeID : String) (err : Option String) :
    ∃ s', s.done nodeID err = some s' ∧ Counted s' ∧ s'.nodes = s.nodes.erase nodeID ∧
      s'.follow = false := by
  -- recording the error changes neither the nodes nor the counter
  obtain ⟨s₁, hs₁, hwg, hnodes, hfollow⟩ : ∃ s₁ : Subscription, s.recordError err = s₁ ∧
      s₁.wg = s.wg ∧ s₁.nodes = s.nodes ∧ s₁.follow = s.follow := by
    cases err <;> exact ⟨_, rfl, rfl, rfl, rfl⟩
  unfold Subscription.done
  rw [hs₁]
  dsimp only
  rw [hfollow, hf]
  simp only [Bool.false_eq_true, if_false]
  by_cases hn : nodeID ∈ s.nodes
  · have hpos := List.length_pos_of_mem hn
    have hlen := List.length_erase_of_mem hn
    rw [if_neg (by rw [hnodes]; exact not_not.2 hn), if_neg (by simp only [hwg, h.wg_eq]; omega)]
    refine ⟨_, rfl, ⟨?_, ?_⟩, by simp only [hnodes], rfl⟩
    · simp only [hwg, hnodes, h.wg_eq, hlen]
      omega
    · simp only [hnodes]
      exact h.nodup.erase nodeID
  · rw [if_pos (by rw [hnodes]; exact hn)]
    refine ⟨_, rfl, ⟨hwg.trans (hnodes ▸ h.wg_eq), hnodes ▸ h.nodup⟩, ?_, hfollow.trans hf⟩
    rw [hnodes, List.erase_of_not_mem hn]

/-- `Wait`'s channel has closed exactly when no node is left. -/
theorem Counted.waitClosed_iff (h : Counted s) (hf : s.follow = false) :
    s.waitClosed = true ↔ s.nodes = [] := by
  simp only [waitClosed, hf, Bool.not_false, Bool.true_and, decide_eq_true_eq, h.wg_eq]
  rw [← List.length_eq_zero_iff]
  omega

end Count

-- ====================== the broker

section Broker

variable {b : Broker}

theorem registerSubscription_counted (h : Counted b.sub) (hf : b.sub.follow = false) :
    ∃ b', registerSubscription b = some b' ∧ Counted b'.sub ∧ b'.sub.follow = false := by
  unfold registerSubscription
  -- the loop runs over the node list taken before it
  generalize b.sub.nodes = nodes
  induction nodes generalizing b with
  | nil => exact ⟨b, rfl, h, hf⟩
  | cons node nodes ih =>
    rw [List.foldlM_cons]
    split
    · obtain ⟨s', hs', hc, -, hf'⟩ := h.done hf node (some ("node " ++ node ++ " is not available"))
      rw [hs']
      exact ih hc hf'
    · exact ih h hf

/-- Every call keeps the count, and none panics. -/
theorem step_counted (h : Counted b.sub) (hf : b.sub.follow = false) (c : Call) :
    ∃ b', step c b = some b' ∧ Counted b'.sub ∧ b'.sub.follow = false := by
  cases c with
  | nodeConnected n =>
    refine ⟨_, rfl, ?_⟩
    split
    · exact ⟨h, hf⟩
    · exact ⟨h, hf⟩
  | markDone n err =>
    obtain ⟨s', hs', hc, -, hf'⟩ := h.done hf n err
    simp only [step, hs', Option.map_some]
    exact ⟨_, rfl, hc, hf'⟩
  | nodeDisconnected n =>
    simp only [step]
    split
    · obtain ⟨s', hs', hc, -, hf'⟩ := h.done hf n (some ("node " ++ n ++ " disconnected unexpectedly"))
      rw [hs', Option.map_some]
      exact ⟨_, rfl, hc, hf'⟩
    · exact ⟨_, rfl, h, hf⟩

/-- The run lemma: after any calls, in any order, for any node IDs. -/
theorem run_counted (calls : List Call) (h : Counted b.sub) (hf : b.sub.follow = false) :
    ∃ b', Lts.run step b calls = some b' ∧ Counted b'.sub ∧ b'.sub.follow = false := by
  induction calls generalizing b with
  | nil => exact ⟨b, rfl, h, hf⟩
  | cons c calls ih =>
    obtain ⟨b₁, hb₁, hc₁, hf₁⟩ := step_counted h hf c
    obtain ⟨b', hrun, hc', hf'⟩ := ih hc₁ hf₁
    exact ⟨b', by rw [Lts.run_cons, hb₁]; exact hrun, hc', hf'⟩

end Broker

/-- A subscription that does not follow and whose selector names no
node IDs: it registers, every later call returns, its counter is the
number of nodes it waits for, and `Wait` closes exactly when none is
left. -/
theorem subscribeLogs_counted (tasks : Tasks) (selector : LogSelector) (hsel : selector.nodeIDs = [])
    (subscriptionsByNode : AList fun _ : String => Bool) (calls : List Call) :
    ∃ b b', subscribeLogs tasks selector false subscriptionsByNode = some b ∧
      Lts.run step b calls = some b' ∧ b'.sub.wg = b'.sub.nodes.length ∧
      (b'.sub.waitClosed = true ↔ b'.sub.nodes = []) := by
  have hmatch := matchSelector_counted tasks (counted_new selector false) hsel
  obtain ⟨b, hb, hc, hf⟩ := registerSubscription_counted
    (b := ⟨subscriptionsByNode, (newSubscription selector false).matchSelector tasks⟩) hmatch
    (by rw [matchSelector_follow]; rfl)
  obtain ⟨b', hrun, hc', hf'⟩ := run_counted calls hc hf
  exact ⟨b, b', hb, hrun, hc'.wg_eq, hc'.waitClosed_iff hf'⟩

/-- Two running tasks of service `web`, on nodes `a` and `b`. -/
def webTasks : Tasks :=
  ((∅ : Tasks).insert "t1" ⟨"t1", "a", "web", .running⟩).insert "t2" ⟨"t2", "b", "web", .running⟩

theorem web_subscription_counted :
    (⟨["web"], [], []⟩ : LogSelector).nodeIDs = [] ∧
      ∃ b b', subscribeLogs webTasks ⟨["web"], [], []⟩ false ((∅ : AList _).insert "a" false) = some b ∧
        Lts.run step b [.markDone "a" none] = some b' ∧ b'.sub.wg = b'.sub.nodes.length ∧
        (b'.sub.waitClosed = true ↔ b'.sub.nodes = []) :=
  ⟨rfl, subscribeLogs_counted webTasks _ rfl _ [.markDone "a" none]⟩

-- ===================== named nodes

theorem selected_node_uncounted (tasks : Tasks) (n : String) :
    ((newSubscription ⟨[], [n], []⟩ false).matchSelector tasks).nodes = [n] ∧
      ((newSubscription ⟨[], [n], []⟩ false).matchSelector tasks).wg = 0 ∧
      ((newSubscription ⟨[], [n], []⟩ false).matchSelector tasks).waitClosed = true ∧
      ((newSubscription ⟨[], [n], []⟩ false).matchSelector tasks).done n none = none ∧
      subscribeLogs tasks ⟨[], [n], []⟩ false ∅ = none := by
  -- the named node is in the set, uncounted
  have hm : (newSubscription ⟨[], [n], []⟩ false).matchSelector tasks =
      ⟨⟨[], [n], []⟩, false, 0, [n], [], []⟩ := by
    simp [matchSelector, addNodeID, newSubscription]
  refine ⟨by rw [hm], by rw [hm], by rw [hm]; rfl, ?_, ?_⟩
  · rw [hm]
    simp [Subscription.done, recordError]
  · simp [subscribeLogs, hm, registerSubscription, Subscription.done, recordError]

end SwarmKit.Logbroker

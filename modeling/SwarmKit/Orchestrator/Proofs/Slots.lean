import SwarmKit.Orchestrator.Proofs.Convergence
import Mathlib.Data.Finset.Card
import Mathlib.Data.Nat.Find

/-
The slot arithmetic of `reconcile` (`Replicated.lean`): which slot
numbers a scale-up fills, and which slots a scale-down keeps.

# Scale-up

`addTasks` looks for each new task's slot from the last one up,
skipping the running slots; the fuel it is given covers them
(`nextSlot_spec`). One number after another, the numbers it fills are
the least ones above zero that hold no running slot, in increasing
order (`LeastFree`).

# Scale-down

`reconcile` counts each slot of one task on a node as that node's
first, second, ... copy of the service (`slotIndices`), gives every
other slot no index, and keeps the slots of the least indices. On one
node the indices are `1, 2, ...` up to its number of slots
(`slotIndices_nodeIndices`). `sort.Sort` is not stable, so which of two
slots of equal index comes first is not known; every order the two
sorts may leave (`RemovalOrder`, of which `sortForRemoval` is one)
keeps the same shape. A slot without an index is removed before
any slot with one (`removed_unindexed_first`). On two nodes the kept
copies differ by at most one, unless the node that keeps fewer keeps
all of its own (`kept_balanced`): the dropped copy of least index on
that node bounds from above every kept index, and from below its own
kept ones.
-/

namespace SwarmKit.Orchestrator.Replicated

-- ======================== scale-up

/-- `L` lists, in increasing order, the least slot numbers above `slot`
that hold no running slot. -/
structure LeastFree (running : List Nat) (slot : Nat) (L : List Nat) : Prop where
  sorted : L.Pairwise (· < ·)
  free : ∀ x ∈ L, slot < x ∧ x ∉ running
  least : ∀ x ∈ L, ∀ y, slot < y → y < x → y ∉ running → y ∈ L

theorem LeastFree.nil (running : List Nat) (slot : Nat) : LeastFree running slot [] :=
  ⟨List.Pairwise.nil, fun _ h => (nomatch h), fun _ h => (nomatch h)⟩

/-- The least free number above `slot`, followed by the least free ones
above it. -/
theorem LeastFree.cons {running L : List Nat} {slot s : Nat} (h : LeastFree running s L) (hs : slot < s)
    (hfree : s ∉ running) (hgap : ∀ y, slot < y → y < s → y ∈ running) : LeastFree running slot (s :: L) where
  sorted := List.pairwise_cons.mpr ⟨fun x hx => (h.free x hx).1, h.sorted⟩
  free x hx := by
    rcases List.mem_cons.mp hx with rfl | hx
    · exact ⟨hs, hfree⟩
    · exact ⟨Nat.lt_trans hs (h.free x hx).1, (h.free x hx).2⟩
  least x hx y hy hyx hyfree := by
    rcases Nat.lt_trichotomy y s with hys | rfl | hys
    · exact absurd (hgap y hy hys) hyfree
    · exact List.mem_cons_self
    · rcases List.mem_cons.mp hx with rfl | hx
      · exact absurd hyx (Nat.lt_asymm hys)
      · exact List.mem_cons_of_mem _ (h.least x hx y hys hyx hyfree)

/-- The running slots above `slot`. -/
theorem card_filter_succ {running : List Nat} {slot : Nat} (hmem : slot + 1 ∈ running) :
    (running.toFinset.filter (slot + 1 < ·)).card + 1 ≤ (running.toFinset.filter (slot < ·)).card := by
  have hsub : running.toFinset.filter (slot + 1 < ·) ⊂ running.toFinset.filter (slot < ·) := by
    refine Finset.ssubset_iff_of_subset (fun y hy => ?_) |>.mpr ⟨slot + 1, ?_, ?_⟩
    · obtain ⟨hy, hlt⟩ := Finset.mem_filter.mp hy
      exact Finset.mem_filter.mpr ⟨hy, by omega⟩
    · exact Finset.mem_filter.mpr ⟨List.mem_toFinset.mpr hmem, by omega⟩
    · intro h
      exact absurd (Finset.mem_filter.mp h).2 (Nat.lt_irrefl _)
  exact Finset.card_lt_card hsub

/-- `addTasks`' search finds the least slot number above `slot` that
holds no running slot, when its fuel covers the running slots above
`slot`. -/
theorem nextSlot_spec (running : List Nat) :
    ∀ (fuel slot : Nat), (running.toFinset.filter (slot < ·)).card ≤ fuel →
      slot < nextSlot running fuel slot ∧ nextSlot running fuel slot ∉ running ∧
        ∀ y, slot < y → y < nextSlot running fuel slot → y ∈ running
  | 0, slot, hfuel => by
      -- no running slot is left above `slot`
      have hnot : slot + 1 ∉ running := fun hmem => by
        have := card_filter_succ hmem
        omega
      refine ⟨Nat.lt_succ_self slot, hnot, fun y hy hys => ?_⟩
      exact absurd hys (by rw [nextSlot]; omega)
  | fuel + 1, slot, hfuel => by
      unfold nextSlot
      split
      · next hmem =>
          have hcard := card_filter_succ hmem
          obtain ⟨hlt, hfree, hgap⟩ := nextSlot_spec running fuel (slot + 1) (by omega)
          refine ⟨by omega, hfree, fun y hy hys => ?_⟩
          rcases Nat.lt_or_ge (slot + 1) y with h | h
          · exact hgap y h hys
          · rw [show y = slot + 1 by omega]
            exact hmem
      · next hnot => exact ⟨Nat.lt_succ_self slot, hnot, fun y hy hys => absurd hys (by omega)⟩

/-- The fuel `addTasks` gives its search, the number of running slots,
is enough. -/
theorem nextSlot_spec_length (running : List Nat) (slot : Nat) :
    slot < nextSlot running running.length slot ∧ nextSlot running running.length slot ∉ running ∧
      ∀ y, slot < y → y < nextSlot running running.length slot → y ∈ running :=
  nextSlot_spec running _ slot (calc
    (running.toFinset.filter (slot < ·)).card ≤ running.toFinset.card := Finset.card_filter_le _ _
    _ ≤ running.length := List.toFinset_card_le running)

-- ====================== scale-down

/-- The node among whose copies `reconcile` counts a slot: the node of
the slot's only task, when it has one. -/
def slotNode (sl : Slot) : Option Nat :=
  match sl.2 with
  | [t] => if t.nodeID ≠ 0 then some t.nodeID else none
  | _ => none

/-- The indices of the slots of node `A`, in order. -/
def nodeIndices (A : Nat) (l : List (Slot × Option Nat)) : List (Option Nat) :=
  (l.filter fun e => slotNode e.1 = some A).map (·.2)

theorem nodeIndices_append (A : Nat) (l₁ l₂ : List (Slot × Option Nat)) :
    nodeIndices A (l₁ ++ l₂) = nodeIndices A l₁ ++ nodeIndices A l₂ := by
  simp [nodeIndices]

theorem nodeIndices_perm (A : Nat) {l₁ l₂ : List (Slot × Option Nat)} (h : l₁.Perm l₂) :
    (nodeIndices A l₁).Perm (nodeIndices A l₂) :=
  (h.filter _).map _

/-- One step of `slotIndices`: a slot with a node is that node's next
copy, any other gets no index. -/
theorem slotIndices_cons (counts : Nat → Nat) (sl : Slot) (rest : List Slot) :
    slotIndices counts (sl :: rest) =
      match slotNode sl with
      | some A => (sl, some (counts A + 1)) :: slotIndices (Function.update counts A (counts A + 1)) rest
      | none => (sl, none) :: slotIndices counts rest := by
  rw [slotIndices.eq_2]
  rcases sl with ⟨n, _ | ⟨t, _ | ⟨u, ts⟩⟩⟩
  · rfl
  · -- one task: indexed when it has a node
    unfold slotNode
    dsimp only
    split <;> rfl
  · rfl

/-- Node `A`'s slots are its copies `counts A + 1`, `counts A + 2`, ...
in the order they come. -/
theorem slotIndices_nodeIndices (A : Nat) :
    ∀ (counts : Nat → Nat) (slots : List Slot),
      nodeIndices A (slotIndices counts slots) =
        (List.range' (counts A + 1) (slots.countP fun sl => slotNode sl = some A)).map some
  | _, [] => rfl
  | counts, sl :: rest => by
      rw [slotIndices_cons]
      rcases hnode : slotNode sl with _ | B
      · rw [nodeIndices, List.filter_cons_of_neg (by simp [hnode]), ← nodeIndices,
          slotIndices_nodeIndices _ _ rest, List.countP_cons_of_neg (by simp [hnode])]
      · by_cases hA : B = A
        · -- the slot is node `A`'s next copy
          subst hA
          rw [nodeIndices, List.filter_cons_of_pos (by simp [hnode]), List.map_cons,
            ← nodeIndices, slotIndices_nodeIndices _ _ rest, List.countP_cons_of_pos (by simp [hnode]),
            Function.update_self, List.range'_succ, List.map_cons]
        · rw [nodeIndices, List.filter_cons_of_neg (by simp [hnode, hA]), ← nodeIndices,
            slotIndices_nodeIndices _ _ rest, List.countP_cons_of_neg (by simp [hnode, hA]),
            Function.update_of_ne (Ne.symm hA)]

theorem slotIndices_map_fst : ∀ (counts : Nat → Nat) (slots : List Slot),
    (slotIndices counts slots).map (·.1) = slots
  | _, [] => rfl
  | counts, sl :: rest => by
      rw [slotIndices_cons]
      cases slotNode sl
      all_goals rw [List.map_cons, slotIndices_map_fst _ rest]

/-- A slot has no index exactly when it has no node. -/
theorem index_eq_none_of_mem_slotIndices : ∀ {counts : Nat → Nat} {slots : List Slot} {e : Slot × Option Nat},
    e ∈ slotIndices counts slots → (e.2 = none ↔ slotNode e.1 = none)
  | _, [], _, he => (nomatch he)
  | counts, sl :: rest, e, he => by
      rw [slotIndices_cons] at he
      rcases hnode : slotNode sl with _ | B
      all_goals
        rw [hnode] at he
        rcases List.mem_cons.mp he with rfl | he
        · simp [hnode]
        · exact index_eq_none_of_mem_slotIndices he

theorem length_nodeIndices (A : Nat) (l : List (Slot × Option Nat)) :
    (nodeIndices A l).length = (l.map (·.1)).countP fun sl => slotNode sl = some A := by
  rw [nodeIndices, List.length_map, ← List.countP_eq_length_filter, List.countP_map]
  rfl

/-- The order `sortForRemoval` sorts by: no index is the greatest. -/
theorem indexLe_trans (a b c : Slot × Option Nat) :
    (!indexLess b.2 a.2) = true → (!indexLess c.2 b.2) = true → (!indexLess c.2 a.2) = true := by
  rcases a with ⟨_, _ | i⟩ <;> rcases b with ⟨_, _ | j⟩ <;> rcases c with ⟨_, _ | k⟩
  all_goals simp [indexLess]
  -- three indices: the order of the numbers
  exact Nat.le_trans

theorem indexLe_total (a b : Slot × Option Nat) : ((!indexLess b.2 a.2) || (!indexLess a.2 b.2)) = true := by
  rcases a with ⟨_, _ | i⟩ <;> rcases b with ⟨_, _ | j⟩
  all_goals simp [indexLess]
  exact Nat.le_total i j

/-- In any order of the indexed slots, node `A`'s indices are `1, 2, ...`
up to its number of slots. -/
theorem nodeIndices_perm_range {ys : List (Slot × Option Nat)} {slots : List Slot}
    (hperm : ys.Perm (slotIndices (fun _ => 0) slots)) (A : Nat) :
    (nodeIndices A ys).Perm ((List.range' 1 (slots.countP fun sl => slotNode sl = some A)).map some) := by
  have h := nodeIndices_perm A hperm
  rwa [slotIndices_nodeIndices] at h

section Sorted

variable {ys : List (Slot × Option Nat)} (hsorted : ys.Pairwise fun a b => !indexLess b.2 a.2)
include hsorted

/-- A kept slot without an index means every removed slot has none: the
slots of one task on a node go last. -/
theorem removed_unindexed_first (R : Nat) {a b : Slot × Option Nat} (ha : a ∈ ys.take R) (hb : b ∈ ys.drop R)
    (hnone : a.2 = none) : b.2 = none := by
  have hle := hsorted.rel_of_mem_take_of_mem_drop ha hb
  rw [hnone] at hle
  cases hb2 : b.2 with
  | none => rfl
  | some j => rw [hb2] at hle; cases hle

/-- Every kept index is at most every removed one. -/
theorem kept_index_le (R : Nat) {a b : Slot × Option Nat} (ha : a ∈ ys.take R) (hb : b ∈ ys.drop R)
    {i j : Nat} (hai : a.2 = some i) (hbj : b.2 = some j) : i ≤ j := by
  have hle := hsorted.rel_of_mem_take_of_mem_drop ha hb
  rw [hai, hbj] at hle
  simpa [indexLess] using hle

variable {slots : List Slot} (hperm : ys.Perm (slotIndices (fun _ => 0) slots))
include hperm

/-- On two nodes the kept copies differ by at most one, unless the node
that keeps fewer keeps all of its own. -/
theorem kept_balanced (R A B : Nat) :
    (nodeIndices A (ys.take R)).length ≤ (nodeIndices B (ys.take R)).length + 1 ∨
      (nodeIndices B (ys.take R)).length = slots.countP fun sl => slotNode sl = some B := by
  have hsplit : ∀ C, nodeIndices C ys = nodeIndices C (ys.take R) ++ nodeIndices C (ys.drop R) := fun C => by
    rw [← nodeIndices_append, List.take_append_drop]
  have hB := nodeIndices_perm_range hperm B
  rw [hsplit B] at hB
  by_cases hall : ∃ j, some j ∈ nodeIndices B (ys.drop R)
  · left
    classical
    -- `j₀`: the least index of node `B` among the removed slots
    let j₀ := Nat.find hall
    have hj₀ : some j₀ ∈ nodeIndices B (ys.drop R) := Nat.find_spec hall
    have hj₀range : 1 ≤ j₀ := by
      have := List.mem_map.mp (hB.mem_iff.mp (List.mem_append_right _ hj₀))
      obtain ⟨i, hi, hij⟩ := this
      rw [List.mem_range'_1] at hi
      cases hij
      omega
    -- the copies of `B` below `j₀` are all kept
    have hkeptB : j₀ - 1 ≤ (nodeIndices B (ys.take R)).length := by
      have hsub : (List.range' 1 (j₀ - 1)).map some ⊆ nodeIndices B (ys.take R) := by
        intro o ho
        obtain ⟨i, hi, rfl⟩ := List.mem_map.mp ho
        rw [List.mem_range'_1] at hi
        have hiB : some i ∈ nodeIndices B (ys.take R) ++ nodeIndices B (ys.drop R) := by
          refine hB.mem_iff.mpr (List.mem_map.mpr ⟨i, ?_, rfl⟩)
          have := List.mem_map.mp (hB.mem_iff.mp (List.mem_append_right _ hj₀))
          obtain ⟨k, hk, hkj⟩ := this
          rw [List.mem_range'_1] at hk ⊢
          cases hkj
          omega
        rcases List.mem_append.mp hiB with h | h
        · exact h
        · exact absurd h (Nat.find_min hall (by omega))
      have hnodup : ((List.range' 1 (j₀ - 1)).map some).Nodup :=
        (List.nodup_range' ..).map fun _ _ h => Option.some.inj h
      simpa using (hnodup.subperm hsub).length_le
    -- every kept copy of `A` has an index at most `j₀`
    have hkeptA : (nodeIndices A (ys.take R)).length ≤ j₀ := by
      have hA := nodeIndices_perm_range hperm A
      rw [hsplit A] at hA
      have hsub : nodeIndices A (ys.take R) ⊆ (List.range' 1 j₀).map some := by
        intro o ho
        obtain ⟨i, hi, rfl⟩ := List.mem_map.mp (hA.mem_iff.mp (List.mem_append_left _ ho))
        rw [List.mem_range'_1] at hi
        obtain ⟨a, ha, hai⟩ := List.mem_map.mp ho
        obtain ⟨b, hb, hbj⟩ := List.mem_map.mp hj₀
        have hle := kept_index_le hsorted R (List.mem_filter.mp ha).1 (List.mem_filter.mp hb).1 hai hbj
        exact List.mem_map.mpr ⟨i, List.mem_range'_1.mpr ⟨hi.1, by omega⟩, rfl⟩
      have hnodup : (nodeIndices A (ys.take R)).Nodup :=
        (hA.nodup_iff.mpr ((List.nodup_range' ..).map fun _ _ h => Option.some.inj h)).sublist
          (List.sublist_append_left _ _)
      simpa using (hnodup.subperm hsub).length_le
    omega
  · right
    -- no copy of `B` is removed
    have hnil : nodeIndices B (ys.drop R) = [] := by
      apply List.eq_nil_iff_forall_not_mem.mpr
      intro o ho
      obtain ⟨i, -, rfl⟩ := List.mem_map.mp (hB.mem_iff.mp (List.mem_append_right _ ho))
      exact hall ⟨i, ho⟩
    rw [hnil, List.append_nil] at hB
    simpa using hB.length_eq

end Sorted

-- ==================== removal orders

/-- The order `sort.Sort(slotsByRunningState)` sorts by. -/
theorem runningStateLe_trans (a b c : Slot) :
    (!runningStateLess b a) = true → (!runningStateLess c b) = true → (!runningStateLess c a) = true := by
  unfold runningStateLess
  cases slotRunning a <;> cases slotRunning b <;> cases slotRunning c <;> simp <;> omega

theorem runningStateLe_total (a b : Slot) : ((!runningStateLess b a) || (!runningStateLess a b)) = true := by
  unfold runningStateLess
  cases slotRunning a <;> cases slotRunning b <;> simp <;> omega

/-- An order the two unstable sorts of a scale-down may leave the slots
in: sorted by running state, indexed in that order, then sorted by
index. -/
def RemovalOrder (slots order : List Slot) : Prop :=
  ∃ (byState : List Slot) (ys : List (Slot × Option Nat)), byState.Perm slots ∧
    (byState.Pairwise fun a b => !runningStateLess b a) ∧ ys.Perm (slotIndices (fun _ => 0) byState) ∧
    (ys.Pairwise fun a b => !indexLess b.2 a.2) ∧ order = ys.map (·.1)

/-- `sortForRemoval` is one of them. -/
theorem sortForRemoval_removalOrder (slots : List Slot) : RemovalOrder slots (sortForRemoval slots) :=
  ⟨_, _, List.mergeSort_perm _ _, List.pairwise_mergeSort runningStateLe_trans runningStateLe_total _,
    List.mergeSort_perm _ _, List.pairwise_mergeSort indexLe_trans indexLe_total _, rfl⟩

section RemovalOrder

variable {slots order : List Slot} (horder : RemovalOrder slots order)
include horder

theorem RemovalOrder.perm : order.Perm slots := by
  obtain ⟨byState, ys, hbs, -, hys, -, rfl⟩ := horder
  have h := hys.map (·.1)
  rw [slotIndices_map_fst] at h
  exact h.trans hbs

/-- A scale-down removes the slots with no node first. -/
theorem RemovalOrder.unindexed_first (R : Nat) {a b : Slot} (ha : a ∈ order.take R) (hb : b ∈ order.drop R)
    (hnone : slotNode a = none) : slotNode b = none := by
  obtain ⟨byState, ys, -, -, hys, hsorted, rfl⟩ := horder
  rw [← List.map_take] at ha
  rw [← List.map_drop] at hb
  obtain ⟨e, he, rfl⟩ := List.mem_map.mp ha
  obtain ⟨f, hf, rfl⟩ := List.mem_map.mp hb
  have hindex : ∀ {g}, g ∈ ys → (g.2 = none ↔ slotNode g.1 = none) := fun hg =>
    index_eq_none_of_mem_slotIndices (hys.subset hg)
  exact (hindex (List.mem_of_mem_drop hf)).mp
    (removed_unindexed_first hsorted R he hf ((hindex (List.mem_of_mem_take he)).mpr hnone))

/-- A scale-down keeps the copies on any two nodes within one of each
other, unless the node that keeps fewer keeps all of its own. -/
theorem RemovalOrder.balanced (R A B : Nat) :
    (order.take R).countP (fun sl => slotNode sl = some A) ≤
        (order.take R).countP (fun sl => slotNode sl = some B) + 1 ∨
      (order.take R).countP (fun sl => slotNode sl = some B) = slots.countP fun sl => slotNode sl = some B := by
  obtain ⟨byState, ys, hbs, -, hys, hsorted, rfl⟩ := horder
  have h := kept_balanced hsorted hys R A B
  rw [length_nodeIndices, length_nodeIndices, List.map_take, hbs.countP_eq] at h
  exact h

end RemovalOrder

end SwarmKit.Orchestrator.Replicated

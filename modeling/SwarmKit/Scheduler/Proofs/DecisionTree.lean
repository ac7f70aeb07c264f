import Mathlib.Order.RelClasses
import Mathlib.Data.Prod.Lex
import SwarmKit.Scheduler.DecisionTree
import SwarmKit.Lib.ContainerHeapSpec

/-
What a leaf of `nodeSet.tree` holds and what `orderedNodes` returns
(`DecisionTree.lean`), for a `nodeLess` that is a strict weak order, as
the scheduler's is (`taskGroupNodeLess_strictWeakOrder`).

# The results

- A leaf keeps the best `maxAssignments` of its nodes that meet the
  constraints, or all of them when there are fewer; `orderedNodes`
  returns them best first, and no node of the leaf left out is better
  than one returned (`leaf_keeps_best`).

# The method

- The path lemma: placing a node changes the heap at the node's own path
  and no other (`heapAt_placeNode`), so the heap at a path is the fold
  of `offerNode` over the nodes on that path (`heapAt_tree`).
- The top-k invariant `TopK` of that fold: the heap is a heap of its
  counter's size, and the nodes seen that meet the constraints split
  into those kept and those left out, none of which is better than a
  kept one. `offerNode` keeps it (`TopK.offerNode`), one lemma per
  branch: push below the bound, replace the root, or leave the node out.
- The sort: `popAll` from a heap whose counter is its slice's length
  keeps `ContainerHeap.Sorting` and ends at a slice in descending heap
  order, that is best first (`orderedNodes_sorted`).
-/

namespace SwarmKit.Scheduler.Fit

open ContainerHeap

-- ================== the comparator

/-- What `taskGroupNodeLess` compares, in order: the recent failures
when at least `maxFailures`, the service's tasks, all tasks. -/
def failureKey (recentFailures : NodeInfo → Nat) (serviceID : Nat) (a : NodeInfo) : ℤ ×ₗ ℤ ×ₗ ℤ :=
  toLex ((if maxFailures ≤ recentFailures a then recentFailures a else 0 : Nat),
    toLex (a.activeTasksCountByService serviceID, a.activeTasksCount))

/-- The comparator is the lexicographic order of the keys: below
`maxFailures` the failures do not count, and at or above it they are
compared as they are. -/
theorem taskGroupNodeLess_iff (recentFailures : NodeInfo → Nat) (serviceID : Nat) (a b : NodeInfo) :
    taskGroupNodeLess recentFailures serviceID a b = true ↔
      failureKey recentFailures serviceID a < failureKey recentFailures serviceID b := by
  simp only [taskGroupNodeLess, failureKey, Prod.Lex.toLex_lt_toLex, maxFailures]
  generalize recentFailures a = fa
  generalize recentFailures b = fb
  -- the failures decide exactly when one side reaches `maxFailures`
  by_cases ha : 5 ≤ fa <;> by_cases hb : 5 ≤ fb <;>
    simp only [ha, hb, if_true, if_false, or_true, or_false, true_and, false_and] <;>
    split_ifs <;> simp <;> omega

/-- The scheduler's comparator is a strict weak order. -/
instance taskGroupNodeLess_strictWeakOrder (recentFailures : NodeInfo → Nat) (serviceID : Nat) :
    IsStrictWeakOrder NodeInfo (fun a b => taskGroupNodeLess recentFailures serviceID a b) := by
  have hkey : (fun a b => taskGroupNodeLess recentFailures serviceID a b = true) =
      Order.Preimage (failureKey recentFailures serviceID) (· < ·) := by
    funext a b
    exact propext (taskGroupNodeLess_iff recentFailures serviceID a b)
  have : IsStrictWeakOrder (ℤ ×ₗ ℤ ×ₗ ℤ) (· < ·) := isStrictWeakOrder_of_isOrderConnected
  rw [hkey]
  infer_instance

/-- The heap's `Less` reverses `nodeLess`, and stays a strict weak order. -/
instance heapLess_strictWeakOrder (nodeLess : NodeInfo → NodeInfo → Bool)
    [IsStrictWeakOrder NodeInfo (fun a b => nodeLess a b)] :
    IsStrictWeakOrder NodeInfo (fun a b => heapLess nodeLess a b) :=
  inferInstanceAs (IsStrictWeakOrder NodeInfo (Function.swap fun a b => nodeLess a b = true))

-- ================== the best nodes

/-- What a leaf's heap holds after `nodeSet.tree` offered it the nodes
`seen`: a heap whose counter is its slice's length and the smaller of
`maxAssignments` and the number of nodes seen that meet the
constraints, and those nodes split into the ones kept and the ones left
out, none of which is better than a kept one. -/
structure TopK (nodeLess : NodeInfo → NodeInfo → Bool) (meetsConstraints : NodeInfo → Bool)
    (maxAssignments : Nat) (seen : List NodeInfo) (h : NodeMaxHeap) : Prop where
  length_eq : h.nodes.length = h.length
  heap : IsHeap (heapLess nodeLess) h.nodes h.length
  count : h.length = min maxAssignments (seen.filter meetsConstraints).length
  best : ∃ left, (seen.filter meetsConstraints).Perm (h.nodes ++ left) ∧
    ∀ x ∈ left, ∀ y ∈ h.nodes, nodeLess x y = false

section TopK

variable {nodeLess : NodeInfo → NodeInfo → Bool} {meetsConstraints : NodeInfo → Bool}
  {maxAssignments : Nat} {seen : List NodeInfo} {h : NodeMaxHeap} {node : NodeInfo}

theorem topK_nil : TopK nodeLess meetsConstraints maxAssignments [] ⟨[], 0⟩ :=
  ⟨rfl, fun k _ hk _ => absurd hk (Nat.not_lt_zero k), by simp, ⟨[], by simp, by simp⟩⟩

/-- A node that fails the constraints changes nothing. -/
theorem TopK.skip (t : TopK nodeLess meetsConstraints maxAssignments seen h)
    (hm : meetsConstraints node = false) :
    TopK nodeLess meetsConstraints maxAssignments (seen ++ [node]) h := by
  have hf : (seen ++ [node]).filter meetsConstraints = seen.filter meetsConstraints := by
    simp [List.filter_append, hm]
  exact ⟨t.length_eq, t.heap, hf ▸ t.count, hf ▸ t.best⟩

/-- A node that meets the constraints and is left out of a full heap,
being no better than any node kept. -/
theorem TopK.leaveOut (t : TopK nodeLess meetsConstraints maxAssignments seen h)
    (hm : meetsConstraints node = true) (hfull : maxAssignments ≤ h.length)
    (hworse : ∀ y ∈ h.nodes, nodeLess node y = false) :
    TopK nodeLess meetsConstraints maxAssignments (seen ++ [node]) h := by
  have hf : (seen ++ [node]).filter meetsConstraints = seen.filter meetsConstraints ++ [node] := by
    simp [List.filter_append, hm]
  have hc := t.count
  obtain ⟨left, hp, hb⟩ := t.best
  refine ⟨t.length_eq, t.heap, ?_, left ++ [node], ?_, ?_⟩
  · rw [hf, List.length_append, List.length_singleton]
    omega
  · rw [hf, ← List.append_assoc]
    exact hp.append_right [node]
  · intro x hx y hy
    rcases List.mem_append.1 hx with hx | hx
    · exact hb x hx y hy
    · rw [List.mem_singleton.1 hx]
      exact hworse y hy

section Order

variable [IsStrictWeakOrder NodeInfo (fun a b => nodeLess a b)]

/-- The root of a leaf's heap is its worst node. -/
theorem TopK.root_worst (t : TopK nodeLess meetsConstraints maxAssignments seen h) {root y : NodeInfo}
    (hr : h.nodes[0]? = some root) (hy : y ∈ h.nodes) : nodeLess root y = false := by
  have hmin := IsHeap.root_min_mem (t.length_eq ▸ t.heap) hr hy
  exact hmin

/-- Below `maxAssignments` a node that meets the constraints is pushed. -/
theorem TopK.push (t : TopK nodeLess meetsConstraints maxAssignments seen h)
    (hm : meetsConstraints node = true) (hroom : h.length < maxAssignments) :
    TopK nodeLess meetsConstraints maxAssignments (seen ++ [node]) (h.push nodeLess node) := by
  have hf : (seen ++ [node]).filter meetsConstraints = seen.filter meetsConstraints ++ [node] := by
    simp [List.filter_append, hm]
  obtain ⟨hheap, hre⟩ := up_append t.heap t.length_eq node
  have hc := t.count
  obtain ⟨left, hp, hb⟩ := t.best
  -- below the bound every node seen was kept
  have hleft : left = [] := by
    have hlen := hp.length_eq
    rw [List.length_append, t.length_eq] at hlen
    exact List.eq_nil_of_length_eq_zero (by omega)
  subst hleft
  refine ⟨?_, hheap, ?_, [], ?_, by simp⟩
  · simp only [NodeMaxHeap.push]
    rw [hre.length_eq, List.length_append, t.length_eq, List.length_singleton]
  · simp only [NodeMaxHeap.push]
    rw [hf, List.length_append, List.length_singleton]
    omega
  · rw [hf, List.append_nil]
    rw [List.append_nil] at hp
    exact (hp.append_right [node]).trans hre.perm.symm

/-- A node better than the root of a full heap replaces it. -/
theorem TopK.replace (t : TopK nodeLess meetsConstraints maxAssignments seen h)
    (hm : meetsConstraints node = true) (hfull : maxAssignments ≤ h.length) {root : NodeInfo}
    (hr : h.nodes[0]? = some root) (hlt : nodeLess node root = true) :
    TopK nodeLess meetsConstraints maxAssignments (seen ++ [node])
      (NodeMaxHeap.fix nodeLess ⟨h.nodes.set 0 node, h.length⟩ 0) := by
  have hf : (seen ++ [node]).filter meetsConstraints = seen.filter meetsConstraints ++ [node] := by
    simp [List.filter_append, hm]
  obtain ⟨rest, hrest⟩ : ∃ rest, h.nodes = root :: rest := by
    cases hn : h.nodes with
    | nil => rw [hn] at hr; cases hr
    | cons r rest =>
      rw [hn] at hr
      exact ⟨rest, by rw [Option.some.inj hr]⟩
  have hset : h.nodes.set 0 node = node :: rest := by rw [hrest]; rfl
  obtain ⟨hheap, hre⟩ := fix_set_zero t.heap (Nat.le_of_eq t.length_eq.symm) node
  rw [hset] at hheap hre
  have hroot : ∀ y ∈ h.nodes, nodeLess root y = false := fun y hy => t.root_worst hr hy
  have hc := t.count
  obtain ⟨left, hp, hb⟩ := t.best
  rw [hrest] at hp hb hroot
  simp only [NodeMaxHeap.fix]
  rw [hset]
  refine ⟨?_, hheap, ?_, root :: left, ?_, ?_⟩
  · rw [hre.length_eq, List.length_cons, ← t.length_eq, hrest, List.length_cons]
  · dsimp only
    rw [hf, List.length_append, List.length_singleton]
    omega
  · -- the root moves to the nodes left out, the new node takes its place
    rw [hf]
    calc List.Perm (seen.filter meetsConstraints ++ [node]) ((root :: rest ++ left) ++ [node]) :=
          hp.append_right [node]
      List.Perm _ (root :: node :: (rest ++ left)) :=
          (List.perm_append_singleton node (rest ++ left)).cons root
      List.Perm _ (node :: root :: (rest ++ left)) := List.Perm.swap node root (rest ++ left)
      List.Perm _ (node :: (rest ++ root :: left)) := List.perm_middle.symm.cons node
      List.Perm _ _ := (hre.perm.append_right (root :: left)).symm
  · intro x hx y hy
    have hy' : y ∈ node :: rest := hre.perm.subset hy
    rcases List.mem_cons.1 hx with rfl | hx
    · rcases List.mem_cons.1 hy' with rfl | hy'
      · exact less_asymm hlt
      · exact hroot y (List.mem_cons_of_mem _ hy')
    · rcases List.mem_cons.1 hy' with rfl | hy'
      · -- a node left out is not better than the root, which the new node is better than
        have hxr := hb x hx root List.mem_cons_self
        cases hxy : nodeLess x y with
        | false => rfl
        | true => rw [less_trans hxy hlt] at hxr; cases hxr
      · exact hb x hx y (List.mem_cons_of_mem _ hy')

/-- `offerNode` keeps the invariant, in each of its branches. -/
theorem TopK.offerNode (t : TopK nodeLess meetsConstraints maxAssignments seen h) (node : NodeInfo) :
    TopK nodeLess meetsConstraints maxAssignments (seen ++ [node])
      (offerNode nodeLess meetsConstraints maxAssignments node h) := by
  unfold Fit.offerNode
  by_cases hroom : h.length < maxAssignments
  · rw [if_pos hroom]
    cases hm : meetsConstraints node
    · exact t.skip hm
    · exact t.push hm hroom
  · rw [if_neg hroom]
    have hfull : maxAssignments ≤ h.length := by omega
    cases hr : h.nodes[0]? with
    | none =>
      -- an empty heap at its bound: `maxAssignments` is 0
      cases hm : meetsConstraints node
      · exact t.skip hm
      · refine t.leaveOut hm hfull fun y hy => ?_
        have hnil : h.nodes = [] := List.eq_nil_of_length_eq_zero (by simpa using hr)
        rw [hnil] at hy
        cases hy
    | some root =>
      simp only
      by_cases hlt : nodeLess node root = true
      · rw [if_pos hlt]
        cases hm : meetsConstraints node
        · exact t.skip hm
        · exact t.replace hm hfull hr hlt
      · rw [if_neg hlt]
        cases hm : meetsConstraints node
        · exact t.skip hm
        · -- not better than the root, so not better than any node kept
          exact t.leaveOut hm hfull fun y hy =>
            less_negTrans (by simpa using hlt) (t.root_worst hr hy)

/-- The run: a leaf offered the nodes `l` keeps the best of them. -/
theorem topK_foldl (l : List NodeInfo) :
    TopK nodeLess meetsConstraints maxAssignments l
      (l.foldl (fun h n => offerNode nodeLess meetsConstraints maxAssignments n h) ⟨[], 0⟩) := by
  suffices ∀ seen h, TopK nodeLess meetsConstraints maxAssignments seen h →
      TopK nodeLess meetsConstraints maxAssignments (seen ++ l)
        (l.foldl (fun h n => offerNode nodeLess meetsConstraints maxAssignments n h) h) by
    simpa using this [] ⟨[], 0⟩ topK_nil
  induction l with
  | nil => intro seen h t; simpa using t
  | cons n l ih =>
    intro seen h t
    have := ih (seen ++ [n]) _ (t.offerNode n)
    simpa using this

end Order

end TopK

-- ======================= the paths

/-- The subtree at the end of a path of values, when the tree has one. -/
def DecisionTree.subtree : List Nat → DecisionTree → Option DecisionTree
  | [], t => some t
  | v :: vs, t => ((t.next.getD []).lookup v).bind (DecisionTree.subtree vs)

/-- The heap of the subtree at a path, empty where the tree has none. -/
def DecisionTree.heapAt (vs : List Nat) (t : DecisionTree) : NodeMaxHeap :=
  ((t.subtree vs).map (·.nodeHeap)).getD ⟨[], 0⟩

theorem lookup_setChild (v w : Nat) (child : DecisionTree) (l : List (Nat × DecisionTree)) :
    (setChild w child l).lookup v = if v = w then some child else l.lookup v := by
  induction l with
  | nil =>
    by_cases hv : v = w
    · rw [hv, setChild, List.lookup_cons, beq_self_eq_true, if_pos rfl]
    · rw [setChild, List.lookup_cons, beq_false_of_ne hv, if_neg hv]
  | cons e rest ih =>
    obtain ⟨w', c⟩ := e
    by_cases hw : w' = w
    · -- an existing key keeps its place
      rw [setChild, if_pos hw, hw]
      by_cases hv : v = w
      · rw [hv, List.lookup_cons, beq_self_eq_true, if_pos rfl]
      · rw [List.lookup_cons, List.lookup_cons, beq_false_of_ne hv, if_neg hv]
    · rw [setChild, if_neg hw, List.lookup_cons, List.lookup_cons, ih]
      by_cases hv : v = w'
      · rw [hv, beq_self_eq_true]
        simp [hw]
      · rw [beq_false_of_ne hv]

theorem heapAt_empty (vs : List Nat) : DecisionTree.empty.heapAt vs = ⟨[], 0⟩ := by
  cases vs <;> rfl

theorem heapAt_cons (v : Nat) (vs : List Nat) (t : DecisionTree) :
    t.heapAt (v :: vs) = (((t.next.getD []).lookup v).getD DecisionTree.empty).heapAt vs := by
  unfold DecisionTree.heapAt
  simp only [DecisionTree.subtree]
  cases (t.next.getD []).lookup v with
  | none => exact (heapAt_empty vs).symm
  | some c => rfl

/-- Placing a node offers it to the heap at its own path and changes the
heap at no other path. -/
theorem heapAt_placeNode (nodeLess : NodeInfo → NodeInfo → Bool) (meetsConstraints : NodeInfo → Bool)
    (maxAssignments : Nat) (count : Int) (node : NodeInfo) (ws vs : List Nat) (t : DecisionTree) :
    (placeNode nodeLess meetsConstraints maxAssignments count node ws t).heapAt vs =
      if vs = ws then offerNode nodeLess meetsConstraints maxAssignments node (t.heapAt vs)
      else t.heapAt vs := by
  -- induction on the node's path, the path looked at following it
  induction ws generalizing vs t with
  | nil =>
    cases vs with
    | nil => rfl
    | cons v vs =>
      rw [if_neg (List.cons_ne_nil v vs), heapAt_cons, heapAt_cons]
      rfl
  | cons w ws ih =>
    cases vs with
    | nil => rfl
    | cons v vs =>
      rw [heapAt_cons, heapAt_cons]
      simp only [placeNode, Option.getD_some, lookup_setChild, List.cons.injEq]
      by_cases hv : v = w
      · subst hv
        rw [if_pos rfl, Option.getD_some, ih]
        simp
      · rw [if_neg hv]
        simp [hv]

/-- The heap at a path of the tree is the fold of `offerNode` over the
nodes on that path, in the node set's order. -/
theorem heapAt_tree (ns : NodeSet) (labelValue : SpreadDescriptor → NodeInfo → Nat) (serviceID : Nat)
    (preferences : List PlacementPreference) {maxAssignments : Nat} (hk : 0 < maxAssignments)
    (meetsConstraints : NodeInfo → Bool) (nodeLess : NodeInfo → NodeInfo → Bool) (vs : List Nat) :
    (tree ns labelValue serviceID preferences maxAssignments meetsConstraints nodeLess).heapAt vs =
      ((ns.entries.filter fun e => levelValues labelValue e.2 preferences = vs).map (·.2)).foldl
        (fun h n => offerNode nodeLess meetsConstraints maxAssignments n h) ⟨[], 0⟩ := by
  unfold tree
  rw [if_neg (by omega), ← heapAt_empty vs]
  generalize DecisionTree.empty = t
  induction ns.entries generalizing t with
  | nil => rfl
  | cons e l ih =>
    rw [List.foldl_cons, ih, heapAt_placeNode, List.filter_cons]
    by_cases hv : vs = levelValues labelValue e.2 preferences
    · rw [if_pos hv, if_pos (by simp [hv])]
      rfl
    · rw [if_neg hv, if_neg (by simpa [eq_comm] using hv)]

-- ======================= the order

section Ordering

variable {nodeLess : NodeInfo → NodeInfo → Bool} [IsStrictWeakOrder NodeInfo (fun a b => nodeLess a b)]

/-- `popAll` keeps the sort state until the counter is 0. -/
theorem popAll_sorting (fuel : Nat) (h : NodeMaxHeap) (hf : h.length ≤ fuel)
    (hl : h.length ≤ h.nodes.length) (s : Sorting (heapLess nodeLess) h.nodes h.length) :
    Sorting (heapLess nodeLess) (NodeMaxHeap.popAll nodeLess fuel h).nodes 0 ∧
      (NodeMaxHeap.popAll nodeLess fuel h).nodes.Perm h.nodes := by
  induction fuel generalizing h with
  | zero =>
    have h0 : h.length = 0 := by omega
    rw [h0] at s
    exact ⟨s, List.Perm.refl _⟩
  | succ fuel ih =>
    unfold NodeMaxHeap.popAll
    by_cases hpos : 0 < h.length
    · rw [if_pos hpos]
      obtain ⟨s', hre⟩ := sorting_pop s hpos hl
      obtain ⟨hs, hp⟩ := ih (h.pop nodeLess) (by simp only [NodeMaxHeap.pop]; omega)
        (by simp only [NodeMaxHeap.pop]; rw [hre.length_eq]; omega) s'
      exact ⟨hs, hp.trans hre.perm⟩
    · rw [if_neg hpos]
      have h0 : h.length = 0 := by omega
      rw [h0] at s
      exact ⟨s, List.Perm.refl _⟩

/-- On a heap whose counter is its slice's length, `orderedNodes` returns
the slice's nodes, none of them better than one before it. -/
theorem orderedNodes_sorted (meetsConstraints : NodeInfo → Bool) (h : NodeMaxHeap)
    (hl : h.nodes.length = h.length) (hh : IsHeap (heapLess nodeLess) h.nodes h.length) :
    (orderedNodes meetsConstraints nodeLess h).1.Perm h.nodes ∧
      (orderedNodes meetsConstraints nodeLess h).1.Pairwise fun a b => nodeLess b a = false := by
  unfold orderedNodes
  rw [if_neg (by omega)]
  have s : Sorting (heapLess nodeLess) h.nodes h.length := by
    have := sorting_start (hl ▸ hh)
    rwa [hl] at this
  obtain ⟨hs, hp⟩ := popAll_sorting h.length h (Nat.le_refl _) (Nat.le_of_eq hl.symm) s
  -- descending in the heap's order is best first
  exact ⟨hp, hs.pairwise⟩

end Ordering

-- ====================== the leaves

theorem leaf_keeps_best (ns : NodeSet) (labelValue : SpreadDescriptor → NodeInfo → Nat)
    (serviceID : Nat) (preferences : List PlacementPreference) (maxAssignments : Nat)
    (meetsConstraints : NodeInfo → Bool) (nodeLess : NodeInfo → NodeInfo → Bool)
    [IsStrictWeakOrder NodeInfo (fun a b => nodeLess a b)] (hk : 0 < maxAssignments)
    (vs : List Nat) (L : DecisionTree)
    (hL : (tree ns labelValue serviceID preferences maxAssignments meetsConstraints nodeLess).subtree vs =
      some L) :
    let eligible := ((ns.entries.filter fun e => levelValues labelValue e.2 preferences = vs).map
      (·.2)).filter meetsConstraints
    let out := (orderedNodes meetsConstraints nodeLess L.nodeHeap).1
    L.nodeHeap.nodes.length = min maxAssignments eligible.length ∧
      L.nodeHeap.length = min maxAssignments eligible.length ∧
      out.Perm L.nodeHeap.nodes ∧ (out.Pairwise fun a b => nodeLess b a = false) ∧
      ∃ left, eligible.Perm (out ++ left) ∧ ∀ x ∈ left, ∀ y ∈ out, nodeLess x y = false := by
  intro eligible out
  -- the leaf's heap is the fold of `offerNode` over the nodes on its path
  have hheap : L.nodeHeap =
      ((ns.entries.filter fun e => levelValues labelValue e.2 preferences = vs).map (·.2)).foldl
        (fun h n => offerNode nodeLess meetsConstraints maxAssignments n h) ⟨[], 0⟩ := by
    rw [← heapAt_tree ns labelValue serviceID preferences hk meetsConstraints nodeLess vs]
    simp [DecisionTree.heapAt, hL]
  have t : TopK nodeLess meetsConstraints maxAssignments
      ((ns.entries.filter fun e => levelValues labelValue e.2 preferences = vs).map (·.2))
      L.nodeHeap := hheap ▸ topK_foldl _
  obtain ⟨hp, hs⟩ := orderedNodes_sorted meetsConstraints L.nodeHeap t.length_eq t.heap
  obtain ⟨left, hpl, hb⟩ := t.best
  refine ⟨t.length_eq.trans t.count, t.count, hp, hs, left, ?_, ?_⟩
  · exact hpl.trans (hp.symm.append_right left)
  · intro x hx y hy
    exact hb x hx y (hp.subset hy)

/-- A ready node running `tasks` tasks of service 1. -/
def serviceNode (id : Nat) (tasks : Int) : NodeInfo :=
  { NodeInfo.empty ⟨id, .ready, .active, some []⟩ ⟨1000, 1000, []⟩ with
    activeTasksCountByService := fun s => if s = 1 then tasks else 0 }

/-- The label `node.labels.1`, the datacenter: 2 for node 4, 1 for the
others. -/
def datacenter : SpreadDescriptor → NodeInfo → Nat
  | .nodeLabel 1, n => if n.node.id = 4 then 2 else 1
  | _, _ => 0

/-- Nodes 1 to 3 in datacenter 1 with 2, 0 and 1 tasks of the service,
node 4 in datacenter 2. -/
def datacenterNodes : NodeSet :=
  ((((∅ : NodeSet).insert 4 (serviceNode 4 0)).insert 3 (serviceNode 3 1)).insert 2
    (serviceNode 2 0)).insert 1 (serviceNode 1 2)

/-- Datacenter 1's leaf of the tree for two tasks spread over
datacenters, with the scheduler's comparator and no failures. -/
def datacenterLeaf : DecisionTree :=
  ((tree datacenterNodes datacenter 1 [.spread (.nodeLabel 1)] 2 (fun _ => true)
    (taskGroupNodeLess (fun _ => 0) 1)).subtree [1]).getD DecisionTree.empty

theorem datacenter_leaf_keeps_best :
    let eligible := ((datacenterNodes.entries.filter fun e =>
      levelValues datacenter e.2 [.spread (.nodeLabel 1)] = [1]).map (·.2)).filter fun _ => true
    let out := (orderedNodes (fun _ => true) (taskGroupNodeLess (fun _ => 0) 1)
      datacenterLeaf.nodeHeap).1
    datacenterLeaf.nodeHeap.nodes.length = min 2 eligible.length ∧
      datacenterLeaf.nodeHeap.length = min 2 eligible.length ∧
      out.Perm datacenterLeaf.nodeHeap.nodes ∧
      (out.Pairwise fun a b => taskGroupNodeLess (fun _ => 0) 1 b a = false) ∧
      ∃ left, eligible.Perm (out ++ left) ∧
        ∀ x ∈ left, ∀ y ∈ out, taskGroupNodeLess (fun _ => 0) 1 x y = false :=
  leaf_keeps_best datacenterNodes datacenter 1 [.spread (.nodeLabel 1)] 2 (fun _ => true)
    (taskGroupNodeLess (fun _ => 0) 1) (by decide) [1] datacenterLeaf rfl

-- node 1, with the most tasks, is left out; node 2 comes before node 3
example : (orderedNodes (fun _ => true) (taskGroupNodeLess (fun _ => 0) 1)
    datacenterLeaf.nodeHeap).1.map (·.node.id) = [2, 3] := by decide

end SwarmKit.Scheduler.Fit
